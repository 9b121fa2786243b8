import HomePairing.Bytes.Number

/-!
# Structured text: how a string is spelled

Between quotes, a quote, a backslash and the control characters are spelled with
a backslash. `encode` spells nothing else that way; `decode?` also accepts the
other spellings that the grammar has, among them a character by its number in
base sixteen, with two numbers for a character beyond the first plane.
-/

namespace HomePairing.Json.Spelling

/-- The digit of base sixteen that stands for a number below sixteen. -/
def hexDigit (n : Nat) : UInt8 :=
  UInt8.ofNat (if n < 10 then 48 + n else 87 + n)

/-- The number below sixteen that a digit of base sixteen stands for. -/
def hexValue? (b : UInt8) : Option Nat :=
  if 48 ≤ b && b ≤ 57 then some (b.toNat - 48)
  else if 97 ≤ b && b ≤ 102 then some (b.toNat - 87)
  else if 65 ≤ b && b ≤ 70 then some (b.toNat - 55)
  else none

/-- The number that four digits of base sixteen stand for. -/
def unit? (a b c d : UInt8) : Option Nat := do
  let a ← hexValue? a
  let b ← hexValue? b
  let c ← hexValue? c
  let d ← hexValue? d
  return ((a * 16 + b) * 16 + c) * 16 + d

/-! ## Writing -/

/-- How one byte is spelled. -/
def encodeByte (b : UInt8) : Bytes :=
  if b = 34 then [92, 34]
  else if b = 92 then [92, 92]
  else if b = 8 then [92, 98]
  else if b = 9 then [92, 116]
  else if b = 10 then [92, 110]
  else if b = 12 then [92, 102]
  else if b = 13 then [92, 114]
  else if b < 32 then [92, 117, 48, 48, hexDigit (b.toNat / 16), hexDigit (b.toNat % 16)]
  else [b]

def encode (text : String) : Bytes :=
  (Bytes.ofString text).flatMap encodeByte

/-! ## Reading -/

/-- The byte that a letter after a backslash stands for. -/
def escaped? (b : UInt8) : Option UInt8 :=
  if b = 34 || b = 92 || b = 47 then some b
  else if b = 98 then some 8
  else if b = 102 then some 12
  else if b = 110 then some 10
  else if b = 114 then some 13
  else if b = 116 then some 9
  else none

/-- Whether a number is the first half of a pair. -/
def isHigh (unit : Nat) : Bool := 0xD800 ≤ unit && unit ≤ 0xDBFF

/-- Whether a number is the second half of a pair. -/
def isLow (unit : Nat) : Bool := 0xDC00 ≤ unit && unit ≤ 0xDFFF

/-- The bytes of the character with a number. -/
def characterBytes (n : Nat) : Bytes :=
  Bytes.ofString (String.singleton (Char.ofNat n))

/-- The bytes that a spelling stands for. A half of a pair on its own stands for
nothing. -/
def bytes? : Bytes → Option Bytes
  | [] => some []
  | 92 :: 117 :: a :: b :: c :: d :: 92 :: 117 :: e :: f :: g :: h :: rest =>
    match unit? a b c d with
    | none => none
    | some first =>
      if isHigh first then
        match unit? e f g h with
        | none => none
        | some second =>
          if isLow second then
            let n := 0x10000 + (first - 0xD800) * 0x400 + (second - 0xDC00)
            (bytes? rest).map (characterBytes n ++ ·)
          else
            none
      else if isLow first then
        none
      else
        (bytes? (92 :: 117 :: e :: f :: g :: h :: rest)).map (characterBytes first ++ ·)
  | 92 :: 117 :: a :: b :: c :: d :: rest =>
    match unit? a b c d with
    | none => none
    | some unit =>
      if isHigh unit || isLow unit then none
      else (bytes? rest).map (characterBytes unit ++ ·)
  | 92 :: b :: rest =>
    match escaped? b with
    | none => none
    | some b => (bytes? rest).map (b :: ·)
  | b :: rest => (bytes? rest).map (b :: ·)

/-- The text that a spelling stands for. -/
def decode? (spelling : Bytes) : Option String :=
  (bytes? spelling).bind Bytes.toString?

/-- Cut a spelling off at the quote that ends it. Only its form is looked at: no
control characters, and after a backslash a letter that may stand there. -/
def scan : Bytes → Option (Bytes × Bytes)
  | [] => none
  | 34 :: rest => some ([], rest)
  | 92 :: 117 :: a :: b :: c :: d :: rest =>
    match unit? a b c d with
    | none => none
    | some _ => (scan rest).map fun (s, rest) => (92 :: 117 :: a :: b :: c :: d :: s, rest)
  | 92 :: b :: rest =>
    match escaped? b with
    | none => none
    | some _ => (scan rest).map fun (s, rest) => (92 :: b :: s, rest)
  | b :: rest => if b < 32 then none else (scan rest).map fun (s, rest) => (b :: s, rest)

end HomePairing.Json.Spelling
