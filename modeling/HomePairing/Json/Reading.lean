import HomePairing.Json.Spelling
import HomePairing.Json.Value

/-!
# Structured text: reading

A text is one value with blanks around it. Values nest to any depth; each level
takes at least one byte, which bounds the descent.
-/

namespace HomePairing.Json

/-- Whether a byte may stand between the parts of a text. -/
def isBlank (b : UInt8) : Bool :=
  b == 32 || b == 10 || b == 13 || b == 9

/-- The text after the blanks in front. -/
def skipBlanks (text : Bytes) : Bytes :=
  text.dropWhile isBlank

/-- Cut off a run of at least one digit. -/
def scanDigits (text : Bytes) : Option (Bytes × Bytes) :=
  let digits := text.takeWhile isDigit
  if digits.isEmpty then none else some (digits, text.dropWhile isDigit)

/-- Cut off a whole number: a lone zero, or digits that do not start with one. -/
def scanWhole : Bytes → Option (Bytes × Bytes)
  | 48 :: rest => some ([48], rest)
  | text => scanDigits text

def scanFraction : Bytes → Option (Bytes × Bytes)
  | 46 :: rest => (scanDigits rest).map fun (digits, rest) => (46 :: digits, rest)
  | text => some ([], text)

def scanSign : Bytes → Bytes × Bytes
  | 43 :: rest => ([43], rest)
  | 45 :: rest => ([45], rest)
  | text => ([], text)

def scanExponent : Bytes → Option (Bytes × Bytes)
  | [] => some ([], [])
  | e :: rest =>
    if e == 101 || e == 69 then
      let (sign, rest) := scanSign rest
      (scanDigits rest).map fun (digits, rest) => (e :: (sign ++ digits), rest)
    else
      some ([], e :: rest)

def scanUnsigned (text : Bytes) : Option (Bytes × Bytes) := do
  let (whole, text) ← scanWhole text
  let (fraction, text) ← scanFraction text
  let (exponent, text) ← scanExponent text
  return (whole ++ fraction ++ exponent, text)

def scanNumber : Bytes → Option (Bytes × Bytes)
  | 45 :: rest => (scanUnsigned rest).map fun (digits, rest) => (45 :: digits, rest)
  | text => scanUnsigned text

/-- Cut off the key of a member and the colon after it. -/
def scanKey (text : Bytes) : Option (Bytes × Bytes) :=
  match skipBlanks text with
  | 34 :: rest =>
    match Spelling.scan rest with
    | some (key, rest) =>
      match skipBlanks rest with
      | 58 :: rest => some (key, rest)
      | _ => none
    | none => none
  | _ => none

mutual

/-- Cut off a value; `depth` bounds the descent. -/
def scanValue : (depth : Nat) → Bytes → Option (Value × Bytes)
  | 0, _ => none
  | depth + 1, text =>
    match skipBlanks text with
    | 110 :: 117 :: 108 :: 108 :: rest => some (.null, rest)
    | 116 :: 114 :: 117 :: 101 :: rest => some (.bool true, rest)
    | 102 :: 97 :: 108 :: 115 :: 101 :: rest => some (.bool false, rest)
    | 34 :: rest => (Spelling.scan rest).map fun (s, rest) => (.string s, rest)
    | 91 :: rest =>
      match skipBlanks rest with
      | 93 :: rest => some (.array [], rest)
      | rest => (scanElements depth rest).map fun (elements, rest) => (.array elements, rest)
    | 123 :: rest =>
      match skipBlanks rest with
      | 125 :: rest => some (.object [], rest)
      | rest => (scanMembers depth rest).map fun (members, rest) => (.object members, rest)
    | text => (scanNumber text).map fun (digits, rest) => (.number digits, rest)

/-- Cut off the elements of an array and the bracket that ends it. -/
def scanElements : (depth : Nat) → Bytes → Option (List Value × Bytes)
  | 0, _ => none
  | depth + 1, text =>
    match scanValue depth text with
    | none => none
    | some (value, rest) =>
      match skipBlanks rest with
      | 44 :: rest => (scanElements depth rest).map fun (values, rest) => (value :: values, rest)
      | 93 :: rest => some ([value], rest)
      | _ => none

/-- Cut off the members of an object and the brace that ends it. -/
def scanMembers : (depth : Nat) → Bytes → Option (List (Bytes × Value) × Bytes)
  | 0, _ => none
  | depth + 1, text =>
    match scanKey text with
    | none => none
    | some (key, rest) =>
      match scanValue depth rest with
      | none => none
      | some (value, rest) =>
        match skipBlanks rest with
        | 44 :: rest =>
          (scanMembers depth rest).map fun (members, rest) => ((key, value) :: members, rest)
        | 125 :: rest => some ([(key, value)], rest)
        | _ => none

end

/-- Read a text. Every second step of the descent takes a byte. -/
def parse? (text : Bytes) : Option Value :=
  match scanValue (2 * text.length + 1) text with
  | some (value, rest) => if (skipBlanks rest).isEmpty then some value else none
  | none => none

end HomePairing.Json
