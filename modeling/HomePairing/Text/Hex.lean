import HomePairing.Bytes

/-!
# Bytes as digits

Keys and proofs are shown to people as digits in base sixteen, two for every
byte. `hex` writes them in lower case, `ofHex?` reads either case, and
`ofHex?_hex` says that reading undoes writing.
-/

namespace HomePairing.Text

/-- The lower-case digits of a number in base sixteen, without leading zeros. -/
def hexDigits (n : Nat) : String :=
  String.ofList (Nat.toDigits 16 n)

def hexPair (b : UInt8) : List Char :=
  [Nat.digitChar (b.toNat / 16), Nat.digitChar (b.toNat % 16)]

/-- Two lower-case digits in base sixteen. -/
def hexByte (b : UInt8) : String :=
  String.ofList (hexPair b)

def hex (bytes : Bytes) : String :=
  String.ofList (bytes.flatMap hexPair)

/-- The value of a digit in base sixteen. -/
def hexValue? (c : Char) : Option Nat :=
  if '0' ≤ c ∧ c ≤ '9' then some (c.toNat - '0'.toNat)
  else if 'a' ≤ c ∧ c ≤ 'f' then some (c.toNat - 'a'.toNat + 10)
  else if 'A' ≤ c ∧ c ≤ 'F' then some (c.toNat - 'A'.toNat + 10)
  else none

/-- The bytes that pairs of digits stand for. -/
def ofHexPairs? : List Char → Option Bytes
  | [] => some []
  | [_] => none
  | high :: low :: rest =>
    match hexValue? high, hexValue? low, ofHexPairs? rest with
    | some high, some low, some bytes => some (UInt8.ofNat (16 * high + low) :: bytes)
    | _, _, _ => none

/-- The bytes that a run of digits stands for. -/
def ofHex? (digits : String) : Option Bytes :=
  ofHexPairs? digits.toList

theorem hexValue?_digitChar {n : Nat} (h : n < 16) : hexValue? (Nat.digitChar n) = some n := by
  have : ∀ n : Fin 16, hexValue? (Nat.digitChar n) = some n.val := by decide
  exact this ⟨n, h⟩

theorem ofHexPairs?_hexPair (b : UInt8) (rest : List Char) :
    ofHexPairs? (hexPair b ++ rest) = (ofHexPairs? rest).map (b :: ·) := by
  have hb := b.toNat_lt
  have hv : UInt8.ofNat (16 * (b.toNat / 16) + b.toNat % 16) = b := by
    rw [Nat.div_add_mod, UInt8.ofNat_toNat]
  simp only [hexPair, List.cons_append, List.nil_append, ofHexPairs?]
  rw [hexValue?_digitChar (by omega), hexValue?_digitChar (by omega)]
  cases ofHexPairs? rest with
  | none => rfl
  | some bytes => simp [hv]

/-- Reading the digits of some bytes gives the bytes back. -/
@[simp] theorem ofHex?_hex (bytes : Bytes) : ofHex? (hex bytes) = some bytes := by
  simp only [ofHex?, hex, String.toList_ofList]
  induction bytes with
  | nil => rfl
  | cons b bytes ih => rw [List.flatMap_cons, ofHexPairs?_hexPair, ih]; rfl

end HomePairing.Text
