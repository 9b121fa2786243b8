import HomePairing.Bytes.Number

/-!
# Structured text: values

A value as it stands in a file. Strings keep the spelling between their quotes
and numbers keep their digits, so that a part of a file which nobody reads is
held to the grammar alone; what a spelling means is asked of `Spelling` and of
`Value.byte?`.
-/

namespace HomePairing.Json

/-- A value, with strings and numbers as they are spelled. -/
inductive Value where
  | null
  | bool (value : Bool)
  | number (digits : Bytes)
  | string (spelling : Bytes)
  | array (elements : List Value)
  | object (members : List (Bytes × Value))

def isDigit (b : UInt8) : Bool := 48 ≤ b && b ≤ 57

/-- The number that some digits denote, if there are only digits. -/
def natural? (digits : Bytes) : Option Nat :=
  if digits.all isDigit && !digits.isEmpty then
    some (digits.foldl (fun n b => 10 * n + (b.toNat - 48)) 0)
  else
    none

/-- The byte that a value is: a whole number up to 255, without sign, fraction or
exponent. -/
def Value.byte? : Value → Option UInt8
  | .number digits =>
    match natural? digits with
    | some n => if n < 256 then some (UInt8.ofNat n) else none
    | none => none
  | _ => none

def Value.ofByte (b : UInt8) : Value :=
  .number (Bytes.ofString (toString b.toNat))

end HomePairing.Json
