import HomePairing.Json.Value

/-!
# Structured text: writing

One element or member a line, two blanks deeper with every level. An array or
object without anything in it stays on its line.
-/

namespace HomePairing.Json

/-- The start of a line at a level. -/
def newLine (level : Nat) : Bytes :=
  10 :: List.replicate (2 * level) 32

def quoted (spelling : Bytes) : Bytes :=
  34 :: (spelling ++ [34])

mutual

/-- A value whose first line starts at a level. -/
def Value.write (level : Nat) : Value → Bytes
  | .null => [110, 117, 108, 108]
  | .bool true => [116, 114, 117, 101]
  | .bool false => [102, 97, 108, 115, 101]
  | .number digits => digits
  | .string spelling => quoted spelling
  | .array [] => [91, 93]
  | .array (first :: rest) =>
    91 :: (newLine (level + 1) ++ first.write (level + 1) ++ writeElements (level + 1) rest ++
      newLine level ++ [93])
  | .object [] => [123, 125]
  | .object ((key, first) :: rest) =>
    123 :: (newLine (level + 1) ++ quoted key ++ [58, 32] ++ first.write (level + 1) ++
      writeMembers (level + 1) rest ++ newLine level ++ [125])

/-- The elements after the first, each with the comma before it. -/
def writeElements (level : Nat) : List Value → Bytes
  | [] => []
  | value :: rest => 44 :: (newLine level ++ value.write level ++ writeElements level rest)

/-- The members after the first, each with the comma before it. -/
def writeMembers (level : Nat) : List (Bytes × Value) → Bytes
  | [] => []
  | (key, value) :: rest =>
    44 :: (newLine level ++ quoted key ++ [58, 32] ++ value.write level ++
      writeMembers level rest)

end

def render (value : Value) : Bytes :=
  value.write 0

end HomePairing.Json
