import HomePairing.Bytes.Number

/-!
# Byte strings of a fixed length

Keys, signatures and nonces have one length each. `Block n` carries the length
in its type, so a function that takes a `Key` has no length left to check, and
the checks stand where bytes of unknown origin become blocks: `Block.ofBytes?`.
-/

namespace HomePairing

/-- A string of exactly `n` bytes. -/
structure Block (n : Nat) where
  bytes : Bytes
  length_eq : bytes.length = n
deriving DecidableEq

/-- Keys of every kind: ciphers, signatures and key agreement all use 32 bytes. -/
abbrev Key := Block 32

abbrev Signature := Block 64

namespace Block

variable {n : Nat}

attribute [simp] length_eq

@[ext] theorem ext {a b : Block n} (h : a.bytes = b.bytes) : a = b := by
  cases a; cases b; cases h; rfl

/-- The block made of these bytes, if there are `n` of them. -/
def ofBytes? (bytes : Bytes) : Option (Block n) :=
  if h : bytes.length = n then some ⟨bytes, h⟩ else none

/-- The first `n` bytes, with zeros where the string is too short. -/
def fit (n : Nat) (bytes : Bytes) : Block n :=
  ⟨(bytes ++ List.replicate n 0).take n, by simp⟩

def ofNatLE (n value : Nat) : Block n :=
  ⟨Bytes.ofNatLE n value, Bytes.length_ofNatLE n value⟩

def zero : Block n :=
  ⟨List.replicate n 0, by simp⟩

instance : Inhabited (Block n) := ⟨zero⟩

@[simp] theorem ofBytes?_bytes (b : Block n) : ofBytes? b.bytes = some b := by
  simp [ofBytes?]

end Block

end HomePairing
