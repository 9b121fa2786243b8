import HomePairing.Bytes.Block

/-!
# Entropy

Every secret and every random choice is drawn from one stream of bytes, in the
order in which the draws are made. A draw returns what it took together with
the stream after it, so two draws can share bytes only if the same `Entropy`
value is used twice.

A law that holds "for every random stream" quantifies over `stream`, which is
any function. `ofSeed` is a reproducible one.
-/

namespace HomePairing

/-- A stream of random bytes and how many of them have been taken. -/
structure Entropy where
  /-- The byte at each place of the stream. -/
  stream : Nat → UInt8
  position : Nat

namespace Entropy

/-- Bytes `start`, `start + 1`, … of a stream, `count` of them. -/
def window (stream : Nat → UInt8) (start count : Nat) : Bytes :=
  (List.range count).map fun i => stream (start + i)

/-- The stream after `count` more bytes. -/
def skip (e : Entropy) (count : Nat) : Entropy :=
  { e with position := e.position + count }

def draw (n : Nat) (e : Entropy) : Block n × Entropy :=
  (⟨window e.stream e.position n, by simp [window]⟩, e.skip n)

/-- Take four bytes, least significant first, as a number below `2 ^ 32`. -/
def drawWord (e : Entropy) : Nat × Entropy :=
  let (word, e) := e.draw 4
  (Bytes.toNatLE word.bytes, e)

/-- Draw words until one of them stands for a value. There is none if no word of the stream
ever does. -/
def drawUntil? {Value : Type} (read : Nat → Option Value) (entropy : Entropy) :
    Option (Value × Entropy) :=
  let (word, entropy) := entropy.drawWord
  match read word with
  | some value => some (value, entropy)
  | none => entropy |>.drawUntil? read
partial_fixpoint

/-! ## A reproducible stream -/

/-- The finaliser of the generator: two rounds of shift and multiply. -/
def scramble (z : UInt64) : UInt64 :=
  let z := (z ^^^ (z >>> 30)) * 0xBF58476D1CE4E5B9
  let z := (z ^^^ (z >>> 27)) * 0x94D049BB133111EB
  z ^^^ (z >>> 31)

/-- Word `i` of the generator started at `seed`: the state moves by the same odd
step before every word. -/
def generatedWord (seed : UInt64) (i : Nat) : UInt64 :=
  scramble (seed + UInt64.ofNat (i + 1) * 0x9E3779B97F4A7C15)

/-- Byte `i` of the generator: eight bytes a word, least significant first. -/
def generatedByte (seed : UInt64) (i : Nat) : UInt8 :=
  (generatedWord seed (i / 8) >>> UInt64.ofNat (8 * (i % 8))).toUInt8

/-- The stream that starts with the given bytes and goes on with the generator
started at `seed`. -/
def ofSeed (first : Bytes) (seed : UInt64) : Entropy where
  stream i := if h : i < first.length then first[i] else generatedByte seed (i - first.length)
  position := 0

end Entropy

end HomePairing
