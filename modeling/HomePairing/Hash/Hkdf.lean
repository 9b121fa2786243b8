import HomePairing.Hash.Sha512

/-!
# Key derivation with HMAC-SHA512

`extract` condenses secret material under a salt, `expand?` stretches the result
into as many bytes as are asked for, each output bound to an `info` string. The
counter of the stretching is one byte, so 255 digests are the most there is.
-/

namespace HomePairing.Hkdf

/-- The key filled up to one hash block; a longer key is hashed first. -/
def hmacKey (key : Bytes) : Bytes :=
  let key := if key.length > Sha512.blockSize then Sha512.digest key else key
  key ++ List.replicate (Sha512.blockSize - key.length) 0

def hmac (key message : Bytes) : Bytes :=
  let key := hmacKey key
  let inner := Sha512.digest (key.map (· ^^^ 0x36) ++ message)
  Sha512.digest (key.map (· ^^^ 0x5c) ++ inner)

/-- The pseudorandom key of some secret material under a salt. An absent salt
is a digest's length of zeros. -/
def extract (salt : Option Bytes) (material : Bytes) : Bytes :=
  hmac (salt.getD (List.replicate Sha512.digestSize 0)) material

/-- `count` more blocks of output, the first one numbered `counter` and chained
to the block before it. -/
def blocks (key info : Bytes) (counter : UInt8) (previous : Bytes) : (count : Nat) → Bytes
  | 0 => []
  | count + 1 =>
    let block := hmac key (previous ++ info ++ [counter])
    block ++ blocks key info (counter + 1) block count

/-- The most bytes one pseudorandom key can be stretched to. -/
def limit : Nat := 255 * Sha512.digestSize

/-- The first `length` bytes of output, without regard to the limit. -/
def output (key info : Bytes) (length : Nat) : Bytes :=
  let count := (length + Sha512.digestSize - 1) / Sha512.digestSize
  (blocks key info 1 [] count).take length

/-- Stretch a pseudorandom key to `length` bytes, if it reaches that far. -/
def expand? (key info : Bytes) (length : Nat) : Option Bytes :=
  if length ≤ limit then some (output key info length) else none

/-- Derive `length` bytes from secret material in one step. -/
def derive? (salt : Option Bytes) (material info : Bytes) (length : Nat) : Option Bytes :=
  expand? (extract salt material) info length

@[simp] theorem length_hmac (key message : Bytes) :
    (hmac key message).length = Sha512.digestSize := rfl

theorem length_blocks (key info : Bytes) (counter : UInt8) (previous : Bytes) (count : Nat) :
    (blocks key info counter previous count).length = count * Sha512.digestSize := by
  induction count generalizing counter previous with
  | zero => simp [blocks]
  | succ count ih => simp [blocks, ih, Nat.succ_mul, Nat.add_comm]

@[simp] theorem length_output (key info : Bytes) (length : Nat) :
    (output key info length).length = length := by
  simp only [output, List.length_take, length_blocks, Sha512.digestSize]
  omega

end HomePairing.Hkdf
