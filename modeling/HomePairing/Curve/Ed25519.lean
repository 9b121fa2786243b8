import HomePairing.Curve.Edwards
import HomePairing.Hash.Sha512

/-!
# Ed25519 signatures

A secret seed is hashed into a scalar and a nonce key. A signature is a point
`R` and a number `S` below the group order; it is accepted if `[S] B - [k] A`
is written exactly as `R`, where `k` hashes `R`, the signer's key and the
message.
-/

namespace HomePairing.Ed25519

/-- The scalar of a hashed seed: a multiple of eight with bit 254 set. -/
def clampScalar (n : Nat) : Nat :=
  n % Nat.pow 2 254 / 8 * 8 + Nat.pow 2 254

def secretScalar (seed : Key) : Nat :=
  clampScalar (Bytes.toNatLE ((Sha512.digest seed.bytes).take 32))

def publicKey (seed : Key) : Key :=
  (Edwards.base.scale (secretScalar seed)).compress

/-- A digest as a number below the group order. -/
def challenge (parts : Bytes) : Nat :=
  Bytes.toNatLE (Sha512.digest parts) % Edwards.order

def sign (seed : Key) (message : Bytes) : Signature :=
  let nonceKey := (Sha512.digest seed.bytes).drop 32
  let r := challenge (nonceKey ++ message)
  let point := (Edwards.base.scale r).compress
  let k := challenge (point.bytes ++ (publicKey seed).bytes ++ message)
  let s := (r + k * secretScalar seed) % Edwards.order
  ⟨point.bytes ++ (Block.ofNatLE 32 s).bytes, by simp⟩

/-- Whether some bytes stand for a point, and so can be a public key. -/
def isPublicKey (key : Key) : Bool :=
  (Edwards.Point.decompress? key).isSome

/-- Whether a signature over a message is the key owner's. -/
def verify (key : Key) (message : Bytes) (signature : Signature) : Bool :=
  let point := signature.bytes.take 32
  let s := Bytes.toNatLE (signature.bytes.drop 32)
  match Edwards.Point.decompress? key with
  | none => false
  | some a =>
    let k := challenge (point ++ key.bytes ++ message)
    let expected := (Edwards.base.scale s).add (a.neg.scale k)
    s < Edwards.order && expected.compress.bytes == point

end HomePairing.Ed25519
