import HomePairing.Bytes.Block
import HomePairing.Curve.Field
import HomePairing.Text.Quoted

/-!
# X25519 key agreement

Multiplication on the Montgomery curve by its first coordinate alone: two points
whose difference is known climb together, one bit of the secret at a time. Each
side multiplies the other's public value by its own secret and gets the same.
-/

namespace HomePairing.X25519

/-- Two points on the way up, as ratios; the second is the first plus the start. -/
structure Rung where
  x2 : Nat
  z2 : Nat
  x3 : Nat
  z3 : Nat

def Rung.swap (r : Rung) : Rung := ⟨r.x3, r.z3, r.x2, r.z2⟩

/-- Double the first point and add the second to it; `u` is where the climb
started. -/
def Rung.step (u : Nat) (r : Rung) : Rung :=
  let a := Field.add r.x2 r.z2
  let b := Field.sub r.x2 r.z2
  let aa := Field.mul a a
  let bb := Field.mul b b
  let e := Field.sub aa bb
  let da := Field.mul (Field.sub r.x3 r.z3) a
  let cb := Field.mul (Field.add r.x3 r.z3) b
  let sum := Field.add da cb
  let difference := Field.sub da cb
  { x2 := Field.mul aa bb
    z2 := Field.mul e (Field.add aa (Field.mul 121665 e))
    x3 := Field.mul sum sum
    z3 := Field.mul u (Field.mul difference difference) }

/-- Climb the `bits` low bits of a number, highest first. -/
def climb (u k : Nat) (r : Rung) : (bits : Nat) → Rung
  | 0 => r
  | bits + 1 =>
    let r := if k.testBit bits then (r.swap.step u).swap else r.step u
    climb u k r bits

/-- The scalar of a secret: a multiple of eight with bit 254 set. -/
def secretScalar (secret : Key) : Nat :=
  Bytes.toNatLE secret.bytes % Nat.pow 2 254 / 8 * 8 + Nat.pow 2 254

/-- The coordinate these bytes denote; the topmost bit is ignored. -/
def coordinate (key : Key) : Nat :=
  Bytes.toNatLE key.bytes % Nat.pow 2 255 % Field.prime

/-- The secret's multiple of a point, by its coordinate. -/
def multiply (secret : Key) (u : Nat) : Key :=
  let r := climb u (secretScalar secret) ⟨1, 0, u, 1⟩ 255
  Block.ofNatLE 32 (Field.mul r.x2 (Field.inv r.z2))

def publicKey (secret : Key) : Key := multiply secret 9

/-- What the owner of a secret shares with the owner of a public value. -/
def agree (secret theirs : Key) : Key := multiply secret (coordinate theirs)

def describePublic (key : Key) : String :=
  "X25519PublicKey(" ++ Text.byteRow key.bytes ++ ")"

end HomePairing.X25519
