import HomePairing.Bytes.Block

/-!
# The Poly1305 authenticator

A one-time key gives a point `r` and an offset `s`. The message, cut into
sixteen-byte chunks with a one above each, is a polynomial; its value at `r`
modulo `2 ^ 130 - 5`, plus `s`, is the tag. This stands for the authenticator in the
library `chacha20poly1305`; no message is too long for it here.
-/

namespace HomePairing.Poly1305

/-- The field the polynomial is evaluated in. -/
def prime : Nat := Nat.pow 2 130 - 5

/-- The bits of the point that a one-time key may set. -/
def clamp (r : Nat) : Nat := r &&& 0x0ffffffc0ffffffc0ffffffc0fffffff

/-- Horner's rule over the chunks of a message, at most `count` of them. -/
def accumulate (r acc : Nat) (message : Bytes) : (count : Nat) → Nat
  | 0 => acc
  | count + 1 =>
    let chunk := Bytes.toNatLE (message.take 16 ++ [1])
    accumulate r ((acc + chunk) * r % prime) (message.drop 16) count

def tag (key : Key) (message : Bytes) : Block 16 :=
  let r := clamp (Bytes.toNatLE (key.bytes.take 16))
  let s := Bytes.toNatLE (key.bytes.drop 16)
  let value := accumulate r 0 message ((message.length + 15) / 16)
  Block.ofNatLE 16 (value + s)

end HomePairing.Poly1305
