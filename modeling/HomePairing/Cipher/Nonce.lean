import HomePairing.Bytes.Block
import HomePairing.Text.Quoted

/-!
# Nonces

A nonce is four zero bytes and eight bytes that say which message is sealed:
the number of a frame inside a session, or the name of a handshake message.
-/

namespace HomePairing

abbrev Nonce := Block 12

namespace Nonce

/-- Four zeros and the eight bytes that tell messages apart. -/
def ofTail (tail : Block 8) : Nonce :=
  ⟨List.replicate 4 0 ++ tail.bytes, by simp⟩

/-- The nonce of frame number `counter`, least significant byte first. -/
def ofCounter (counter : Nat) : Nonce :=
  ofTail (Block.ofNatLE 8 counter)

def describe (nonce : Nonce) : String :=
  "Nonce(" ++ Text.byteRow nonce.bytes ++ ")"

/-- Frames of one session have different nonces. -/
theorem ofCounter_injective {i j : Nat} (hi : i < UInt64.size) (hj : j < UInt64.size)
    (h : ofCounter i = ofCounter j) : i = j := by
  have hb : Bytes.ofNatLE 8 i = Bytes.ofNatLE 8 j := by
    simpa [ofCounter, ofTail, Block.ofNatLE] using h
  have hn := congrArg Bytes.toNatLE hb
  have width : Nat.pow 256 8 = UInt64.size := by decide
  rw [Bytes.toNatLE_ofNatLE, Bytes.toNatLE_ofNatLE, width] at hn
  rwa [Nat.mod_eq_of_lt hi, Nat.mod_eq_of_lt hj] at hn

end Nonce

end HomePairing
