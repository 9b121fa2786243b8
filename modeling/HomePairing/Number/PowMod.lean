/-!
# Powers modulo a number

Square and multiply, from the exponent's highest bit down. `powMod_eq` says that
this is the power's remainder, so nobody needs to look inside.
-/

namespace HomePairing

/-- `base ^ exponent` modulo `modulus`, for exponents below `2 ^ bits`. -/
def powModBits (base modulus : Nat) : (bits exponent : Nat) → Nat
  | 0, _ => 1 % modulus
  | bits + 1, exponent =>
    let root := powModBits base modulus bits (exponent / 2)
    let square := root * root % modulus
    if exponent % 2 = 1 then square * base % modulus else square

/-- `base ^ exponent` modulo `modulus`. -/
def powMod (base exponent modulus : Nat) : Nat :=
  powModBits (base % modulus) modulus (exponent.log2 + 1) exponent

theorem powModBits_eq (base modulus bits exponent : Nat) (h : exponent < Nat.pow 2 bits) :
    powModBits base modulus bits exponent = Nat.pow base exponent % modulus := by
  simp only [Nat.pow_eq] at h ⊢
  induction bits generalizing exponent with
  | zero =>
    have : exponent = 0 := by simpa using h
    simp [powModBits, this]
  | succ bits ih =>
    have hhalf : exponent / 2 < 2 ^ bits := by
      rw [Nat.pow_succ] at h; omega
    simp only [powModBits, ih _ hhalf]
    split
    · next hodd =>
      have he : exponent = exponent / 2 + exponent / 2 + 1 := by omega
      conv => rhs; rw [he, Nat.pow_succ, Nat.pow_add]
      simp [Nat.mul_mod]
    · next heven =>
      have he : exponent = exponent / 2 + exponent / 2 := by omega
      conv => rhs; rw [he, Nat.pow_add]
      simp [Nat.mul_mod]

theorem powMod_eq (base exponent modulus : Nat) :
    powMod base exponent modulus = Nat.pow base exponent % modulus := by
  unfold powMod
  rw [powModBits_eq _ _ _ _ Nat.lt_log2_self, Nat.pow_eq, Nat.pow_eq, ← Nat.pow_mod]

end HomePairing
