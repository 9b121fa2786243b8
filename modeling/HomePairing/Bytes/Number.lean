import HomePairing.Bytes

/-!
# Numbers as byte strings

The cipher and the curves read their numbers least significant byte first, the
password exchange most significant byte first. Both readings are Horner sums;
both writings take a width and keep the number modulo `256 ^ width`.
-/

namespace HomePairing.Bytes

/-- The number these bytes denote, least significant byte first. -/
def toNatLE (bytes : Bytes) : Nat :=
  bytes.foldr (fun b n => b.toNat + 256 * n) 0

/-- The `width` low bytes of a number, least significant first. -/
def ofNatLE : (width : Nat) → (n : Nat) → Bytes
  | 0, _ => []
  | width + 1, n => UInt8.ofNat n :: ofNatLE width (n / 256)

/-- The number these bytes denote, most significant byte first. -/
def toNatBE (bytes : Bytes) : Nat :=
  bytes.foldl (fun n b => 256 * n + b.toNat) 0

def ofNatBE (width n : Nat) : Bytes :=
  (ofNatLE width n).reverse

/-- The shortest writing of a number, most significant byte first. Zero is one
zero byte. -/
def ofNatMinimal (n : Nat) : Bytes :=
  ofNatBE (n.log2 / 8 + 1) n

@[simp] theorem length_ofNatLE (width n : Nat) : (ofNatLE width n).length = width := by
  induction width generalizing n with
  | zero => rfl
  | succ width ih => simp [ofNatLE, ih]

@[simp] theorem length_ofNatBE (width n : Nat) : (ofNatBE width n).length = width := by
  simp [ofNatBE]

@[simp] theorem toNatLE_cons (b : UInt8) (bytes : Bytes) :
    toNatLE (b :: bytes) = b.toNat + 256 * toNatLE bytes := rfl

/-- The two readings agree on the reversed string. -/
theorem toNatBE_eq_toNatLE_reverse (bytes : Bytes) :
    toNatBE bytes = toNatLE bytes.reverse := by
  simp [toNatBE, toNatLE, List.foldr_reverse, Nat.add_comm]

/-- Writing keeps the number modulo `256 ^ width`. -/
theorem toNatLE_ofNatLE (width n : Nat) :
    toNatLE (ofNatLE width n) = n % Nat.pow 256 width := by
  rw [Nat.pow_eq]
  induction width generalizing n with
  | zero => simp [ofNatLE, toNatLE, Nat.mod_one]
  | succ width ih =>
    have hb : (UInt8.ofNat n).toNat = n % 256 := by simp
    rw [ofNatLE, toNatLE_cons, ih, hb, Nat.pow_succ, Nat.mul_comm (256 ^ width) 256,
      Nat.mod_mul]

/-- Reading and writing at the string's own width loses nothing. -/
theorem ofNatLE_toNatLE (bytes : Bytes) : ofNatLE bytes.length (toNatLE bytes) = bytes := by
  induction bytes with
  | nil => rfl
  | cons b bytes ih =>
    have hlt : b.toNat < 256 := b.toNat_lt
    have hq : (b.toNat + 256 * toNatLE bytes) / 256 = toNatLE bytes := by omega
    have hr : UInt8.ofNat (b.toNat + 256 * toNatLE bytes) = b := by
      apply UInt8.toNat_inj.1
      simp
    rw [List.length_cons, ofNatLE, toNatLE_cons, hq, hr, ih]

end HomePairing.Bytes
