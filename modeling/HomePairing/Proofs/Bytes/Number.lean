import HomePairing.Bytes.Number
import Mathlib.Algebra.Ring.Nat

/-!
# Numbers at a width

A number keeps its value however it is written: in as few bytes as it takes
(`toNatBE_ofNatMinimal`), and with zeros in front of it (`toNatBE_padLeft`). What is
below `256 ^ width` takes at most `width` bytes (`length_ofNatMinimal_le`). At a given width
a number is written in one way only, so filling up a string to the width leaves nothing of
it but the number (`padLeft_eq_ofNatBE`).
-/

namespace HomePairing.Bytes

/-- As many bytes have room for the number they denote. -/
theorem toNatLE_lt (bytes : Bytes) : toNatLE bytes < 256 ^ bytes.length := by
  have room := toNatLE_ofNatLE bytes.length (toNatLE bytes)
  rw [ofNatLE_toNatLE] at room
  rw [room]
  exact Nat.mod_lt _ (Nat.pow_pos (by decide))

theorem toNatBE_cons_zero (bytes : Bytes) : toNatBE (0 :: bytes) = toNatBE bytes := rfl

/-- Zeros in front do not count. -/
theorem toNatBE_padLeft (width : Nat) (bytes : Bytes) :
    toNatBE (padLeft width bytes) = toNatBE bytes := by
  unfold padLeft
  induction width - bytes.length with
  | zero => rfl
  | succ zeros ih => rw [List.replicate_succ, List.cons_append, toNatBE_cons_zero, ih]

theorem toNatBE_ofNatBE {width n : Nat} (h : n < 256 ^ width) :
    toNatBE (ofNatBE width n) = n := by
  rw [toNatBE_eq_toNatLE_reverse, ofNatBE, List.reverse_reverse, toNatLE_ofNatLE]
  exact Nat.mod_eq_of_lt h

/-- A string is what is written of its number at its own width. -/
theorem ofNatBE_toNatBE (bytes : Bytes) : ofNatBE bytes.length (toNatBE bytes) = bytes := by
  have back := ofNatLE_toNatLE bytes.reverse
  rw [List.length_reverse] at back
  rw [toNatBE_eq_toNatLE_reverse, ofNatBE, back, List.reverse_reverse]

/-- What fits a width and is filled up to it is the number at that width. -/
theorem padLeft_eq_ofNatBE {width : Nat} {bytes : Bytes} (fits : bytes.length ≤ width) :
    padLeft width bytes = ofNatBE width (toNatBE bytes) := by
  have full : (padLeft width bytes).length = width := by
    rw [length_padLeft]
    exact Nat.max_eq_left fits
  calc padLeft width bytes
      = ofNatBE (padLeft width bytes).length (toNatBE (padLeft width bytes)) :=
        (ofNatBE_toNatBE _).symm
    _ = ofNatBE width (toNatBE bytes) := by rw [full, toNatBE_padLeft]

theorem pow_256 (width : Nat) : 256 ^ width = 2 ^ (8 * width) := by
  rw [Nat.pow_mul]

/-- The shortest writing has room for the number. -/
theorem lt_pow_minimal (n : Nat) : n < 256 ^ (n.log2 / 8 + 1) := by
  have digits : n < 2 ^ (n.log2 + 1) := Nat.lt_log2_self
  rw [pow_256]
  exact Nat.lt_of_lt_of_le digits (Nat.pow_le_pow_right (by decide) (by omega))

@[simp] theorem toNatBE_ofNatMinimal (n : Nat) : toNatBE (ofNatMinimal n) = n :=
  toNatBE_ofNatBE (lt_pow_minimal n)

/-- Zero takes a byte as well, so there has to be room for one. -/
theorem length_ofNatMinimal_le {width n : Nat} (h : n < 256 ^ width) (room : 0 < width) :
    (ofNatMinimal n).length ≤ width := by
  rw [ofNatMinimal, length_ofNatBE]
  by_cases zero : n = 0
  · subst zero
    exact room
  · rw [pow_256] at h
    have digits := (Nat.log2_lt zero).mpr h
    omega

end HomePairing.Bytes
