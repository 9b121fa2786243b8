import HomePairing.Bytes
import Mathlib.Data.List.Basic

/-!
# Texts of single bytes

In the UTF-8 form of a text a byte below 128 is a character of its own, and any other
character has a byte of 128 or more. So a text and its bytes are the same row of signs as
soon as either of them has nothing from 128 on (`ofString_of_ascii`, `ascii_of_ofString`).
-/

namespace HomePairing.Bytes

theorem ofString_eq_flatMap (text : String) :
    ofString text = text.toList.flatMap String.utf8EncodeChar := by
  have spelled : text.toByteArray = text.toList.utf8Encode := by
    rw [← String.toByteArray_ofList, String.ofList_toList]
  show text.toByteArray.data.toList = _
  rw [spelled, List.utf8Encode, List.toList_data_toByteArray]

/-- A text of such characters is as many bytes. -/
theorem ofString_of_ascii {text : String} (ascii : ∀ c ∈ text.toList, c.toNat < 128) :
    ofString text = text.toList.map fun c => UInt8.ofNat c.toNat := by
  rw [ofString_eq_flatMap, List.map_eq_flatMap]
  refine List.flatMap_congr fun c there => ?_
  have single : c.val.toNat ≤ 127 := Nat.le_of_lt_succ (ascii c there)
  rw [String.utf8EncodeChar]
  exact if_pos single

/-- Any other character shows in its bytes. -/
theorem exists_high_byte {c : Char} (high : 128 ≤ c.toNat) :
    ∃ b ∈ String.utf8EncodeChar c, 128 ≤ b.toNat := by
  have more : ¬ c.val.toNat ≤ 127 := Nat.not_le_of_lt high
  rw [String.utf8EncodeChar]
  simp only [if_neg more]
  -- It is the first byte that tells, whatever the number of bytes.
  split
  · exact ⟨_, List.mem_cons_self, by rw [UInt8.toNat_ofNat']; omega⟩
  · split
    · exact ⟨_, List.mem_cons_self, by rw [UInt8.toNat_ofNat']; omega⟩
    · exact ⟨_, List.mem_cons_self, by rw [UInt8.toNat_ofNat']; omega⟩

theorem ascii_of_ofString {text : String} (low : ∀ b ∈ ofString text, b.toNat < 128) :
    ∀ c ∈ text.toList, c.toNat < 128 := by
  intro c there
  by_contra high
  obtain ⟨b, byte, shows⟩ := exists_high_byte (Nat.le_of_not_lt high)
  rw [ofString_eq_flatMap] at low
  exact absurd (low b (List.mem_flatMap.mpr ⟨c, there, byte⟩)) (Nat.not_lt.mpr shows)

end HomePairing.Bytes
