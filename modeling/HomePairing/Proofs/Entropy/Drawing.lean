import HomePairing.Entropy
import HomePairing.Proofs.Bytes.Number

/-!
# Drawing until something comes

`Entropy.drawUntil?` has no bound: on a stream whose words never stand for anything it has no
answer. Where it has one, a first word stands for it after some that stood for nothing, and
that is how facts about it are proved (`drawUntil?_induction`).
-/

namespace HomePairing.Entropy

variable {Value : Type} {read : Nat → Option Value} {entropy rest : Entropy} {value : Value}

theorem drawUntil?_of_some (stands : read entropy.drawWord.1 = some value) :
    entropy.drawUntil? read = some (value, entropy.drawWord.2) := by
  rw [drawUntil?]
  simp only [stands]

theorem drawUntil?_of_none (blank : read entropy.drawWord.1 = none) :
    entropy.drawUntil? read = entropy.drawWord.2.drawUntil? read := by
  rw [drawUntil?]
  simp only [blank]

/-- What is drawn in the end: the value of a word, after words without any. -/
theorem drawUntil?_induction (Drawn : Entropy → Value → Entropy → Prop)
    (word : ∀ entropy value, read entropy.drawWord.1 = some value →
      Drawn entropy value entropy.drawWord.2)
    (blank : ∀ entropy value rest, read entropy.drawWord.1 = none →
      Drawn entropy.drawWord.2 value rest → Drawn entropy value rest)
    (drawn : entropy.drawUntil? read = some (value, rest)) : Drawn entropy value rest := by
  refine drawUntil?.partial_correctness read (fun entropy result =>
    Drawn entropy result.1 result.2) ?_ entropy (value, rest) drawn
  rintro shorter ih entropy ⟨value, rest⟩ drawn
  simp only at drawn
  split at drawn
  · next stands =>
      cases drawn
      exact word entropy value stands
  · next stands => exact blank entropy value rest stands (ih _ _ drawn)

/-- Something has been taken from the stream. -/
theorem position_lt_of_drawUntil? (drawn : entropy.drawUntil? read = some (value, rest)) :
    entropy.position < rest.position := by
  refine drawUntil?_induction (fun entropy _ rest => entropy.position < rest.position)
    (fun entropy value _ => ?_) (fun entropy value rest _ later => ?_) drawn
  · exact Nat.lt_add_of_pos_right (by decide)
  · exact Nat.lt_of_le_of_lt (Nat.le_add_right _ _) later

/-! ## Words -/

theorem drawWord_lt (entropy : Entropy) : entropy.drawWord.1 < UInt32.size := by
  have word := Bytes.toNatLE_lt (entropy.draw 4).1.bytes
  rw [(entropy.draw 4).1.length_eq] at word
  exact word

/-- Every word is the first of some stream. -/
theorem exists_drawWord_eq {word : Nat} (small : word < UInt32.size) :
    ∃ entropy : Entropy, entropy.drawWord.1 = word := by
  have taken : window (ofSeed (Bytes.ofNatLE 4 word) 0).stream 0 4 = Bytes.ofNatLE 4 word := rfl
  refine ⟨ofSeed (Bytes.ofNatLE 4 word) 0, ?_⟩
  show Bytes.toNatLE (window (ofSeed (Bytes.ofNatLE 4 word) 0).stream 0 4) = word
  rw [taken, Bytes.toNatLE_ofNatLE]
  exact Nat.mod_eq_of_lt small

end HomePairing.Entropy
