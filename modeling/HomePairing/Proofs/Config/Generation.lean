import HomePairing.Proofs.Config.SetupCode

/-!
# Which setup codes are generated

Generating draws words until one of them is accepted, which samples a number, and starts over
if the number's code is trivial (`generate?_of_sampled`). Every number below a hundred million
can be sampled (`exists_sampled`), so every number whose code is not trivial makes that code,
and no other number does (`makes_iff`). Reading knows nothing of numbers, but the texts in
form are the numbers' texts; so what is generated can be read, and every code that can be read
is made by one number (`generated_iff_parsed`).
-/

namespace HomePairing.SetupCode

variable {entropy rest : Entropy} {word n : Nat} {text : String} {code : SetupCode}

/-! ## Reading -/

theorem parse_eq_ok_iff :
    parse text = .ok code ↔
      isWellFormed text = true ∧ text ∉ trivialCodes ∧ code = ⟨text⟩ := by
  unfold parse
  by_cases formed : isWellFormed text = true
  · by_cases trivial : text ∈ trivialCodes
    · simp [formed, trivial]
    · simp [formed, trivial, eq_comm]
  · simp [formed]

/-! ## Sampling -/

theorem sample?_lt (small : word < UInt32.size) (sampled : sample? word = some n) :
    n < count := by
  simp only [sample?] at sampled
  split at sampled
  · cases sampled
    rw [Nat.div_lt_iff_lt_mul (by decide)]
    exact Nat.mul_lt_mul_of_pos_left small (by decide)
  · cases sampled

/-- Every number below a hundred million has its words. -/
theorem exists_sample? (small : n < count) : ∃ word < UInt32.size, sample? word = some n := by
  -- The first word that lies in the number's share of the range, and so at its very start.
  let word := (n * UInt32.size + (count - 1)) / count
  have low : n * UInt32.size ≤ count * word := by
    simp only [word, count, UInt32.size]
    omega
  have high : count * word < n * UInt32.size + count := by
    simp only [word, count, UInt32.size]
    omega
  simp only [count, UInt32.size] at low high small
  have share : 100000000 * word / 4294967296 = n := by omega
  have accepted : 100000000 * word % 4294967296 ≤ 3199999999 := by omega
  refine ⟨word, ?_, ?_⟩
  · unfold UInt32.size
    omega
  · simp only [sample?, count, UInt32.size, if_pos accepted, share]

/-- Every number below a hundred million is sampled from some stream. -/
theorem exists_sampled (small : n < count) :
    ∃ entropy rest : Entropy, entropy.drawUntil? sample? = some (n, rest) := by
  obtain ⟨word, range, sampled⟩ := exists_sample? small
  obtain ⟨entropy, same⟩ := Entropy.exists_drawWord_eq range
  rw [← same] at sampled
  exact ⟨entropy, _, Entropy.drawUntil?_of_some sampled⟩

theorem lt_of_sampled (sampled : entropy.drawUntil? sample? = some (n, rest)) : n < count :=
  Entropy.drawUntil?_induction (fun _ n _ => n < count)
    (fun entropy _ stands => sample?_lt entropy.drawWord_lt stands)
    (fun _ _ _ _ below => below) sampled

/-! ## Generating -/

theorem ofWord?_of_refused (refused : sample? word = none) : ofWord? word = none := by
  simp only [ofWord?, refused]

theorem ofWord?_of_sample? (sampled : sample? word = some n) :
    ofWord? word = if textOfNumber n ∈ trivialCodes then none else some ⟨textOfNumber n⟩ := by
  simp only [ofWord?, sampled, List.contains_iff_mem]

/-- Generating samples a number and writes it, and starts over where the code is trivial. -/
theorem generate?_of_sampled (sampled : entropy.drawUntil? sample? = some (n, rest)) :
    generate? entropy =
      if textOfNumber n ∈ trivialCodes then generate? rest
      else some (⟨textOfNumber n⟩, rest) := by
  refine Entropy.drawUntil?_induction (fun entropy n rest => generate? entropy =
    if textOfNumber n ∈ trivialCodes then generate? rest else some (⟨textOfNumber n⟩, rest))
    (fun entropy n stands => ?_) (fun entropy n rest refused later => ?_) sampled
  · have word := ofWord?_of_sample? stands
    split at word
    · next trivial =>
        rw [if_pos trivial]
        exact Entropy.drawUntil?_of_none word
    · next usable =>
        rw [if_neg usable]
        exact Entropy.drawUntil?_of_some word
  · rw [← later]
    exact Entropy.drawUntil?_of_none (ofWord?_of_refused refused)

/-- What is generated is the code of a number that was sampled, and is not trivial. -/
theorem exists_sampled_of_generate? (generated : generate? entropy = some (code, rest)) :
    ∃ n, n < count ∧ code = ⟨textOfNumber n⟩ ∧ code.text ∉ trivialCodes := by
  refine Entropy.drawUntil?_induction (fun _ (code : SetupCode) _ =>
    ∃ n, n < count ∧ code = ⟨textOfNumber n⟩ ∧ code.text ∉ trivialCodes)
    (fun entropy code stands => ?_) (fun _ _ _ _ later => later) generated
  cases sampled : sample? entropy.drawWord.1 with
  | none =>
      rw [ofWord?_of_refused sampled] at stands
      cases stands
  | some n =>
      rw [ofWord?_of_sample? sampled] at stands
      split at stands
      · cases stands
      · next usable =>
          cases stands
          exact ⟨n, sample?_lt entropy.drawWord_lt sampled, rfl, usable⟩

/-- Wherever the number is sampled the code is generated; and it is sampled somewhere. -/
def Makes (n : Nat) (code : SetupCode) : Prop :=
  (∃ entropy rest : Entropy, entropy.drawUntil? sample? = some (n, rest)) ∧
    ∀ entropy rest : Entropy, entropy.drawUntil? sample? = some (n, rest) →
      generate? entropy = some (code, rest)

theorem makes_iff : Makes n code ↔
    n < count ∧ textOfNumber n ∉ trivialCodes ∧ code = ⟨textOfNumber n⟩ := by
  constructor
  · rintro ⟨⟨entropy, rest, sampled⟩, makes⟩
    have generated := makes entropy rest sampled
    rw [generate?_of_sampled sampled] at generated
    refine ⟨lt_of_sampled sampled, ?_⟩
    split at generated
    · -- The code of a later number leaves less of the stream.
      exact absurd (Entropy.position_lt_of_drawUntil? generated) (Nat.lt_irrefl _)
    · next usable =>
        cases generated
        exact ⟨usable, rfl⟩
  · rintro ⟨small, usable, rfl⟩
    refine ⟨exists_sampled small, fun entropy rest sampled => ?_⟩
    rw [generate?_of_sampled sampled, if_neg usable]

/-- Generating and reading agree. Whatever stream generating comes to a code on, the code is
read as itself and is not trivial. Every text that is read as a code is made by exactly one
number below a hundred million: that number's digits, filled up to eight with zeros and cut
into groups. So the codes that can be generated are those that can be read, which are told by
their bytes. -/
theorem generated_iff_parsed :
    (∀ entropy code rest, generate? entropy = some (code, rest) →
      parse code.text = .ok code ∧ code.text ∉ trivialCodes) ∧
    (∀ text code, parse text = .ok code →
      code.text = text ∧ ∃! n, n < count ∧ Makes n code) ∧
    (∀ n code, Makes n code →
      code.text = grouped ((Nat.toDigits 10 n).leftpad 8 '0')) ∧
    (∀ code, (∃ entropy rest, generate? entropy = some (code, rest)) ↔
      parse code.text = .ok code) ∧
    ∀ text, parse text = .ok ⟨text⟩ ↔
      placed (· == 45) isDigitByte (Bytes.ofString text) = true ∧ text ∉ trivialCodes := by
  have readable : ∀ entropy code rest, generate? entropy = some (code, rest) →
      parse code.text = .ok code ∧ code.text ∉ trivialCodes := by
    intro entropy code rest generated
    obtain ⟨n, _, rfl, usable⟩ := exists_sampled_of_generate? generated
    exact ⟨parse_eq_ok_iff.mpr ⟨isWellFormed_textOfNumber n, usable, rfl⟩, usable⟩
  have made : ∀ text code, parse text = .ok code → Makes (numberOf text) code := by
    intro text code parsed
    obtain ⟨formed, usable, rfl⟩ := parse_eq_ok_iff.mp parsed
    obtain ⟨small, written⟩ := textOfNumber_numberOf formed
    exact makes_iff.mpr ⟨small, by rwa [written], by rw [written]⟩
  refine ⟨readable, fun text code parsed => ⟨?_, numberOf text, ?_, ?_⟩, ?_, ?_, ?_⟩
  · obtain ⟨_, _, rfl⟩ := parse_eq_ok_iff.mp parsed
    rfl
  · have makes := made text code parsed
    exact ⟨(makes_iff.mp makes).1, makes⟩
  · rintro n ⟨small, makes⟩
    obtain ⟨_, _, rfl⟩ := parse_eq_ok_iff.mp parsed
    have same : text = textOfNumber n := congrArg SetupCode.text (makes_iff.mp makes).2.2
    rw [same, numberOf_textOfNumber small]
  · intro n code makes
    obtain ⟨small, _, rfl⟩ := makes_iff.mp makes
    show textOfNumber n = _
    rw [textOfNumber_eq_grouped, row_eq_leftpad (by decide) small]
  · intro code
    refine ⟨fun ⟨entropy, rest, generated⟩ => (readable entropy code rest generated).1,
      fun parsed => ?_⟩
    obtain ⟨⟨entropy, rest, sampled⟩, makes⟩ := made code.text code parsed
    exact ⟨entropy, rest, makes entropy rest sampled⟩
  · intro text
    rw [parse_eq_ok_iff, isWellFormed_eq_placed_bytes]
    simp

/-- A small number's code, mostly zeros, is read and made like any other. -/
theorem generated_iff_parsed_small :
    parse "000-00-042" = .ok ⟨"000-00-042"⟩ ∧
      ∃! n, n < count ∧ Makes n ⟨"000-00-042"⟩ := by
  have parsed : parse "000-00-042" = .ok ⟨"000-00-042"⟩ := by decide +kernel
  obtain ⟨-, made, -⟩ := generated_iff_parsed
  exact ⟨parsed, (made _ _ parsed).2⟩

/-- It is the code of 42. -/
example : textOfNumber 42 = "000-00-042" := by decide +kernel

end HomePairing.SetupCode
