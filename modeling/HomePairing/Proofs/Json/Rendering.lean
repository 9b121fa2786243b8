import HomePairing.Json.Reading
import HomePairing.Json.Writing
import HomePairing.Proofs.Json.Spelling

/-!
# A value is read from its text

The writer puts blanks where the reader skips them, so what matters is the text behind the
blanks. A value is `Legible` if, wherever its text stands, the reader takes exactly that text
off and finds the value. An array or object is legible if its parts are, whatever they are,
and of a whole text this says that `parse?` undoes `render`.
-/

namespace HomePairing.Json

/-! ## Blanks -/

@[simp] theorem skipBlanks_newLine (level : Nat) (text : Bytes) :
    skipBlanks (newLine level ++ text) = skipBlanks text := by
  refine List.dropWhile_append_of_pos fun b member => ?_
  rcases List.mem_cons.mp member with rfl | member
  · rfl
  · rw [List.eq_of_mem_replicate member]
    rfl

theorem skipBlanks_of_not_blank {b : UInt8} (solid : isBlank b = false) (rest : Bytes) :
    skipBlanks (b :: rest) = b :: rest :=
  List.dropWhile_cons_of_neg (by simp [solid])

/-! ## Numbers -/

/-- What can stand behind a number: nothing that would be a part of it. -/
def Ends : Bytes → Prop
  | [] => True
  | b :: _ => isDigit b = false ∧ b ≠ 46 ∧ b ≠ 101 ∧ b ≠ 69

/-- The digits of a whole number. Only zero itself starts with a zero. -/
structure Numeral (digits : Bytes) : Prop where
  all : ∀ b ∈ digits, isDigit b = true
  nonempty : digits ≠ []
  zero : digits.head? = some 48 → digits = [48]

theorem ends_newLine (level : Nat) (rest : Bytes) : Ends (newLine level ++ rest) :=
  ⟨rfl, by decide, by decide, by decide⟩

theorem ends_comma (rest : Bytes) : Ends (44 :: rest) :=
  ⟨rfl, by decide, by decide, by decide⟩

theorem isBlank_of_isDigit {b : UInt8} (digit : isDigit b = true) : isBlank b = false := by
  refine Bool.eq_false_iff.mpr fun blank => ?_
  simp only [isBlank, Bool.or_eq_true, beq_iff_eq] at blank
  rcases blank with ((rfl | rfl) | rfl) | rfl <;> cases digit

theorem scanDigits_append {digits rest : Bytes} (numeral : Numeral digits) (ends : Ends rest) :
    scanDigits (digits ++ rest) = some (digits, rest) := by
  have stop : rest.takeWhile isDigit = [] ∧ rest.dropWhile isDigit = rest := by
    cases rest with
    | nil => exact ⟨rfl, rfl⟩
    | cons b rest => simp [ends.1]
  unfold scanDigits
  rw [List.takeWhile_append_of_pos numeral.all, List.dropWhile_append_of_pos numeral.all,
    stop.1, stop.2, List.append_nil]
  simp [numeral.nonempty]

theorem scanWhole_append {digits rest : Bytes} (numeral : Numeral digits) (ends : Ends rest) :
    scanWhole (digits ++ rest) = some (digits, rest) := by
  by_cases zero : digits.head? = some 48
  · rw [numeral.zero zero]
    rfl
  · rw [← scanDigits_append numeral ends]
    cases digits with
    | nil => exact absurd rfl numeral.nonempty
    | cons first more =>
        refine scanWhole.eq_2 _ fun _ same => zero ?_
        injection same with same _
        rw [same]
        rfl

theorem scanUnsigned_append {digits rest : Bytes} (numeral : Numeral digits)
    (ends : Ends rest) : scanUnsigned (digits ++ rest) = some (digits, rest) := by
  have fraction : scanFraction rest = some ([], rest) := by
    cases rest with
    | nil => rfl
    | cons b rest =>
        refine scanFraction.eq_2 _ fun _ same => ends.2.1 ?_
        injection same
  have exponent : scanExponent rest = some ([], rest) := by
    cases rest with
    | nil => rfl
    | cons b rest => simp [scanExponent, ends.2.2.1, ends.2.2.2]
  simp [scanUnsigned, scanWhole_append numeral ends, fraction, exponent]

theorem scanNumber_append {digits rest : Bytes} (numeral : Numeral digits) (ends : Ends rest) :
    scanNumber (digits ++ rest) = some (digits, rest) := by
  rw [← scanUnsigned_append numeral ends]
  cases digits with
  | nil => exact absurd rfl numeral.nonempty
  | cons first more =>
      refine scanNumber.eq_2 _ fun _ same => ?_
      injection same with same _
      have digit := numeral.all first List.mem_cons_self
      rw [same] at digit
      cases digit

/-- Every byte is written as a whole number, which reads as that byte. -/
theorem byte?_ofByte (b : UInt8) : (Value.ofByte b).byte? = some b := by
  have all : ∀ n < 256, natural? (Bytes.ofString (toString n)) = some n := by decide +kernel
  have below : b.toNat < 256 := b.toNat_lt
  simp only [Value.ofByte, Value.byte?, all b.toNat below, if_pos below, UInt8.ofNat_toNat]

theorem numeral_ofByte (b : UInt8) : Numeral (Bytes.ofString (toString b.toNat)) := by
  have all : ∀ n < 256, (Bytes.ofString (toString n)).all isDigit = true ∧
      Bytes.ofString (toString n) ≠ [] ∧
      ((Bytes.ofString (toString n)).head? = some 48 → Bytes.ofString (toString n) = [48]) := by
    decide +kernel
  obtain ⟨digits, nonempty, zero⟩ := all b.toNat b.toNat_lt
  exact ⟨List.all_eq_true.mp digits, nonempty, zero⟩

/-! ## Values -/

/-- Wherever the text of a value stands, the reader takes it off and finds the value. -/
structure Legible (value : Value) : Prop where
  /-- Nothing is skipped of the text, and it does not look like the end of an array. -/
  starts : ∀ level, ∃ first more, value.write level = first :: more ∧
    isBlank first = false ∧ first ≠ 93
  reads : ∀ level depth text rest, 2 * (value.write level).length ≤ depth →
    skipBlanks text = value.write level ++ rest → Ends rest →
    scanValue depth text = some (value, rest)

theorem Legible.length_pos {value : Value} (legible : Legible value) (level : Nat) :
    0 < (value.write level).length := by
  obtain ⟨first, more, written, _⟩ := legible.starts level
  rw [written]
  exact Nat.succ_pos _

/-- The text of a value has no blanks in front. -/
theorem Legible.skipBlanks_write {value : Value} (legible : Legible value) (level : Nat)
    (rest : Bytes) : skipBlanks (value.write level ++ rest) = value.write level ++ rest := by
  obtain ⟨first, more, written, solid, _⟩ := legible.starts level
  rw [written]
  exact skipBlanks_of_not_blank solid _

/-- A text has at least one byte, so the reader has a step left wherever it comes to one. -/
theorem Legible.of_succ {value : Value}
    (starts : ∀ level, ∃ first more, value.write level = first :: more ∧
      isBlank first = false ∧ first ≠ 93)
    (reads : ∀ level depth text rest, 2 * (value.write level).length ≤ depth + 1 →
      skipBlanks text = value.write level ++ rest → Ends rest →
      scanValue (depth + 1) text = some (value, rest)) : Legible value where
  starts := starts
  reads := by
    intro level depth text rest deep start ends
    cases depth with
    | zero =>
        obtain ⟨first, more, written, _⟩ := starts level
        rw [written, List.length_cons] at deep
        omega
    | succ depth => exact reads level depth text rest deep start ends

theorem legible_null : Legible .null := by
  apply Legible.of_succ
  · intro level
    exact ⟨110, [117, 108, 108], rfl, rfl, by decide⟩
  · intro level depth text rest _ start _
    simp only [scanValue, start]
    rfl

/-- A spelling that the quote behind it ends. -/
def Closed (spelling : Bytes) : Prop :=
  ∀ rest, Spelling.scan (spelling ++ 34 :: rest) = some (spelling, rest)

theorem legible_string {spelling : Bytes} (closed : Closed spelling) :
    Legible (.string spelling) := by
  apply Legible.of_succ
  · intro level
    exact ⟨34, spelling ++ [34], rfl, rfl, by decide⟩
  · intro level depth text rest _ start _
    have opened : skipBlanks text = 34 :: (spelling ++ 34 :: rest) := by
      rw [start]
      simp [Value.write, quoted]
    simp only [scanValue, opened]
    rw [closed rest]
    rfl

theorem legible_number {digits : Bytes} (numeral : Numeral digits) :
    Legible (.number digits) := by
  obtain ⟨first, more, rfl⟩ := List.exists_cons_of_ne_nil numeral.nonempty
  have digit := numeral.all first List.mem_cons_self
  apply Legible.of_succ
  · intro level
    refine ⟨first, more, rfl, isBlank_of_isDigit digit, ?_⟩
    rintro rfl
    cases digit
  · intro level depth text rest _ start ends
    have opened : skipBlanks text = first :: (more ++ rest) := by
      rw [start]
      rfl
    have headed : ∀ {b tail}, first :: (more ++ rest) = b :: tail → isDigit b = true := by
      intro b tail same
      rw [← (List.cons.inj same).1]
      exact digit
    simp only [scanValue, opened]
    -- No other kind of value starts with a digit.
    split
    · next same => exact absurd (headed same) (by decide)
    · next same => exact absurd (headed same) (by decide)
    · next same => exact absurd (headed same) (by decide)
    · next same => exact absurd (headed same) (by decide)
    · next same => exact absurd (headed same) (by decide)
    · next same => exact absurd (headed same) (by decide)
    · rw [← List.cons_append, scanNumber_append numeral ends]
      rfl

/-! ## Arrays -/

theorem skipBlanks_comma (rest : Bytes) : skipBlanks (44 :: rest) = 44 :: rest := rfl

theorem skipBlanks_newLine_bracket (level : Nat) (rest : Bytes) :
    skipBlanks (newLine level ++ 93 :: rest) = 93 :: rest := by
  rw [skipBlanks_newLine]
  rfl

/-- Elements are read up to the bracket. The first may have blanks in front. -/
theorem scanElements_write {level : Nat} (outer : Nat) {elements : List Value} :
    ∀ {first : Value} {depth : Nat} {text : Bytes} (rest : Bytes),
      (∀ element ∈ first :: elements, Legible element) →
      2 * (first.write level ++ writeElements level elements).length < depth →
      skipBlanks text = first.write level ++
        (writeElements level elements ++ (newLine outer ++ 93 :: rest)) →
      scanElements depth text = some (first :: elements, rest) := by
  induction elements with
  | nil =>
      intro first depth text rest legible deep start
      cases depth with
      | zero => exact absurd deep (Nat.not_lt_zero _)
      | succ depth =>
          simp only [writeElements, List.append_nil, List.nil_append] at deep start
          have read := (legible first List.mem_cons_self).reads level depth text
            (newLine outer ++ 93 :: rest) (by omega) start (ends_newLine outer _)
          simp only [scanElements, read, skipBlanks_newLine_bracket]
  | cons second others ih =>
      intro first depth text rest legible deep start
      cases depth with
      | zero => exact absurd deep (Nat.not_lt_zero _)
      | succ depth =>
          have first_legible := legible first List.mem_cons_self
          have positive := first_legible.length_pos level
          simp only [writeElements, List.length_append, List.length_cons] at deep
          have read := first_legible.reads level depth text
            (writeElements level (second :: others) ++ (newLine outer ++ 93 :: rest))
            (by omega) start (ends_comma _)
          have more := @ih second depth
            (newLine level ++ (second.write level ++ (writeElements level others ++
              (newLine outer ++ 93 :: rest)))) rest
            (fun element member => legible element (List.mem_cons_of_mem _ member))
            (by rw [List.length_append]; omega)
            (by rw [skipBlanks_newLine,
              (legible second (by simp)).skipBlanks_write])
          simp only [scanElements, read]
          simp only [writeElements, List.cons_append, List.append_assoc, skipBlanks_comma, more]
          rfl

theorem legible_array {elements : List Value}
    (legible : ∀ element ∈ elements, Legible element) : Legible (.array elements) := by
  cases elements with
  | nil =>
      apply Legible.of_succ
      · intro level
        exact ⟨91, [93], rfl, rfl, by decide⟩
      · intro level depth text rest _ start _
        simp only [scanValue, start]
        rfl
  | cons first others =>
      have first_legible := legible first List.mem_cons_self
      apply Legible.of_succ
      · intro level
        exact ⟨91, _, rfl, rfl, by decide⟩
      · intro level depth text rest deep start _
        obtain ⟨b, more, written, _, notBracket⟩ := first_legible.starts (level + 1)
        have opened : skipBlanks text = 91 :: (newLine (level + 1) ++
            (first.write (level + 1) ++ (writeElements (level + 1) others ++
              (newLine level ++ 93 :: rest)))) := by
          rw [start]
          simp [Value.write]
        have scanned : scanElements depth (first.write (level + 1) ++
            (writeElements (level + 1) others ++ (newLine level ++ 93 :: rest))) =
            some (first :: others, rest) := by
          refine scanElements_write level rest legible ?_ (first_legible.skipBlanks_write _ _)
          simp only [Value.write, List.length_cons, List.length_append] at deep ⊢
          omega
        simp only [scanValue, opened, skipBlanks_newLine, first_legible.skipBlanks_write]
        split
        · next same =>
            rw [written] at same
            exact absurd (List.cons.inj same).1 notBracket
        · rw [scanned]
          rfl

/-! ## Objects -/

theorem scanKey_quoted {key : Bytes} (closed : Closed key) {text rest : Bytes}
    (start : skipBlanks text = quoted key ++ ([58, 32] ++ rest)) :
    scanKey text = some (key, 32 :: rest) := by
  have opened : skipBlanks text = 34 :: (key ++ 34 :: 58 :: 32 :: rest) := by
    rw [start]
    simp [quoted]
  unfold scanKey
  simp only [opened]
  rw [closed (58 :: 32 :: rest)]
  rfl

/-- Members are read up to the brace. The first may have blanks in front. -/
theorem scanMembers_write {level : Nat} (outer : Nat) {members : List (Bytes × Value)} :
    ∀ {key : Bytes} {first : Value} {depth : Nat} {text : Bytes} (rest : Bytes),
      (∀ member ∈ (key, first) :: members, Closed member.1 ∧ Legible member.2) →
      2 * (first.write level ++ writeMembers level members).length < depth →
      skipBlanks text = quoted key ++ ([58, 32] ++ (first.write level ++
        (writeMembers level members ++ (newLine outer ++ 125 :: rest)))) →
      scanMembers depth text = some ((key, first) :: members, rest) := by
  induction members with
  | nil =>
      intro key first depth text rest legible deep start
      cases depth with
      | zero => exact absurd deep (Nat.not_lt_zero _)
      | succ depth =>
          obtain ⟨closed, value⟩ : Closed key ∧ Legible first :=
            legible (key, first) List.mem_cons_self
          simp only [writeMembers, List.append_nil, List.nil_append] at deep start
          have named := scanKey_quoted closed start
          have read := value.reads level depth
            (32 :: (first.write level ++ (newLine outer ++ 125 :: rest)))
            (newLine outer ++ 125 :: rest) (by omega)
            (value.skipBlanks_write level _) (ends_newLine outer _)
          simp only [scanMembers, named, read, skipBlanks_newLine]
          rfl
  | cons second others ih =>
      intro key first depth text rest legible deep start
      cases depth with
      | zero => exact absurd deep (Nat.not_lt_zero _)
      | succ depth =>
          obtain ⟨closed, value⟩ : Closed key ∧ Legible first :=
            legible (key, first) List.mem_cons_self
          have positive := value.length_pos level
          obtain ⟨name, second⟩ := second
          simp only [writeMembers, List.length_append, List.length_cons] at deep
          have named := scanKey_quoted closed start
          have read := value.reads level depth
            (32 :: (first.write level ++ (writeMembers level ((name, second) :: others) ++
              (newLine outer ++ 125 :: rest))))
            (writeMembers level ((name, second) :: others) ++ (newLine outer ++ 125 :: rest))
            (by omega) (value.skipBlanks_write level _) (ends_comma _)
          have more := @ih name second depth
            (newLine level ++ (quoted name ++ ([58, 32] ++ (second.write level ++
              (writeMembers level others ++ (newLine outer ++ 125 :: rest)))))) rest
            (fun member within => legible member (List.mem_cons_of_mem _ within))
            (by rw [List.length_append]; omega)
            (by rw [skipBlanks_newLine]; rfl)
          simp only [scanMembers, named, read]
          simp only [writeMembers, List.cons_append, List.append_assoc, skipBlanks_comma] at more ⊢
          simp only [List.nil_append] at more ⊢
          rw [more]
          rfl

theorem legible_object {members : List (Bytes × Value)}
    (legible : ∀ member ∈ members, Closed member.1 ∧ Legible member.2) :
    Legible (.object members) := by
  cases members with
  | nil =>
      apply Legible.of_succ
      · intro level
        exact ⟨123, [125], rfl, rfl, by decide⟩
      · intro level depth text rest _ start _
        simp only [scanValue, start]
        rfl
  | cons member others =>
      obtain ⟨key, first⟩ := member
      apply Legible.of_succ
      · intro level
        exact ⟨123, _, rfl, rfl, by decide⟩
      · intro level depth text rest deep start _
        have opened : skipBlanks text = 123 :: (newLine (level + 1) ++ (quoted key ++
            ([58, 32] ++ (first.write (level + 1) ++ (writeMembers (level + 1) others ++
              (newLine level ++ 125 :: rest)))))) := by
          rw [start]
          simp [Value.write]
        have scanned : scanMembers depth (quoted key ++ ([58, 32] ++
            (first.write (level + 1) ++ (writeMembers (level + 1) others ++
              (newLine level ++ 125 :: rest))))) = some ((key, first) :: others, rest) := by
          refine scanMembers_write level rest legible ?_ rfl
          simp only [Value.write, List.length_cons, List.length_append] at deep ⊢
          omega
        -- The quote in front of the key is no brace.
        have inside : skipBlanks (quoted key ++ ([58, 32] ++ (first.write (level + 1) ++
            (writeMembers (level + 1) others ++ (newLine level ++ 125 :: rest))))) =
            34 :: (key ++ [34] ++ ([58, 32] ++ (first.write (level + 1) ++
            (writeMembers (level + 1) others ++ (newLine level ++ 125 :: rest))))) := rfl
        simp only [scanValue, opened, skipBlanks_newLine, inside]
        exact congrArg (Option.map fun parsed => (Value.object parsed.1, parsed.2)) scanned

/-! ## Whole texts -/

/-- A legible value is read from its text. -/
theorem parse?_render {value : Value} (legible : Legible value) :
    parse? (render value) = some value := by
  have start := legible.skipBlanks_write 0 []
  rw [List.append_nil] at start
  have read := legible.reads 0 (2 * (render value).length + 1) (render value) []
    (Nat.le_succ _) (start.trans (List.append_nil _).symm) trivial
  simp only [parse?, read]
  rfl

end HomePairing.Json
