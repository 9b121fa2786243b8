import HomePairing.Config
import HomePairing.Proofs.Bytes.Ascii
import HomePairing.Proofs.Entropy.Drawing
import Mathlib.Data.List.Induction

/-!
# The form of a setup code

A setup code is a number below a hundred million: written in decimal, filled up to eight
digits with zeros, and cut into groups of three, two and three (`textOfNumber_eq_grouped`).
Reading looks for that form place by place. Eight digits are the same as a number, both ways
(`number_row`, `row_number`), and they can be told from the hyphens (`filter_grouped`); so the
texts in form are just those that some number was written as (`numberOf_textOfNumber`,
`textOfNumber_numberOf`). And it makes no difference whether a text is looked at character by
character or byte by byte (`isWellFormed_eq_placed_bytes`).
-/

namespace HomePairing.SetupCode

/-! ## Numbers in digits -/

/-- The value of a digit. -/
def value (digit : Char) : Nat :=
  digit.toNat - 48

theorem isDigit_iff {c : Char} : c.isDigit = true ↔ 48 ≤ c.toNat ∧ c.toNat ≤ 57 := by
  simp only [Char.isDigit, Bool.and_eq_true, decide_eq_true_eq]
  exact Iff.rfl

theorem value_lt {c : Char} (digit : c.isDigit = true) : value c < 10 := by
  obtain ⟨_, _⟩ := isDigit_iff.mp digit
  unfold value
  omega

theorem digitChar_value {c : Char} (digit : c.isDigit = true) : Nat.digitChar (value c) = c := by
  obtain ⟨_, _⟩ := isDigit_iff.mp digit
  apply Char.toNat_inj.mp
  rw [Nat.toNat_digitChar_of_lt_ten (value_lt digit)]
  unfold value
  omega

theorem value_digitChar {d : Nat} (small : d < 10) : value (Nat.digitChar d) = d := by
  rw [value, Nat.toNat_digitChar_of_lt_ten small]
  omega

theorem isDigit_digitChar {d : Nat} (small : d < 10) : (Nat.digitChar d).isDigit = true := by
  have digits : ∀ d < 10, (Nat.digitChar d).isDigit = true := by decide
  exact digits d small

/-- The number that some digits stand for. -/
def number (digits : List Char) : Nat :=
  digits.foldl (fun n digit => 10 * n + value digit) 0

theorem number_concat (digits : List Char) (digit : Char) :
    number (digits ++ [digit]) = 10 * number digits + value digit := by
  simp [number]

/-- A number in `width` digits, zeros in front. -/
def row : (width n : Nat) → List Char
  | 0, _ => []
  | width + 1, n => row width (n / 10) ++ [Nat.digitChar (n % 10)]

theorem length_row (width n : Nat) : (row width n).length = width := by
  induction width generalizing n with
  | zero => rfl
  | succ width ih => simp [row, ih]

theorem isDigit_of_mem_row {width n : Nat} : ∀ digit ∈ row width n, digit.isDigit = true := by
  induction width generalizing n with
  | zero => simp [row]
  | succ width ih =>
      intro digit there
      rcases List.mem_append.mp there with before | last
      · exact ih digit before
      · rw [List.mem_singleton.mp last]
        exact isDigit_digitChar (Nat.mod_lt _ (by decide))

/-- A number that has room is read from its digits. -/
theorem number_row {width n : Nat} (small : n < 10 ^ width) : number (row width n) = n := by
  induction width generalizing n with
  | zero =>
      rw [Nat.pow_zero] at small
      rw [Nat.lt_one_iff.mp small]
      rfl
  | succ width ih =>
      have shorter : n / 10 < 10 ^ width := by
        rw [Nat.pow_succ] at small
        omega
      rw [row, number_concat, ih shorter, value_digitChar (Nat.mod_lt _ (by decide))]
      omega

/-- Digits are written for the number that is read from them. -/
theorem row_number {digits : List Char} (all : ∀ digit ∈ digits, digit.isDigit = true) :
    row digits.length (number digits) = digits := by
  induction digits using List.reverseRecOn with
  | nil => rfl
  | append_singleton digits digit ih =>
      have last : digit.isDigit = true := all digit (by simp)
      have small := value_lt last
      have tens : (10 * number digits + value digit) / 10 = number digits := by omega
      have ones : (10 * number digits + value digit) % 10 = value digit := by omega
      rw [number_concat, List.length_append, List.length_singleton, row, tens, ones,
        digitChar_value last, ih fun other there => all other (List.mem_append_left _ there)]

theorem number_lt {digits : List Char} (all : ∀ digit ∈ digits, digit.isDigit = true) :
    number digits < 10 ^ digits.length := by
  induction digits using List.reverseRecOn with
  | nil => decide
  | append_singleton digits digit ih =>
      have small := value_lt (all digit (by simp))
      have before := ih fun other there => all other (List.mem_append_left _ there)
      rw [number_concat, List.length_append, List.length_singleton, Nat.pow_succ]
      omega

/-- One digit more in a row that is filled up with zeros. -/
theorem leftpad_toDigits_succ {width : Nat} (room : 0 < width) (n : Nat) :
    (Nat.toDigits 10 n).leftpad (width + 1) '0' =
      (Nat.toDigits 10 (n / 10)).leftpad width '0' ++ [Nat.digitChar (n % 10)] := by
  rw [Nat.toDigits_eq_if (by decide)]
  split
  · next small =>
      have single : Nat.toDigits 10 (n / 10) = ['0'] := by
        rw [Nat.div_eq_of_lt small]
        rfl
      -- A single digit has nothing before it; its tens are the zero that fills the row.
      rw [single, Nat.mod_eq_of_lt small]
      obtain ⟨zeros, rfl⟩ := Nat.exists_eq_succ_of_ne_zero (Nat.ne_of_gt room)
      simp [List.leftpad, List.replicate_succ']
  · simp [List.leftpad]

/-- The row of a number is its decimal writing, filled up with zeros. -/
theorem row_eq_leftpad {width n : Nat} (room : 0 < width) (small : n < 10 ^ width) :
    row width n = (Nat.toDigits 10 n).leftpad width '0' := by
  induction width generalizing n with
  | zero => cases room
  | succ width ih =>
      rcases Nat.eq_zero_or_pos width with rfl | more
      · have digit : n < 10 := by simpa using small
        rw [row, row, Nat.toDigits_of_lt_base digit, Nat.mod_eq_of_lt digit]
        rfl
      · have shorter : n / 10 < 10 ^ width := by
          rw [Nat.pow_succ] at small
          omega
        rw [row, ih more shorter, leftpad_toDigits_succ more]

/-! ## Digits in groups -/

/-- Three digits, two digits and the rest, with hyphens between them. -/
def grouped (digits : List Char) : String :=
  String.ofList (digits.take 3 ++ '-' :: ((digits.drop 3).take 2 ++ '-' :: digits.drop 5))

/-- A code is the decimal writing of its number in groups, filled up to eight digits. -/
theorem textOfNumber_eq_grouped (n : Nat) : textOfNumber n = grouped (row 8 n) := by
  simp [textOfNumber, grouped, row, digit, Nat.div_div_eq_div_mul]

/-- The digits can be told from the hyphens. -/
theorem filter_grouped {digits : List Char} (all : ∀ digit ∈ digits, digit.isDigit = true) :
    (grouped digits).toList.filter Char.isDigit = digits := by
  have front : (digits.take 3).filter Char.isDigit = digits.take 3 :=
    List.filter_eq_self.mpr fun digit there => all digit (List.mem_of_mem_take there)
  have middle : ((digits.drop 3).take 2).filter Char.isDigit = (digits.drop 3).take 2 :=
    List.filter_eq_self.mpr fun digit there =>
      all digit (List.mem_of_mem_drop (List.mem_of_mem_take there))
  have back : (digits.drop 5).filter Char.isDigit = digits.drop 5 :=
    List.filter_eq_self.mpr fun digit there => all digit (List.mem_of_mem_drop there)
  have last : digits.drop 5 = (digits.drop 3).drop 2 := by rw [List.drop_drop]
  rw [grouped, String.toList_ofList, List.filter_append, List.filter_cons_of_neg (by decide),
    List.filter_append, List.filter_cons_of_neg (by decide), front, middle, back]
  rw [last, List.take_append_drop, List.take_append_drop]

/-- The number that the digits in a text stand for. -/
def numberOf (text : String) : Nat :=
  number (text.toList.filter Char.isDigit)

/-- The number is read from the text that was written for it. -/
theorem numberOf_textOfNumber {n : Nat} (small : n < count) : numberOf (textOfNumber n) = n := by
  rw [numberOf, textOfNumber_eq_grouped, filter_grouped isDigit_of_mem_row]
  exact number_row small

/-- A text has the right form if it is eight digits in groups. -/
theorem isWellFormed_iff_grouped {text : String} :
    isWellFormed text = true ↔ ∃ digits : List Char, digits.length = 8 ∧
      (∀ digit ∈ digits, digit.isDigit = true) ∧ text = grouped digits := by
  constructor
  · intro formed
    unfold isWellFormed at formed
    split at formed
    · next a b c d e f g h same =>
        refine ⟨[a, b, c, d, e, f, g, h], rfl, List.all_eq_true.mp formed, ?_⟩
        apply String.toList_injective
        rw [same, grouped, String.toList_ofList]
        rfl
    · cases formed
  · rintro ⟨digits, eight, all, rfl⟩
    match digits, eight with
    | [a, b, c, d, e, f, g, h], _ => simpa [isWellFormed, grouped] using all

theorem isWellFormed_textOfNumber (n : Nat) : isWellFormed (textOfNumber n) = true :=
  isWellFormed_iff_grouped.mpr
    ⟨row 8 n, length_row 8 n, isDigit_of_mem_row, textOfNumber_eq_grouped n⟩

/-- A text of the right form is written for the number that is read from it. -/
theorem textOfNumber_numberOf {text : String} (formed : isWellFormed text = true) :
    numberOf text < count ∧ textOfNumber (numberOf text) = text := by
  obtain ⟨digits, eight, all, rfl⟩ := isWellFormed_iff_grouped.mp formed
  rw [numberOf, filter_grouped all]
  refine ⟨?_, ?_⟩
  · have small := number_lt all
    rw [eight] at small
    exact small
  · have written := row_number all
    rw [eight] at written
    rw [textOfNumber_eq_grouped, written]

/-! ## Byte by byte -/

/-- Ten places, with a hyphen in the places 3 and 6 and a digit in every other. -/
def placed {Sign : Type} (isHyphen isDigit : Sign → Bool) (signs : List Sign) : Bool :=
  signs.length == 10 &&
    signs.zipIdx.all fun (sign, i) => if i = 3 ∨ i = 6 then isHyphen sign else isDigit sign

theorem placed_map {Sign Other : Type} (isHyphen isDigit : Other → Bool) (view : Sign → Other)
    (signs : List Sign) :
    placed isHyphen isDigit (signs.map view) =
      placed (fun sign => isHyphen (view sign)) (fun sign => isDigit (view sign)) signs := by
  simp [placed, List.zipIdx_map, Function.comp_def]

/-- Only what the tests say of the signs that are there counts. -/
theorem placed_congr {Sign : Type} {isHyphen isHyphen' isDigit isDigit' : Sign → Bool}
    {signs : List Sign}
    (same : ∀ sign ∈ signs, isHyphen sign = isHyphen' sign ∧ isDigit sign = isDigit' sign) :
    placed isHyphen isDigit signs = placed isHyphen' isDigit' signs := by
  have each : ∀ entry ∈ signs.zipIdx,
      (if entry.2 = 3 ∨ entry.2 = 6 then isHyphen entry.1 else isDigit entry.1) =
        if entry.2 = 3 ∨ entry.2 = 6 then isHyphen' entry.1 else isDigit' entry.1 := by
    intro entry there
    obtain ⟨hyphen, digit⟩ := same entry.1 (List.fst_mem_of_mem_zipIdx there)
    rw [hyphen, digit]
  rw [Bool.eq_iff_iff]
  simp only [placed, Bool.and_eq_true, List.all_eq_true]
  exact and_congr_right fun _ => forall₂_congr fun entry there => by rw [each entry there]

theorem isHyphen_or_isDigit_of_placed {Sign : Type} {isHyphen isDigit : Sign → Bool}
    {signs : List Sign} (form : placed isHyphen isDigit signs = true) :
    ∀ sign ∈ signs, isHyphen sign = true ∨ isDigit sign = true := by
  intro sign there
  obtain ⟨i, at_i⟩ := List.mem_iff_getElem?.mp there
  have entry := List.all_eq_true.mp (Bool.and_eq_true_iff.mp form).2 (sign, i)
    (List.mk_mem_zipIdx_iff_getElem?.mpr at_i)
  simp only at entry
  split at entry
  · exact .inl entry
  · exact .inr entry

theorem isWellFormed_eq_placed (text : String) :
    isWellFormed text = placed (· == '-') Char.isDigit text.toList := by
  unfold isWellFormed
  split
  · next a b c d e f g h same =>
      rw [same]
      simp [placed]
  · next other =>
      refine (Bool.eq_false_iff.mpr fun form => ?_).symm
      have ten : text.toList.length = 10 := by
        simpa using (Bool.and_eq_true_iff.mp form).1
      generalize text.toList = signs at other form ten
      match signs, ten with
      | [a, b, c, x, d, e, y, f, g, h], _ =>
          simp [placed] at form
          obtain ⟨_, _, _, rfl, _, _, rfl, _⟩ := form
          exact other a b c d e f g h rfl

/-- The test of a byte: digits are 48 to 57. -/
def isDigitByte (b : UInt8) : Bool :=
  48 ≤ b && b ≤ 57

theorem byte_of_ascii {c : Char} (ascii : c.toNat < 128) :
    (c == '-') = (UInt8.ofNat c.toNat == 45) ∧ c.isDigit = isDigitByte (UInt8.ofNat c.toNat) := by
  have whole : (UInt8.ofNat c.toNat).toNat = c.toNat := by
    rw [UInt8.toNat_ofNat']
    omega
  constructor
  · rw [Bool.eq_iff_iff, beq_iff_eq, beq_iff_eq, ← Char.toNat_inj, ← UInt8.toNat_inj, whole]
    exact Iff.rfl
  · rw [Bool.eq_iff_iff, isDigit_iff, isDigitByte, Bool.and_eq_true, decide_eq_true_eq,
      decide_eq_true_eq, UInt8.le_iff_toNat_le, UInt8.le_iff_toNat_le, whole]
    exact Iff.rfl

/-- A text has the right form if its bytes have, also where characters take several bytes. -/
theorem isWellFormed_eq_placed_bytes (text : String) :
    isWellFormed text = placed (· == 45) isDigitByte (Bytes.ofString text) := by
  rw [isWellFormed_eq_placed]
  by_cases ascii : ∀ c ∈ text.toList, c.toNat < 128
  · rw [Bytes.ofString_of_ascii ascii, placed_map]
    exact placed_congr fun c there => byte_of_ascii (ascii c there)
  · -- A hyphen is below 128 and so is a digit, so neither row is in form.
    have notChars : placed (· == '-') Char.isDigit text.toList = false := by
      refine Bool.eq_false_iff.mpr fun form => ascii fun c there => ?_
      rcases isHyphen_or_isDigit_of_placed form c there with hyphen | digit
      · rw [beq_iff_eq.mp hyphen]
        decide
      · have := (isDigit_iff.mp digit).2
        omega
    have notBytes : placed (· == 45) isDigitByte (Bytes.ofString text) = false := by
      refine Bool.eq_false_iff.mpr fun form => ascii (Bytes.ascii_of_ofString fun b there => ?_)
      rcases isHyphen_or_isDigit_of_placed form b there with hyphen | digit
      · rw [beq_iff_eq.mp hyphen]
        decide
      · have high := (Bool.and_eq_true_iff.mp digit).2
        rw [decide_eq_true_eq, UInt8.le_iff_toNat_le] at high
        exact Nat.lt_of_le_of_lt high (by decide)
    rw [notChars, notBytes]

end HomePairing.SetupCode
