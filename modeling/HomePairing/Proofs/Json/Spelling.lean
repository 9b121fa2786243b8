import HomePairing.Json.Spelling

/-!
# A text is read from its spelling

`Spelling.encode` spells byte after byte, in one of three forms. Both readers take the
spelling of one byte off before they go on: `bytes?` gives the byte back, `scan` keeps its
spelling. So a text is read from its own spelling, and the quote behind the spelling is where
`scan` stops.
-/

namespace HomePairing.Json.Spelling

/-- How a byte can be spelled. -/
inductive Form (b : UInt8) : Bytes → Prop
  /-- By its number. -/
  | numbered {c d : UInt8} : b < 32 → unit? 48 48 c d = some b.toNat →
      Form b [92, 117, 48, 48, c, d]
  | escaped {letter : UInt8} : letter ≠ 117 → escaped? letter = some b → Form b [92, letter]
  /-- As itself. -/
  | plain : b ≠ 34 → b ≠ 92 → ¬ b < 32 → Form b [b]

/-- A control character's number takes two digits, after two zeros. -/
theorem unit?_hexDigits {b : UInt8} (control : b < 32) :
    unit? 48 48 (hexDigit (b.toNat / 16)) (hexDigit (b.toNat % 16)) = some b.toNat := by
  have all : ∀ n < 32, unit? 48 48 (hexDigit (n / 16)) (hexDigit (n % 16)) = some n := by
    decide +kernel
  exact all b.toNat (UInt8.lt_iff_toNat_lt.mp control)

theorem characterBytes_of_control {b : UInt8} (control : b < 32) :
    characterBytes b.toNat = [b] := by
  have all : ∀ n < 32, characterBytes n = [UInt8.ofNat n] := by decide +kernel
  rw [all b.toNat (UInt8.lt_iff_toNat_lt.mp control), UInt8.ofNat_toNat]

/-- Every byte is spelled in one of the forms. -/
theorem form_encodeByte (b : UInt8) : Form b (encodeByte b) := by
  by_cases quote : b = 34
  · subst quote
    show Form 34 [92, 34]
    exact .escaped (by decide) rfl
  by_cases backslash : b = 92
  · subst backslash
    show Form 92 [92, 92]
    exact .escaped (by decide) rfl
  by_cases control : b < 32
  · unfold encodeByte
    rw [if_neg quote, if_neg backslash]
    -- Five of them have letters of their own.
    split
    · next backspace => exact backspace ▸ .escaped (by decide) rfl
    split
    · next tab => exact tab ▸ .escaped (by decide) rfl
    split
    · next lineFeed => exact lineFeed ▸ .escaped (by decide) rfl
    split
    · next formFeed => exact formFeed ▸ .escaped (by decide) rfl
    split
    · next carriageReturn => exact carriageReturn ▸ .escaped (by decide) rfl
    exact .numbered control (unit?_hexDigits control)
  · have itself : encodeByte b = [b] := by
      unfold encodeByte
      have apart : ∀ c : UInt8, c < 32 → b ≠ c := fun c small same => control (same ▸ small)
      rw [if_neg quote, if_neg backslash, if_neg (apart 8 (by decide)),
        if_neg (apart 9 (by decide)), if_neg (apart 10 (by decide)),
        if_neg (apart 12 (by decide)), if_neg (apart 13 (by decide)), if_neg control]
    rw [itself]
    exact .plain quote backslash control

/-! ## The bytes that a spelling stands for -/

/-- Whatever follows it, a number that is no half of a pair stands for its character. -/
theorem bytes?_numbered {a b c d : UInt8} {n : Nat} (numbered : unit? a b c d = some n)
    (small : n < 0xD800) (rest : Bytes) :
    bytes? (92 :: 117 :: a :: b :: c :: d :: rest) =
      (bytes? rest).map (characterBytes n ++ ·) := by
  have notHigh : isHigh n = false := by
    simp only [isHigh, Bool.and_eq_false_iff, decide_eq_false_iff_not]
    omega
  have notLow : isLow n = false := by
    simp only [isLow, Bool.and_eq_false_iff, decide_eq_false_iff_not]
    omega
  by_cases paired : ∃ e f g h more, rest = 92 :: 117 :: e :: f :: g :: h :: more
  · obtain ⟨e, f, g, h, more, rfl⟩ := paired
    rw [bytes?.eq_2]
    simp [numbered, notHigh, notLow]
  · rw [bytes?.eq_3 _ _ _ _ _ fun e f g h more same => paired ⟨e, f, g, h, more, same⟩]
    simp [numbered, notHigh, notLow]

theorem bytes?_append {b : UInt8} {spelling : Bytes} (form : Form b spelling) (rest : Bytes) :
    bytes? (spelling ++ rest) = (bytes? rest).map (b :: ·) := by
  cases form with
  | @numbered c d control number =>
      have below : b.toNat < 32 := UInt8.lt_iff_toNat_lt.mp control
      show bytes? (92 :: 117 :: 48 :: 48 :: c :: d :: rest) = _
      rw [bytes?_numbered number (by omega), characterBytes_of_control control]
      rfl
  | @escaped letter notNumbered stands =>
      show bytes? (92 :: letter :: rest) = _
      rw [bytes?.eq_4 letter rest, stands]
      · intro _ _ _ _ _ _ _ _ _ same
        exact absurd same notNumbered
      · intro _ _ _ _ _ same
        exact absurd same notNumbered
  | plain notQuote notBackslash printable =>
      show bytes? (b :: rest) = _
      rw [bytes?.eq_5 b rest]
      · intro _ _ _ _ _ _ _ _ _ same
        exact absurd same notBackslash
      · intro _ _ _ _ _ same
        exact absurd same notBackslash
      · intro _ _ same
        exact absurd same notBackslash

theorem bytes?_flatMap_encodeByte (bytes : Bytes) :
    bytes? (bytes.flatMap encodeByte) = some bytes := by
  induction bytes with
  | nil => rfl
  | cons b rest ih => rw [List.flatMap_cons, bytes?_append (form_encodeByte b), ih]; rfl

/-- A text is read from its spelling. -/
@[simp] theorem decode?_encode (text : String) : decode? (encode text) = some text := by
  rw [decode?, encode, bytes?_flatMap_encodeByte]
  exact Bytes.toString?_ofString text

/-! ## Where a spelling ends -/

theorem scan_append {b : UInt8} {spelling : Bytes} (form : Form b spelling) (rest : Bytes) :
    scan (spelling ++ rest) = (scan rest).map fun (s, rest) => (spelling ++ s, rest) := by
  cases form with
  | @numbered c d control number =>
      show scan (92 :: 117 :: 48 :: 48 :: c :: d :: rest) = _
      rw [scan.eq_3, number]
      rfl
  | @escaped letter notNumbered stands =>
      show scan (92 :: letter :: rest) = _
      rw [scan.eq_4 letter rest, stands]
      · rfl
      · intro _ _ _ _ _ same
        exact absurd same notNumbered
  | plain notQuote notBackslash printable =>
      show scan (b :: rest) = _
      rw [scan.eq_5 b rest notQuote, if_neg printable]
      · rfl
      · intro _ _ _ _ _ same
        exact absurd same notBackslash
      · intro _ _ same
        exact absurd same notBackslash

/-- The quote behind the spelling of a text ends it. -/
theorem scan_encode (text : String) (rest : Bytes) :
    scan (encode text ++ 34 :: rest) = some (encode text, rest) := by
  unfold encode
  induction Bytes.ofString text with
  | nil => rw [List.flatMap_nil, List.nil_append, scan.eq_2]
  | cons b more ih =>
      rw [List.flatMap_cons, List.append_assoc, scan_append (form_encodeByte b), ih]
      rfl

end HomePairing.Json.Spelling
