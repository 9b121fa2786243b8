import HomePairing.Proofs.Crypto.Laws

/-!
# What a sealed text is

The tag is computed from the masked text, so opening has nothing to guess: it takes the last
sixteen bytes for a tag, and either they are the tag of what stands before them or nothing
comes out. What opens is therefore what was sealed, byte for byte
(`Aead.decrypt?_eq_some_iff`): for one key, nonce and associated data, sealing and opening
are inverse to each other. This holds of the standard suite, with its real primitives
(`Suite.opens_what_is_sealed`).
-/

namespace HomePairing

namespace Aead

variable {key : Key} {nonce : Nonce} {aad text sealed : Bytes}

/-- What opens was sealed from what comes out. -/
theorem encrypt_of_decrypt? (opened : decrypt? key nonce aad sealed = some text) :
    encrypt key nonce aad text = sealed := by
  simp only [decrypt?] at opened
  split at opened
  · next genuine =>
      cases opened
      -- Masked again, the text is what stood before the tag, and so has that very tag.
      simp only [encrypt, ChaCha20.mask_mask]
      rw [← genuine, List.take_append_drop]
  · cases opened

theorem decrypt?_eq_some_iff :
    decrypt? key nonce aad sealed = some text ↔ encrypt key nonce aad text = sealed := by
  constructor
  · exact encrypt_of_decrypt?
  · rintro rfl
    exact decrypt?_encrypt key nonce aad text

/-- What is too short for a tag was never sealed. -/
theorem decrypt?_of_short (short : sealed.length < tagSize) :
    decrypt? key nonce aad sealed = none := by
  refine Option.eq_none_iff_forall_ne_some.mpr fun text opened => ?_
  have length := length_encrypt key nonce aad text
  rw [encrypt_of_decrypt? opened] at length
  omega

end Aead

namespace Suite

variable {key : Key} {nonce : Nonce} {aad text sealed : Bytes}

theorem decrypt_of_short {suite : Suite} (short : sealed.length < Aead.tagSize) :
    suite.decrypt key nonce aad sealed = .error .shorterThanTag := by
  rw [decrypt, if_pos short]

theorem decrypt_standard_eq_ok_iff :
    standard.decrypt key nonce aad sealed = .ok text ↔
      standard.encrypt key nonce aad text = sealed := by
  show _ ↔ Aead.encrypt key nonce aad text = sealed
  rw [← Aead.decrypt?_eq_some_iff]
  by_cases short : sealed.length < Aead.tagSize
  · simp [decrypt_of_short short, Aead.decrypt?_of_short short]
  · have same : standard.decrypt? key nonce aad sealed = Aead.decrypt? key nonce aad sealed := rfl
    rw [decrypt, if_neg short, same]
    cases Aead.decrypt? key nonce aad sealed with
    | none => simp
    | some opened => simp

/-- With any sixteen bytes but its own tag behind it a sealed text is refused. -/
theorem decrypt_standard_of_other_tag {tag : Bytes} (whole : tag.length = Aead.tagSize)
    (other : tag ≠ (standard.encrypt key nonce aad text).drop text.length) :
    standard.decrypt key nonce aad
        ((standard.encrypt key nonce aad text).take text.length ++ tag) =
      .error .tagMismatch := by
  have sealed_eq : standard.encrypt key nonce aad text =
      ChaCha20.mask key nonce 1 text ++
        Aead.tagOf key nonce aad (ChaCha20.mask key nonce 1 text) := rfl
  have masked : (ChaCha20.mask key nonce 1 text).length = text.length :=
    ChaCha20.length_mask ..
  rw [sealed_eq, List.drop_left' masked] at other
  rw [sealed_eq, List.take_left' masked]
  have long : ¬ (ChaCha20.mask key nonce 1 text ++ tag).length < Aead.tagSize := by
    rw [List.length_append]
    omega
  have refused : standard.decrypt? key nonce aad (ChaCha20.mask key nonce 1 text ++ tag) = none :=
    (Aead.decrypt?_append key nonce aad _ whole).trans (if_neg other)
  rw [decrypt, if_neg long, refused]

/-- The standard cipher opens exactly what it seals. Under every key and nonce, with every
associated data and for texts of every length: a string opens to a text if and only if the
text is sealed to that string. So what was sealed opens again; a sealed text is the text and
sixteen bytes; what is shorter than those is refused as such; and with any other sixteen
bytes at its end a sealed text is refused. -/
theorem opens_what_is_sealed (key : Key) (nonce : Nonce) (aad : Bytes) :
    (∀ sealed text, standard.decrypt key nonce aad sealed = .ok text ↔
      standard.encrypt key nonce aad text = sealed) ∧
    (∀ text, standard.decrypt key nonce aad (standard.encrypt key nonce aad text) = .ok text) ∧
    (∀ text, (standard.encrypt key nonce aad text).length = text.length + 16) ∧
    (∀ sealed, sealed.length < 16 →
      standard.decrypt key nonce aad sealed = .error .shorterThanTag) ∧
    ∀ text tag, tag.length = 16 →
      tag ≠ (standard.encrypt key nonce aad text).drop text.length →
      standard.decrypt key nonce aad
          ((standard.encrypt key nonce aad text).take text.length ++ tag) =
        .error .tagMismatch := by
  refine ⟨fun sealed text => decrypt_standard_eq_ok_iff, fun text => ?_, fun text => ?_,
    fun sealed short => decrypt_of_short short,
    fun text tag whole other => decrypt_standard_of_other_tag whole other⟩
  · exact decrypt_standard_eq_ok_iff.mpr rfl
  · exact Aead.length_encrypt key nonce aad text

/-- Fifteen bytes do not open, and neither does a sealed greeting with zeros for its tag. -/
theorem opens_what_is_sealed_greeting :
    let key : Key := Block.zero
    let nonce := Nonce.ofCounter 0
    let aad : Bytes := [5, 0]
    let text := Bytes.ofString "hello"
    let stump : Bytes := List.replicate 15 7
    let tag : Bytes := List.replicate 16 0
    (stump.length < 16 ∧ standard.decrypt key nonce aad stump = .error .shorterThanTag) ∧
    tag.length = 16 ∧ tag ≠ (standard.encrypt key nonce aad text).drop text.length ∧
    standard.decrypt key nonce aad
        ((standard.encrypt key nonce aad text).take text.length ++ tag) =
      .error .tagMismatch := by
  intro key nonce aad text stump tag
  have short : stump.length < 16 := by decide
  have whole : tag.length = 16 := by decide
  have other : tag ≠ (standard.encrypt key nonce aad text).drop text.length := by
    decide +kernel
  obtain ⟨-, -, -, refused, mismatched⟩ := opens_what_is_sealed key nonce aad
  exact ⟨⟨short, refused stump short⟩, whole, other, mismatched text tag whole other⟩

end Suite

end HomePairing
