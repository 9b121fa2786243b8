import HomePairing.Crypto.Suite

/-!
# Laws of the primitives

Sessions and handshakes are proved for every suite with the laws they need. A suite seals
(`Suite.Seals`) if its cipher opens what it has sealed and adds nothing but a tag; it signs
(`Suite.Signs`) if a signer's own signatures hold under a public key that is accepted as
one. That the standard suite seals is proved here (`seals_standard`).
-/

namespace HomePairing

/-- A masked text with a tag behind it opens if the tag is its own. -/
theorem Aead.decrypt?_append (key : Key) (nonce : Nonce) (aad masked : Bytes) {tag : Bytes}
    (whole : tag.length = tagSize) :
    decrypt? key nonce aad (masked ++ tag) =
      if tag = tagOf key nonce aad masked then some (ChaCha20.mask key nonce 1 masked)
      else none := by
  have front : (masked ++ tag).length - tagSize = masked.length := by simp [whole]
  simp only [decrypt?, front, List.take_left, List.drop_left]

/-- Masking is its own inverse, and the tag is recomputed from the same masked text. -/
theorem Aead.decrypt?_encrypt (key : Key) (nonce : Nonce) (aad text : Bytes) :
    decrypt? key nonce aad (encrypt key nonce aad text) = some text := by
  simp only [encrypt]
  rw [decrypt?_append key nonce aad _ (length_tagOf ..), if_pos rfl, ChaCha20.mask_mask]

namespace Suite

/-- The cipher opens what it has sealed, and a sealed text is the text and a tag. -/
structure Seals (suite : Suite) : Prop where
  opens : ∀ key nonce aad text,
    suite.decrypt? key nonce aad (suite.encrypt key nonce aad text) = some text
  length_encrypt : ∀ key nonce aad text,
    (suite.encrypt key nonce aad text).length = text.length + Aead.tagSize

theorem seals_standard : standard.Seals where
  opens := Aead.decrypt?_encrypt
  length_encrypt := Aead.length_encrypt

/-- A signer's own signatures hold, and its public key can be a signer's. -/
structure Signs (suite : Suite) : Prop where
  verifies : ∀ seed message,
    suite.verify (suite.signingPublic seed) message (suite.sign seed message) = true
  isPublic : ∀ seed, suite.isSigningPublic (suite.signingPublic seed) = true

variable {suite : Suite}

/-- What was sealed is never too short to hold a tag. -/
theorem Seals.decrypt_encrypt (seals : suite.Seals) (key : Key) (nonce : Nonce)
    (aad text : Bytes) :
    suite.decrypt key nonce aad (suite.encrypt key nonce aad text) = .ok text := by
  have long : ¬ (suite.encrypt key nonce aad text).length < Aead.tagSize := by
    rw [seals.length_encrypt]
    omega
  simp only [decrypt, if_neg long, seals.opens]

theorem Seals.openMessage_sealMessage (seals : suite.Seals) (key : Key)
    (message : SealedMessage) (payload : Bytes) :
    suite.openMessage key message (suite.sealMessage key message payload) = .ok payload :=
  seals.decrypt_encrypt key message.nonce [] payload

end Suite

end HomePairing
