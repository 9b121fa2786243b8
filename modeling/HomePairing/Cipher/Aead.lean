import HomePairing.Cipher.ChaCha20
import HomePairing.Cipher.Poly1305

/-!
# Authenticated encryption with ChaCha20 and Poly1305

Sealing masks the text and appends a tag over the associated data and the masked
text. Opening checks the tag before it unmasks, so a sealed text opens only as
it was sealed, and opening accepts exactly what sealing produces.

With the cipher and the authenticator under it this stands for the library
`chacha20poly1305`. That one refuses a text of more blocks than a counter of 32 bits
can number; the limit is left out here, so sealing goes through whatever the length.
-/

namespace HomePairing.Aead

def tagSize : Nat := 16

/-- Zeros that fill the last sixteen-byte chunk of a string. -/
def chunkFill (bytes : Bytes) : Bytes :=
  List.replicate ((16 - bytes.length % 16) % 16) 0

/-- What the tag covers: both strings filled up to whole chunks, then their
lengths. -/
def tagged (aad masked : Bytes) : Bytes :=
  aad ++ chunkFill aad ++ masked ++ chunkFill masked ++
    Bytes.ofNatLE 8 aad.length ++ Bytes.ofNatLE 8 masked.length

/-- The one-time key of the authenticator: the start of the key stream. -/
def oneTimeKey (key : Key) (nonce : Nonce) : Key :=
  Block.fit 32 (ChaCha20.block key nonce 0)

/-- The tag of a masked text and its associated data. -/
def tagOf (key : Key) (nonce : Nonce) (aad masked : Bytes) : Bytes :=
  (Poly1305.tag (oneTimeKey key nonce) (tagged aad masked)).bytes

def encrypt (key : Key) (nonce : Nonce) (aad text : Bytes) : Bytes :=
  let masked := ChaCha20.mask key nonce 1 text
  masked ++ tagOf key nonce aad masked

/-- Check the tag at the end of a sealed text, then unmask. -/
def decrypt? (key : Key) (nonce : Nonce) (aad sealed : Bytes) : Option Bytes :=
  let masked := sealed.take (sealed.length - tagSize)
  if sealed.drop (sealed.length - tagSize) = tagOf key nonce aad masked then
    some (ChaCha20.mask key nonce 1 masked)
  else
    none

@[simp] theorem length_tagOf (key : Key) (nonce : Nonce) (aad masked : Bytes) :
    (tagOf key nonce aad masked).length = tagSize :=
  (Poly1305.tag (oneTimeKey key nonce) (tagged aad masked)).length_eq

@[simp] theorem length_encrypt (key : Key) (nonce : Nonce) (aad text : Bytes) :
    (encrypt key nonce aad text).length = text.length + tagSize := by
  simp [encrypt]

end HomePairing.Aead
