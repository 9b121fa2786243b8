import HomePairing.Cipher.Aead
import HomePairing.Crypto.Error
import HomePairing.Crypto.Label
import HomePairing.Curve.Ed25519
import HomePairing.Curve.X25519

/-!
# The primitives a handshake is made of

The handshakes use the primitives as sealed boxes: a password exchange, key
derivation, an authenticated cipher, signatures and key agreement. `Suite` names
the boxes, so a law about a handshake says exactly which property of which box
it rests on, and `Suite.standard` puts the real ones in.
-/

namespace HomePairing

/-- The cryptographic primitives behind pairing. -/
structure Suite where
  srp : Srp.Scheme
  /-- The key with a given purpose that some secret material yields. -/
  derive : KeyLabel → Bytes → Key
  /-- Seal a text under a key, a nonce and associated data. -/
  encrypt : Key → Nonce → Bytes → Bytes → Bytes
  /-- Open a sealed text, if its tag matches. -/
  decrypt? : Key → Nonce → Bytes → Bytes → Option Bytes
  signingPublic : Key → Key
  /-- Whether some bytes can be a signer's public key. -/
  isSigningPublic : Key → Bool
  sign : Key → Bytes → Signature
  /-- Whether a signature over a message is the key owner's. -/
  verify : Key → Bytes → Signature → Bool
  /-- The public value of an agreement secret. -/
  agreementPublic : Key → Key
  /-- What the owner of a secret shares with the owner of a public value. -/
  agree : Key → Key → Key

namespace Suite

def standard : Suite where
  srp := Srp.Scheme.standard
  derive := KeyLabel.derive
  encrypt := Aead.encrypt
  decrypt? := Aead.decrypt?
  signingPublic := Ed25519.publicKey
  isSigningPublic := Ed25519.isPublicKey
  sign := Ed25519.sign
  verify := Ed25519.verify
  agreementPublic := X25519.publicKey
  agree := X25519.agree

variable (suite : Suite)

/-- Open a sealed text. What cannot even hold a tag is told apart. -/
def decrypt (key : Key) (nonce : Nonce) (aad sealed : Bytes) : Except CryptoError Bytes :=
  if sealed.length < Aead.tagSize then
    .error .shorterThanTag
  else
    match suite.decrypt? key nonce aad sealed with
    | some text => .ok text
    | none => .error .tagMismatch

def sealMessage (key : Key) (message : SealedMessage) (payload : Bytes) : Bytes :=
  suite.encrypt key message.nonce [] payload

def openMessage (key : Key) (message : SealedMessage) (sealed : Bytes) :
    Except CryptoError Bytes :=
  suite.decrypt key message.nonce [] sealed

/-- A block from bytes of unknown length. -/
def parseBlock (n : Nat) (bytes : Bytes) : Except CryptoError (Block n) :=
  match Block.ofBytes? bytes with
  | some block => .ok block
  | none => .error (.invalidKeyLength n bytes.length)

/-- A signer's public key from its 32 bytes. -/
def parsePublic (key : Key) : Except CryptoError Key :=
  if suite.isSigningPublic key then .ok key else .error .invalidPublicKey

/-- A signer's public key from bytes of unknown length. -/
def parseSigner (bytes : Bytes) : Except CryptoError Key := do
  let key ← parseBlock 32 bytes
  suite.parsePublic key

/-- A stretch of derived key material. -/
def deriveKey (salt : Option Bytes) (material info : Bytes) (length : Nat) :
    Except CryptoError Bytes :=
  match Hkdf.derive? salt material info length with
  | some bytes => .ok bytes
  | none => .error .derivationLimit

def authenticate (key : Key) (message : Bytes) (signature : Signature) :
    Except CryptoError Unit :=
  if suite.verify key message signature then .ok () else .error .invalidSignature

end Suite

end HomePairing
