import HomePairing.Srp.Exchange

/-!
# Failures of the primitives
-/

namespace HomePairing

inductive CryptoError where
  | invalidKeyLength (expected actual : Nat)
  | invalidSignature
  | decryptionFailed (reason : String)
  | encryptionFailed (reason : String)
  | keyDerivationFailed (reason : String)
  /-- The password exchange was broken off. -/
  | srp (reason : String)
  | invalidPublicKey
deriving DecidableEq, Repr

namespace CryptoError

def name : CryptoError → String
  | invalidKeyLength .. => "InvalidKeyLength"
  | invalidSignature => "InvalidSignature"
  | decryptionFailed _ => "DecryptionFailed"
  | encryptionFailed _ => "EncryptionFailed"
  | keyDerivationFailed _ => "KeyDerivationFailed"
  | srp _ => "SrpError"
  | invalidPublicKey => "InvalidPublicKey"

def message : CryptoError → String
  | invalidKeyLength expected actual =>
    s!"invalid key length: expected {expected}, got {actual}"
  | invalidSignature => "invalid signature"
  | decryptionFailed reason => "decryption failed: " ++ reason
  | encryptionFailed reason => "encryption failed: " ++ reason
  | keyDerivationFailed reason => "key derivation failed: " ++ reason
  | srp reason => "SRP error: " ++ reason
  | invalidPublicKey => "invalid public key"

def ofRefusal (refusal : Srp.Refusal) : CryptoError :=
  srp refusal.message

def shorterThanTag : CryptoError :=
  decryptionFailed "ciphertext shorter than tag"

def tagMismatch : CryptoError :=
  decryptionFailed "aead::Error"

/-- A stretch beyond what key derivation yields. -/
def derivationLimit : CryptoError :=
  keyDerivationFailed "HKDF expand failed"

end CryptoError

end HomePairing
