import HomePairing.Crypto.Error

/-!
# Failures of an encrypted session
-/

namespace HomePairing

/-- The most bytes of text one frame carries. -/
def Session.maxPayload : Nat := 1024

/-- Why an encrypted session fails. -/
inductive SessionError where
  | frameTooLarge (length : Nat)
  | decryptionFailed (counter : Nat)
  | encryptionFailed (cause : CryptoError)
  | invalidKey (cause : CryptoError)
  | counterExhausted
  | poisoned
deriving DecidableEq, Repr

def SessionError.name : SessionError → String
  | frameTooLarge _ => "FrameTooLarge"
  | decryptionFailed _ => "DecryptionFailed"
  | encryptionFailed _ => "EncryptionFailed"
  | invalidKey _ => "InvalidKey"
  | counterExhausted => "CounterExhausted"
  | poisoned => "Poisoned"

def SessionError.message : SessionError → String
  | frameTooLarge length => s!"frame length {length} exceeds {Session.maxPayload}"
  | decryptionFailed counter => s!"frame {counter} failed authentication"
  | encryptionFailed cause => "encryption failed: " ++ cause.message
  | invalidKey cause => "invalid session key: " ++ cause.message
  | counterExhausted => "frame counter exhausted"
  | poisoned => "session poisoned by an earlier failure"

end HomePairing
