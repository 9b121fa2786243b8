import HomePairing.Bytes.Block
import HomePairing.Cipher.Nonce
import HomePairing.Hash.Hkdf

/-!
# Labels of keys and messages

Every derived key has a salt and an info string of its own, and every sealed
handshake message a nonce of its own. Both sides must use the same strings, byte
for byte, so they are written down once.
-/

namespace HomePairing

/-- What a derived key is for. -/
inductive KeyLabel where
  /-- Seals the last two messages of Pair-Setup. -/
  | setupEncrypt
  /-- Goes into the controller's signature in Pair-Setup. -/
  | setupControllerSign
  /-- Goes into the accessory's signature in Pair-Setup. -/
  | setupAccessorySign
  /-- Seals the middle messages of Pair-Verify. -/
  | verifyEncrypt
  /-- Seals what the controller writes once verified. -/
  | controlWrite
  /-- Seals what the controller reads once verified. -/
  | controlRead
deriving DecidableEq, Repr

namespace KeyLabel

def all : List KeyLabel :=
  [setupEncrypt, setupControllerSign, setupAccessorySign, verifyEncrypt, controlWrite, controlRead]

def name : KeyLabel → String
  | setupEncrypt => "PairSetupEncrypt"
  | setupControllerSign => "PairSetupControllerSign"
  | setupAccessorySign => "PairSetupAccessorySign"
  | verifyEncrypt => "PairVerifyEncrypt"
  | controlWrite => "ControlWrite"
  | controlRead => "ControlRead"

def salt : KeyLabel → String
  | setupEncrypt => "Pair-Setup-Encrypt-Salt"
  | setupControllerSign => "Pair-Setup-Controller-Sign-Salt"
  | setupAccessorySign => "Pair-Setup-Accessory-Sign-Salt"
  | verifyEncrypt => "Pair-Verify-Encrypt-Salt"
  | controlWrite | controlRead => "Control-Salt"

/-- The info string the key is bound to. -/
def info : KeyLabel → String
  | setupEncrypt => "Pair-Setup-Encrypt-Info"
  | setupControllerSign => "Pair-Setup-Controller-Sign-Info"
  | setupAccessorySign => "Pair-Setup-Accessory-Sign-Info"
  | verifyEncrypt => "Pair-Verify-Encrypt-Info"
  | controlWrite => "Control-Write-Encryption-Key"
  | controlRead => "Control-Read-Encryption-Key"

/-- The 32-byte key that a label derives from secret material. -/
def derive (label : KeyLabel) (material : Bytes) : Key :=
  let extracted := Hkdf.extract (some (Bytes.ofString label.salt)) material
  ⟨Hkdf.output extracted (Bytes.ofString label.info) 32, Hkdf.length_output _ _ _⟩

end KeyLabel

/-- The handshake messages with a sealed payload. -/
inductive SealedMessage where
  /-- The controller's identity, in Pair-Setup. -/
  | setup5
  /-- The accessory's identity, in Pair-Setup. -/
  | setup6
  /-- The accessory's signature, in Pair-Verify. -/
  | verify2
  /-- The controller's signature, in Pair-Verify. -/
  | verify3
deriving DecidableEq, Repr

namespace SealedMessage

/-- The eight letters that stand in the message's nonce. -/
def label : SealedMessage → String
  | setup5 => "PS-Msg05"
  | setup6 => "PS-Msg06"
  | verify2 => "PV-Msg02"
  | verify3 => "PV-Msg03"

def nonce (message : SealedMessage) : Nonce :=
  Nonce.ofTail (Block.fit 8 (Bytes.ofString message.label))

end SealedMessage

end HomePairing
