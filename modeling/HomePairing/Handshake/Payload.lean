import HomePairing.Crypto.Suite
import HomePairing.Pairing.Message

/-!
# What is sealed and signed

In both handshakes each side sends a sealed payload with its identifier and a
signature. What is signed starts with something that only this handshake has, so
a signature is of no use in another one. Both sides build and read the payloads
with the functions here.
-/

namespace HomePairing

/-- The payload that ends Pair-Setup: who the sender is, and the proof that the
key is its own. -/
structure SetupPayload where
  id : String
  publicKey : Key
  signature : Bytes
deriving DecidableEq

namespace SetupPayload

def encode (payload : SetupPayload) : Bytes :=
  Tlv.encode
    [(.identifier, Bytes.ofString payload.id), (.publicKey, payload.publicKey.bytes),
     (.signature, payload.signature)]

def decode (bytes : Bytes) : Except PairingError SetupPayload := do
  let message ← Pairing.decodeSealed bytes
  let id ← message.requireIdentifier.mapError .invalidSubTlv
  let publicKey ← (message.requireBlock 32 .publicKey).mapError .invalidSubTlv
  let signature ← (message.require .signature).mapError .invalidSubTlv
  return { id, publicKey, signature }

/-- What the sender signs: a key derived from this Pair-Setup alone, its
identifier and its public key. -/
def signed (suite : Suite) (label : KeyLabel) (sessionKey : Bytes) (id : String)
    (publicKey : Key) : Bytes :=
  (suite.derive label sessionKey).bytes ++ Bytes.ofString id ++ publicKey.bytes

end SetupPayload

/-- The payload of Pair-Verify: who the sender is, and the proof that it owns the
key it is known by. -/
structure VerifyPayload where
  id : String
  signature : Bytes
deriving DecidableEq

namespace VerifyPayload

def encode (payload : VerifyPayload) : Bytes :=
  Tlv.encode
    [(.identifier, Bytes.ofString payload.id), (.signature, payload.signature)]

def decode (bytes : Bytes) : Except PairingError VerifyPayload := do
  let message ← Pairing.decodeSealed bytes
  let id ← message.requireIdentifier.mapError .invalidSubTlv
  let signature ← (message.require .signature).mapError .invalidSubTlv
  return { id, signature }

/-- What the sender signs: its own agreement value, its identifier, and the other
side's agreement value. -/
def signed (own : Key) (id : String) (other : Key) : Bytes :=
  own.bytes ++ Bytes.ofString id ++ other.bytes

end VerifyPayload

/-- Check a signature of unknown length under the bytes of a public key. -/
def Suite.checkSignature (suite : Suite) (publicKey : Key) (message signature : Bytes) :
    Except PairingError Unit := do
  let publicKey ← (suite.parsePublic publicKey).mapError .crypto
  let signature ← (Suite.parseBlock 64 signature).mapError .crypto
  if suite.verify publicKey message signature then
    return ()
  else
    throw .signatureVerificationFailed

end HomePairing
