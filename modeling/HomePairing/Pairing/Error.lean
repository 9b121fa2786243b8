import HomePairing.Store.Error
import HomePairing.Tlv.Encoding

/-!
# Why a request is refused

Each failure belongs to a kind and has a code that is sent to the controller.
Failures of a cryptographic kind all have the same code, so the controller
cannot tell a wrong key from a wrong signature or an unknown name.
-/

namespace HomePairing

/-- The broad kinds of failure. -/
inductive ErrorKind where
  | decode
  | crypto
  | protocol
  | policy
  | storage
deriving DecidableEq, Repr

def ErrorKind.name : ErrorKind → String
  | decode => "Decode"
  | crypto => "Crypto"
  | protocol => "Protocol"
  | policy => "Policy"
  | storage => "Storage"

/-! ## The codes that an error reply carries -/

namespace ErrorCode

/-- Nothing more is said. -/
def unknown : UInt8 := 1

/-- A proof or a permission is lacking. -/
def authentication : UInt8 := 2

def maxPeers : UInt8 := 4

def maxTries : UInt8 := 5

/-- The accessory is paired already. -/
def unavailable : UInt8 := 6

def busy : UInt8 := 7

end ErrorCode

/-- Why a request is refused. -/
inductive PairingError where
  | tlv (cause : Tlv.Error)
  /-- What was sealed in the request cannot be read. -/
  | invalidSubTlv (cause : Tlv.Error)
  | crypto (cause : CryptoError)
  | unexpectedState (expected actual : UInt8)
  | unsupportedMethod (method : UInt8)
  | authenticationFailed
  | signatureVerificationFailed
  | unknownController (id : String)
  | alreadyPaired
  | busy
  | maxTries
  | maxPeers
  | notAdmin
  /-- The controller is paired with another key. -/
  | identifierConflict (id : String)
  | sessionActive
  /-- The other side answered with an error. -/
  | peerError (code : UInt8)
  | storage (cause : StoreError)
deriving DecidableEq, Repr

namespace PairingError

/-- A store's failure as a refusal: a lack of room and a conflict of keys have
refusals of their own. -/
def ofStore : StoreError → PairingError
  | .full _ => maxPeers
  | .keyMismatch id => identifierConflict id
  | cause => storage cause

def name : PairingError → String
  | tlv _ => "Tlv"
  | invalidSubTlv _ => "InvalidSubTlv"
  | crypto _ => "Crypto"
  | unexpectedState .. => "UnexpectedState"
  | unsupportedMethod _ => "UnsupportedMethod"
  | authenticationFailed => "AuthenticationFailed"
  | signatureVerificationFailed => "SignatureVerificationFailed"
  | unknownController _ => "UnknownController"
  | alreadyPaired => "AlreadyPaired"
  | busy => "Busy"
  | maxTries => "MaxTries"
  | maxPeers => "MaxPeers"
  | notAdmin => "NotAdmin"
  | identifierConflict _ => "IdentifierConflict"
  | sessionActive => "SessionActive"
  | peerError _ => "PeerError"
  | storage _ => "Storage"

def message : PairingError → String
  | tlv cause => "TLV error: " ++ cause.message
  | invalidSubTlv cause => "invalid encrypted payload: " ++ cause.message
  | crypto cause => "crypto error: " ++ cause.message
  | unexpectedState expected actual => s!"unexpected state: expected {expected}, got {actual}"
  | unsupportedMethod method => s!"unsupported pairing method: {method}"
  | authenticationFailed => "setup code proof rejected"
  | signatureVerificationFailed => "signature verification failed"
  | unknownController id => "unknown controller: " ++ id
  | alreadyPaired => "accessory is already paired"
  | busy => "another pairing is in progress"
  | maxTries => "too many failed setup attempts"
  | maxPeers => "maximum number of pairings reached"
  | notAdmin => "admin permission required"
  | identifierConflict id => "pairing " ++ id ++ " exists with a different public key"
  | sessionActive => "session already established"
  | peerError code => s!"peer returned error: {code}"
  | storage cause => "storage error: " ++ cause.message

def kind : PairingError → ErrorKind
  | tlv _ => .decode
  | invalidSubTlv _ | crypto _ | authenticationFailed | signatureVerificationFailed
  | unknownController _ => .crypto
  | unexpectedState _ _ | unsupportedMethod _ | sessionActive | peerError _ => .protocol
  | alreadyPaired | busy | maxTries | maxPeers | notAdmin | identifierConflict _ => .policy
  | storage _ => .storage

/-- The code that is sent to the controller. -/
def code (e : PairingError) : UInt8 :=
  match e with
  | alreadyPaired => ErrorCode.unavailable
  | busy => ErrorCode.busy
  | maxTries => ErrorCode.maxTries
  | maxPeers => ErrorCode.maxPeers
  | notAdmin => ErrorCode.authentication
  | peerError code => code
  | e => if e.kind = .crypto then ErrorCode.authentication else ErrorCode.unknown

end PairingError

end HomePairing
