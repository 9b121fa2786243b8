import HomePairing.Session.Error

/-!
# States and failures of a connection
-/

namespace HomePairing

/-- Why a connection is closed. -/
inductive CloseReason where
  | sessionFailure
  | pairingRemoved
  | requested
deriving DecidableEq, Repr

def CloseReason.name : CloseReason → String
  | sessionFailure => "SessionFailure"
  | pairingRemoved => "PairingRemoved"
  | requested => "Requested"

/-- What a connection is good for. -/
inductive ConnectionState where
  /-- Handshakes in clear. -/
  | plain
  /-- A controller is verified, and everything is encrypted. -/
  | encrypted
  | closed (reason : CloseReason)
deriving DecidableEq, Repr

namespace ConnectionState

def isClosed : ConnectionState → Bool
  | closed _ => true
  | plain | encrypted => false

def isEncrypted (state : ConnectionState) : Bool :=
  state == encrypted

def name : ConnectionState → String
  | plain => "Plain"
  | encrypted => "Encrypted"
  | closed reason => "Closed(" ++ reason.name ++ ")"

end ConnectionState

/-- Why a connection does not serve. -/
inductive ConnectionError where
  | unknownEndpoint (path : String)
  | closed (reason : CloseReason)
  | notEncrypted
  | session (cause : SessionError)
deriving DecidableEq, Repr

def ConnectionError.name : ConnectionError → String
  | unknownEndpoint _ => "UnknownEndpoint"
  | closed _ => "Closed"
  | notEncrypted => "NotEncrypted"
  | session _ => "Session"

def ConnectionError.message : ConnectionError → String
  | unknownEndpoint path => "unknown endpoint: " ++ path
  | closed reason => "connection closed: " ++ reason.name
  | notEncrypted => "connection is not encrypted"
  | session cause => "session error: " ++ cause.message

end HomePairing
