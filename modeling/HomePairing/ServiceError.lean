import HomePairing.Config
import HomePairing.Connection.Error
import HomePairing.Pairing.Error

/-!
# Failures of serving

Whatever can go wrong between an accessory and a controller, under one roof.
-/

namespace HomePairing

/-- A failure of any part. -/
inductive ServiceError where
  | pairing (cause : PairingError)
  | session (cause : SessionError)
  | storage (cause : StoreError)
  | config (cause : ConfigError)
  | connection (cause : ConnectionError)
  | tlv (cause : Tlv.Error)
  | crypto (cause : CryptoError)
  | io (kind : IoKind)
deriving DecidableEq, Repr

namespace ServiceError

def name : ServiceError → String
  | pairing _ => "Pairing"
  | session _ => "Session"
  | storage _ => "Storage"
  | config _ => "Config"
  | connection _ => "Connection"
  | tlv _ => "Tlv"
  | crypto _ => "Crypto"
  | io _ => "Io"

def message : ServiceError → String
  | pairing cause => "pairing error: " ++ cause.message
  | session cause => "session error: " ++ cause.message
  | storage cause => "storage error: " ++ cause.message
  | config cause => "configuration error: " ++ cause.message
  | connection cause => "connection error: " ++ cause.message
  | tlv cause => "TLV error: " ++ cause.message
  | crypto cause => "crypto error: " ++ cause.message
  | io kind => "I/O error: " ++ kind.message

/-- Whether the connection on which it happened must be closed. -/
def isConnectionLost : ServiceError → Bool
  | session _ => true
  | connection (.closed _) => true
  | connection (.session _) => true
  | _ => false

end ServiceError

end HomePairing
