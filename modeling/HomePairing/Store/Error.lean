import HomePairing.Crypto.Error

/-!
# Failures of a store
-/

namespace HomePairing

/-- How a file operation fails. -/
inductive IoKind where
  | notFound
  | isADirectory
  | notADirectory
  | alreadyExists
  | permissionDenied
  | busy
  | invalidFilename
  /-- A path cannot be asked for. -/
  | invalidInput
deriving DecidableEq, Repr

def IoKind.name : IoKind → String
  | notFound => "NotFound"
  | isADirectory => "IsADirectory"
  | notADirectory => "NotADirectory"
  | alreadyExists => "AlreadyExists"
  | permissionDenied => "PermissionDenied"
  | busy => "ResourceBusy"
  | invalidFilename => "InvalidFilename"
  | invalidInput => "InvalidInput"

def IoKind.message : IoKind → String
  | notFound => "no such file or directory"
  | isADirectory => "is a directory"
  | notADirectory => "not a directory"
  | alreadyExists => "file exists"
  | permissionDenied => "permission denied"
  | busy => "resource busy"
  | invalidFilename => "name too long"
  | invalidInput => "invalid path"

/-- Why a store refuses or fails an operation. -/
inductive StoreError where
  | io (kind : IoKind)
  | serialization (reason : String)
  | full (capacity : Nat)
  | poisoned
  /-- A controller is paired already, with another key. -/
  | keyMismatch (controllerId : String)
  /-- The identity in the file is unusable. -/
  | invalidIdentity (cause : CryptoError)
deriving DecidableEq, Repr

def StoreError.name : StoreError → String
  | io _ => "Io"
  | serialization _ => "Serialization"
  | full _ => "Full"
  | poisoned => "Poisoned"
  | keyMismatch _ => "KeyMismatch"
  | invalidIdentity _ => "InvalidIdentity"

def StoreError.message : StoreError → String
  | io kind => "I/O error: " ++ kind.message
  | serialization reason => "serialization error: " ++ reason
  | full capacity => s!"pairing store full ({capacity} records)"
  | poisoned => "pairing store lock poisoned"
  | keyMismatch controllerId =>
    "pairing " ++ controllerId ++ " exists with a different public key"
  | invalidIdentity cause => "invalid stored identity: " ++ cause.message

end HomePairing
