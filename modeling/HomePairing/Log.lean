import HomePairing.Pairing.Error
import HomePairing.Session.Error

/-!
# Warnings

What the owner of an accessory should hear about: requests that were refused and
sessions that broke. A warning keeps the failure itself; `message` and `facts` say
how it is told.
-/

namespace HomePairing

/-- Something the owner of an accessory should hear about. -/
inductive Warning where
  /-- A setup code was not proved; how often that has happened by now. -/
  | proofRejected (accessoryId : String) (attempts : UInt32)
  /-- A Pair-Setup request of the given step was refused. -/
  | setupFailed (accessoryId : String) (state : UInt8) (error : PairingError)
  /-- A Pair-Verify request of the given step was refused. -/
  | verifyFailed (accessoryId : String) (state : UInt8) (error : PairingError)
  | pairingsFailed (accessoryId : String) (requester : Option String) (error : PairingError)
  /-- Pair-Verify was asked for on an encrypted connection. -/
  | verifyRefused (accessoryId : String) (error : PairingError)
  | sessionPoisoned (counter : Nat) (error : SessionError)
deriving DecidableEq, Repr

def Warning.message : Warning → String
  | proofRejected .. => "Pair-Setup proof rejected"
  | setupFailed .. => "Pair-Setup failed"
  | verifyFailed .. => "Pair-Verify failed"
  | pairingsFailed .. => "Pairings request failed"
  | verifyRefused .. => "Pair-Verify refused"
  | sessionPoisoned .. => "Secure session poisoned"

/-- One of the facts that a warning states. -/
inductive Warning.Fact where
  | number (value : Nat)
  | text (value : String)
  | failure (message : String)
deriving DecidableEq, Repr

/-- The facts that the warning states, by name. -/
def Warning.facts : Warning → List (String × Fact)
  | proofRejected id attempts => [("pairing_id", .text id), ("attempts", .number attempts.toNat)]
  | setupFailed id state e | verifyFailed id state e =>
    [("pairing_id", .text id), ("state", .number state.toNat), ("kind", .text e.kind.name),
     ("error", .failure e.message)]
  | pairingsFailed id requester e =>
    [("pairing_id", .text id), ("requester", .text (requester.getD "-")),
     ("error", .failure e.message)]
  | verifyRefused id e => [("pairing_id", .text id), ("error", .failure e.message)]
  | sessionPoisoned counter e => [("counter", .number counter), ("error", .failure e.message)]

/-- Warnings, oldest first. -/
abbrev Log := List Warning

end HomePairing
