import HomePairing.Config
import HomePairing.Host
import HomePairing.Identity
import HomePairing.Store

/-!
# Accessories

What all connections to one accessory share: its configuration, its identity,
its store of pairings, the count of failed proofs, and the single slot of
Pair-Setup. Whoever gets the slot holds a `Lease` until the slot is released.
-/

namespace HomePairing

/-- The right to run Pair-Setup on the accessory whose slot has this number. -/
structure Lease where
  slot : Nat
deriving DecidableEq, Repr

/-- An accessory, as all its connections see it. -/
structure Accessory where
  config : Config
  identity : Identity
  store : Store
  /-- The proofs that failed since the last pairing. -/
  failedAttempts : UInt32
  /-- Whether somebody holds the slot of Pair-Setup. -/
  setupInProgress : Bool
  /-- The number of the slot; accessories that live side by side have different ones. -/
  slot : Nat
deriving DecidableEq

namespace Accessory

/-! ## Making one -/

def create (slot : Nat) (config : Config) (identity : Identity) (store : Store) :
    Except ConfigError Accessory :=
  config.validate.map fun () =>
    { config, identity, store, failedAttempts := 0, setupInProgress := false, slot }

/-- An accessory with a fresh identity and a store in memory. The identity is
drawn first, so it is spent even on a configuration that is refused. -/
def inMemory (slot : Nat) (config : Config) (entropy : Entropy) :
    Except ConfigError Accessory × Entropy :=
  let (identity, entropy) := Identity.generate entropy
  (create slot config identity (.inMemory config.maxPairings), entropy)

/-! ## Questions -/

def pairingId (accessory : Accessory) : String :=
  accessory.identity.pairingId

def isPaired (accessory : Accessory) : Bool :=
  accessory.store.isPaired

def isLockedOut (accessory : Accessory) : Bool :=
  accessory.failedAttempts ≥ accessory.config.maxSetupAttempts

/-! ## The slot of Pair-Setup -/

def tryBeginSetup (accessory : Accessory) : Option (Lease × Accessory) :=
  if accessory.setupInProgress then none
  else some (⟨accessory.slot⟩, { accessory with setupInProgress := true })

/-- Give a lease back. A lease of another accessory changes nothing here. -/
def release (accessory : Accessory) (lease : Lease) : Accessory :=
  if lease.slot = accessory.slot then { accessory with setupInProgress := false }
  else accessory

def releaseAll (accessory : Accessory) : Option Lease → Accessory
  | some lease => accessory.release lease
  | none => accessory

/-! ## Changes -/

def recordFailure (accessory : Accessory) : Accessory :=
  { accessory with failedAttempts := accessory.failedAttempts + 1 }

def resetFailures (accessory : Accessory) : Accessory :=
  { accessory with failedAttempts := 0 }

def changeStore {Value : Type} (accessory : Accessory) (host : Host)
    (change : Store → Disk → Change Store Value) :
    Except StoreError Value × Accessory × Host :=
  let c := change accessory.store host.disk
  (c.result, { accessory with store := c.store }, { host with disk := c.disk })

def describe (suite : Suite) (accessory : Accessory) : String :=
  "Accessory \x7b config: " ++ accessory.config.describe ++
    ", identity: " ++ accessory.identity.describe suite ++
    ", failed_setup_attempts: " ++ toString accessory.failedAttempts.toNat ++
    ", setup_in_progress: " ++ toString accessory.setupInProgress ++ ", .. \x7d"

end Accessory

end HomePairing
