import HomePairing.Accessory
import HomePairing.ServiceError

/-!
# Accessories that outlive the process

An accessory whose pairings and identity lie in a file is the same accessory
after every start.
-/

namespace HomePairing.Accessory

/-- Open the store at a path and make an accessory of what is in it. The file is
created, with a fresh identity, before the configuration is looked at. -/
def openAt (slot : Nat) (config : Config) (path : Path) (host : Host) :
    Except ServiceError Accessory × Host :=
  match FileStore.openAt host.disk path config.maxPairings with
  | (.error e, disk) => (.error (.storage e), { host with disk })
  | (.ok store, disk) =>
    let (change, entropy) := store.ensureIdentity disk host.entropy
    let host := { host with disk := change.disk, entropy }
    match change.result with
    | .error e => (.error (.storage e), host)
    | .ok identity =>
      ((create slot config identity (.file change.store)).mapError .config, host)

/-- The setup code of accessories that controllers are tried out on. -/
def sampleCode : SetupCode := ⟨"031-45-154"⟩

def sample (slot : Nat) (config : Config) (entropy : Entropy) :
    Except ConfigError Accessory × Entropy :=
  inMemory slot { config with setupCode := sampleCode } entropy

/-- Where the identity and the pairings of a new accessory come from. -/
inductive Source where
  /-- A fresh identity, and a store in memory. -/
  | memory
  | sample
  /-- Whatever is in a file. -/
  | file (path : Path)
  /-- An identity that is there already, and a store that is, or one in memory. -/
  | parts (identity : Identity) (store : Option Store)

def make (source : Source) (slot : Nat) (config : Config) (host : Host) :
    Except ServiceError Accessory × Host :=
  match source with
  | .memory =>
    let (result, entropy) := inMemory slot config host.entropy
    (result.mapError .config, { host with entropy })
  | .sample =>
    let (result, entropy) := sample slot config host.entropy
    (result.mapError .config, { host with entropy })
  | .file path => openAt slot config path host
  | .parts identity store =>
    let store := store.getD (.inMemory config.maxPairings)
    ((create slot config identity store).mapError .config, host)

end HomePairing.Accessory
