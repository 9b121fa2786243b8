import HomePairing.Store.File

/-!
# Pairing stores

A store is a registry with a capacity. One in memory forgets its records with
the process, one in a file saves every change before it counts. Apart from that
they answer alike: every operation is a change of the registry, written down
once, and `Store.update` carries it out in either kind.
-/

namespace HomePairing

/-- A store that lives in memory only. -/
structure MemoryStore where
  records : Registry
  capacity : Nat
deriving DecidableEq

/-- Where an accessory keeps its pairings. -/
inductive Store where
  | memory (store : MemoryStore)
  | file (store : FileStore)
deriving DecidableEq

namespace Store

def inMemory (capacity : Nat) : Store :=
  memory ⟨.empty, capacity⟩

def registry : Store → Registry
  | memory store => store.records
  | file store => store.document.pairings

def capacity : Store → Nat
  | memory store => store.capacity
  | file store => store.capacity

/-! ## Questions -/

def find? (store : Store) (controllerId : String) : Option PairingRecord :=
  store.registry.find? controllerId

/-- All records, in the order of the controllers' identifiers. -/
def list (store : Store) : List PairingRecord :=
  store.registry.records

def isPaired (store : Store) : Bool :=
  !store.registry.isEmpty

/-! ## Changes -/

def update {Value : Type} (store : Store) (disk : Disk)
    (change : Registry → Except StoreError (Value × Registry)) : Change Store Value :=
  match store with
  | memory m =>
    match change m.records with
    | .error e => { result := .error e, store, disk }
    | .ok (value, records) => { result := .ok value, store := memory { m with records }, disk }
  | file f =>
    let c := f.update disk change
    { result := c.result, store := file c.store, disk := c.disk }

/-- File a record; one of the same controller gives way. -/
def put (store : Store) (disk : Disk) (record : PairingRecord) : Change Store Unit :=
  store.update disk fun registry =>
    (registry.insertBounded store.capacity record).map fun registry => ((), registry)

/-- File a record unless its controller is paired with another key. -/
def add (store : Store) (disk : Disk) (record : PairingRecord) : Change Store Unit :=
  store.update disk fun registry =>
    (registry.insertChecked store.capacity record).map fun registry => ((), registry)

/-- Take out the record of a controller. Nothing is saved if there is none. -/
def remove (store : Store) (disk : Disk) (controllerId : String) :
    Change Store (Option PairingRecord) :=
  match store.find? controllerId with
  | none => { result := .ok none, store, disk }
  | some record =>
    store.update disk fun registry => .ok (some record, registry.erase controllerId)

/-- Take out the record of a controller, and every other if no admin is left.
The result names the controllers that went. -/
def removeCascading (store : Store) (disk : Disk) (controllerId : String) :
    Change Store (List String) :=
  store.update disk fun registry => .ok (registry.eraseCascading controllerId)

def clear (store : Store) (disk : Disk) : Change Store Unit :=
  store.update disk fun _ => .ok ((), .empty)

end Store

end HomePairing
