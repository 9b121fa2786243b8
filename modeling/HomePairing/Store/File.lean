import HomePairing.Store.Disk
import HomePairing.Store.Document

/-!
# A store in a file

The store keeps a copy of its document and answers every question from it. A
change is made to another copy, saved, and only then taken over, so a change
that cannot be saved has not happened.
-/

namespace HomePairing

/-- What a change leaves behind: its outcome, the store and the disk. -/
structure Change (Store Value : Type) where
  result : Except StoreError Value
  store : Store
  disk : Disk

/-- A store whose records and identity lie in a file. -/
structure FileStore where
  path : Path
  capacity : Nat
  document : Document
deriving DecidableEq

namespace FileStore

/-- The document that lies at a path; an empty one if there is no file. -/
def load (disk : Disk) (path : Path) : Except StoreError Document :=
  match disk.exists? path with
  | .error kind => .error (.io kind)
  | .ok false => .ok .empty
  | .ok true =>
    match disk.read path with
    | .error kind => .error (.io kind)
    | .ok file => Document.parse file

/-- Open the store at a path. The directories on the way are made if they are
missing. -/
def openAt (disk : Disk) (path : Path) (capacity : Nat) : Except StoreError FileStore × Disk :=
  match disk.makeDirectories path.parent with
  | (.error kind, disk) => (.error (.io kind), disk)
  | (.ok (), disk) =>
    match load disk path with
    | .error e => (.error e, disk)
    | .ok document => (.ok { path, capacity, document }, disk)

/-- Save a document, and take it over if that succeeds. -/
def publish {Value : Type} (store : FileStore) (disk : Disk) (document : Document)
    (value : Value) : Change FileStore Value :=
  match disk.save store.path document.render with
  | (.ok (), disk) => { result := .ok value, store := { store with document }, disk }
  | (.error kind, disk) => { result := .error (.io kind), store, disk }

def update {Value : Type} (store : FileStore) (disk : Disk)
    (change : Registry → Except StoreError (Value × Registry)) : Change FileStore Value :=
  match change store.document.pairings with
  | .error e => { result := .error e, store, disk }
  | .ok (value, pairings) => store.publish disk { store.document with pairings } value

/-- The identity in the file. One is drawn and saved if there is none yet. -/
def ensureIdentity (store : FileStore) (disk : Disk) (entropy : Entropy) :
    Change FileStore Identity × Entropy :=
  match store.document.identity with
  | some identity => ({ result := .ok identity, store, disk }, entropy)
  | none =>
    let (identity, entropy) := Identity.generate entropy
    (store.publish disk { store.document with identity := some identity } identity, entropy)

end FileStore

end HomePairing
