import HomePairing.Proofs.Store.Document
import HomePairing.Proofs.Store.Registry
import HomePairing.Proofs.Store.Saving
import HomePairing.Store

/-!
# A store in a file is never behind its file

What a store in a file answers from and what lies in the file are one document
(`FileStore.Agrees`). Opening brings them together, and every call keeps them together: it
goes through and the file follows, or it fails and neither has changed
(`FileStore.Faithful`). So whatever steps of whatever calls the disk fails, a store that is
opened again is the store that was running.
-/

namespace HomePairing

namespace FileStore

/-! ## What is found at a path -/

/-- A path leads to the same place with the same file, so the same is read there. -/
theorem find_eq {before after : Disk} {path : Path} {place : Place}
    (located : before.locate path = .ok place) (still : after.locate path = .ok place)
    (same : after.entry place = before.entry place) : after.find path = before.find path := by
  simp only [Disk.find, located, still, same]

theorem read_eq_of_find_eq {before after : Disk} {path : Path}
    (same : after.find path = before.find path) : after.read path = before.read path := by
  unfold Disk.read
  rw [same]

theorem load_eq_of_find_eq {before after : Disk} {path : Path}
    (same : after.find path = before.find path) : load after path = load before path := by
  unfold load Disk.exists? Disk.read
  rw [same]

/-- A document can be loaded from a file, or from where nothing is yet. -/
theorem place_of_load {disk : Disk} {path : Path} {document : Document}
    (loaded : load disk path = .ok document) :
    disk.locate path = .error .notFound ∨
      ∃ place, disk.locate path = .ok place ∧ disk.entry place ≠ some .directory := by
  rcases found : disk.find path with kind | ⟨place, entry⟩
  · by_cases lost : kind = .notFound
    · rw [lost] at found
      exact .inl (Disk.locate_of_find_notFound found)
    · have unclear : disk.exists? path = .error kind := by
        unfold Disk.exists?
        rw [found]
        cases kind <;> first | rfl | exact absurd rfl lost
      rw [load, unclear] at loaded
      cases loaded
  · obtain ⟨located, lies⟩ := Disk.find_eq_ok found
    refine .inr ⟨place, located, ?_⟩
    rintro directory
    rw [directory] at lies
    subst lies
    have there : disk.exists? path = .ok true := by
      simp only [Disk.exists?, found]
      rfl
    have unread : disk.read path = .error .isADirectory := by simp only [Disk.read, found]
    simp only [load, there, unread] at loaded
    cases loaded

theorem load_of_saved {disk : Disk} {path : Path} {place : Place} {document : Document}
    (located : disk.locate path = .ok place) (bare : path.ending = .bare)
    (lies : disk.entry place = some (.file document.render)) :
    load disk path = .ok document := by
  have found : disk.find path = .ok (place, some (.file document.render)) := by
    simp only [Disk.find, located, bare, lies]
  have there : disk.exists? path = .ok true := by
    simp only [Disk.exists?, found]
    rfl
  have read : disk.read path = .ok document.render := by
    simp only [Disk.read, found]
  simp only [load, there, read, Document.parse_render]

/-! ## A store and its file -/

/-- The directory of a store's file is there, and the file holds what the store holds. -/
structure Agrees (store : FileStore) (disk : Disk) : Prop where
  parent : disk.isDirectory store.path.parent = true
  loaded : load disk store.path = .ok store.document

theorem agrees_of_openAt {disk opened : Disk} {path : Path} {capacity : Nat}
    {store : FileStore} (starts : openAt disk path capacity = (.ok store, opened)) :
    store.path = path ∧ store.capacity = capacity ∧ store.Agrees opened := by
  have made := @Disk.isDirectory_of_makeDirectories disk path.parent
  unfold openAt at starts
  generalize disk.makeDirectories path.parent = parents at starts made
  obtain ⟨result, after⟩ := parents
  cases result with
  | error kind => cases starts
  | ok _ =>
      cases loaded : load after path with
      | error e =>
          simp only [loaded] at starts
          cases starts
      | ok document =>
          simp only [loaded] at starts
          cases starts
          exact ⟨rfl, rfl, made rfl, loaded⟩

/-- A store that agrees with its file is opened again from it, for any number of records. -/
theorem Agrees.openAt_eq {store : FileStore} {disk : Disk} (agrees : store.Agrees disk)
    (capacity : Nat) : openAt disk store.path capacity = (.ok { store with capacity }, disk) := by
  unfold openAt
  rw [Disk.makeDirectories_of_isDirectory agrees.parent]
  simp only [agrees.loaded]

theorem Agrees.exists_berth {store : FileStore} {disk : Disk} (agrees : store.Agrees disk) :
    ∃ room name, disk.Berth store.path room name :=
  Disk.exists_berth agrees.parent (place_of_load agrees.loaded)

/-! ## What a call leaves behind -/

/-- Why a call can fail. -/
inductive Failure (capacity : Nat) : StoreError → Prop
  | io (kind : IoKind) : Failure capacity (.io kind)
  | full : Failure capacity (.full capacity)
  | keyMismatch (id : String) : Failure capacity (.keyMismatch id)

variable {Value : Type}

/-- A call goes through and the file follows, or it fails and neither has changed. -/
structure Faithful (store : FileStore) (disk : Disk) (change : Change FileStore Value) :
    Prop where
  path : change.store.path = store.path
  capacity : change.store.capacity = store.capacity
  agrees : change.store.Agrees change.disk
  kept : ∀ e, change.result = .error e → Failure store.capacity e ∧ change.store = store ∧
    change.disk.read store.path = disk.read store.path

theorem faithful_publish {store : FileStore} {disk : Disk} (agrees : store.Agrees disk)
    (document : Document) (value : Value) :
    Faithful store disk (store.publish disk document value) := by
  obtain ⟨room, name, berth⟩ := agrees.exists_berth
  obtain ⟨saved, kept⟩ := Disk.saved_save berth document.render
  have parent := Disk.isDirectory_iff.mpr ⟨room, kept.parent, kept.directory⟩
  unfold publish
  generalize disk.save store.path document.render = save at saved kept parent ⊢
  obtain ⟨result, after⟩ := save
  cases saved with
  | @failed kind _ same =>
      have found := find_eq berth.located kept.located same
      refine ⟨rfl, rfl, ⟨parent, (load_eq_of_find_eq found).trans agrees.loaded⟩, ?_⟩
      intro e failed
      cases failed
      exact ⟨.io kind, rfl, read_eq_of_find_eq found⟩
  | done bare lies =>
      refine ⟨rfl, rfl, ⟨parent, load_of_saved kept.located bare lies⟩, ?_⟩
      intro e failed
      cases failed

theorem faithful_update {store : FileStore} {disk : Disk} (agrees : store.Agrees disk)
    {change : Registry → Except StoreError (Value × Registry)}
    (failures : ∀ e, change store.document.pairings = .error e → Failure store.capacity e) :
    Faithful store disk (store.update disk change) := by
  unfold update
  cases changed : change store.document.pairings with
  | error e =>
      refine ⟨rfl, rfl, agrees, ?_⟩
      intro cause failed
      cases failed
      exact ⟨failures e changed, rfl, rfl⟩
  | ok result => exact faithful_publish agrees _ _

theorem faithful_ensureIdentity {store : FileStore} {disk : Disk} (agrees : store.Agrees disk)
    (entropy : Entropy) : Faithful store disk (store.ensureIdentity disk entropy).1 := by
  unfold ensureIdentity
  cases store.document.identity with
  | some identity =>
      refine ⟨rfl, rfl, agrees, ?_⟩
      intro e failed
      cases failed
  | none => exact faithful_publish agrees _ _

end FileStore

/-! ## Runs -/

/-- A store with the disk it saves to, and the randomness an identity is drawn from. -/
structure Archive where
  store : Store
  disk : Disk
  entropy : Entropy

namespace Archive

/-- A call that can change a store. -/
inductive Call where
  | put (record : PairingRecord)
  | add (record : PairingRecord)
  | remove (controllerId : String)
  | removeCascading (controllerId : String)
  | clear
  /-- Only a store in a file has an identity to load. -/
  | ensureIdentity

/-- Take over what a change leaves behind. -/
def settle {Value : Type} (archive : Archive) (change : Change Store Value) :
    Except StoreError Unit × Archive :=
  (change.result.map fun _ => (),
    { archive with store := change.store, disk := change.disk })

/-- Whether a call goes through, and what it leaves behind. -/
def carryOut (archive : Archive) : Call → Except StoreError Unit × Archive
  | .put record => archive.settle (archive.store.put archive.disk record)
  | .add record => archive.settle (archive.store.add archive.disk record)
  | .remove id => archive.settle (archive.store.remove archive.disk id)
  | .removeCascading id => archive.settle (archive.store.removeCascading archive.disk id)
  | .clear => archive.settle (archive.store.clear archive.disk)
  | .ensureIdentity =>
    match archive.store with
    | .memory _ => (.ok (), archive)
    | .file store =>
      let (change, entropy) := store.ensureIdentity archive.disk archive.entropy
      (change.result.map fun _ => (), ⟨.file change.store, change.disk, entropy⟩)

def after (archive : Archive) (call : Call) : Archive :=
  (archive.carryOut call).2

def run (archive : Archive) (calls : List Call) : Archive :=
  calls.foldl after archive

/-- The store is the one in the file at a path, with room for so many records. -/
def Keeps (archive : Archive) (path : Path) (capacity : Nat) : Prop :=
  ∃ document, archive.store = .file ⟨path, capacity, document⟩ ∧
    FileStore.Agrees ⟨path, capacity, document⟩ archive.disk

/-- Opening the path again gives the same identity and the same records, whatever the room,
and leaves the disk alone. -/
def Reopens (archive : Archive) (path : Path) (capacity : Nat) : Prop :=
  ∃ document, archive.store = .file ⟨path, capacity, document⟩ ∧
    ∀ room, FileStore.openAt archive.disk path room = (.ok ⟨path, room, document⟩, archive.disk)

theorem eq_error_of_map {Failure First Second : Type} {first : Except Failure First}
    {rename : First → Second} {e : Failure} (h : first.map rename = .error e) :
    first = .error e := by
  cases first with
  | error cause => exact congrArg Except.error (Except.error.inj h)
  | ok value => cases h

/-- What a call leaves behind in an archive. -/
structure Effect (archive : Archive) (path : Path) (capacity : Nat)
    (result : Except StoreError Unit) (after : Archive) : Prop where
  keeps : after.Keeps path capacity
  kept : ∀ e, result = .error e → FileStore.Failure capacity e ∧ after.store = archive.store ∧
    after.disk.read path = archive.disk.read path

theorem effect_of_faithful {Value : Type} {store : FileStore} {archive : Archive}
    (same : archive.store = .file store) {change : Change FileStore Value}
    (faithful : store.Faithful archive.disk change) (entropy : Entropy) :
    Effect archive store.path store.capacity (change.result.map fun _ => ())
      ⟨.file change.store, change.disk, entropy⟩ := by
  obtain ⟨path, capacity, agrees, kept⟩ := faithful
  obtain ⟨result, ⟨path', capacity', document⟩, disk⟩ := change
  cases path
  cases capacity
  refine ⟨⟨document, rfl, agrees⟩, ?_⟩
  intro e failed
  cases result with
  | ok value => cases failed
  | error cause =>
      cases failed
      obtain ⟨failure, unchanged, read⟩ := kept e rfl
      exact ⟨failure, by rw [same, ← unchanged], read⟩

theorem effect_carryOut {archive : Archive} {path : Path} {capacity : Nat}
    (keeps : archive.Keeps path capacity) (call : Call) :
    Effect archive path capacity (archive.carryOut call).1 (archive.carryOut call).2 := by
  obtain ⟨document, same, agrees⟩ := keeps
  obtain ⟨store, disk, entropy⟩ := archive
  cases same
  cases call with
  | put record =>
      refine effect_of_faithful rfl (FileStore.faithful_update agrees ?_) entropy
      intro e failed
      rw [(Registry.insertBounded_eq_error (eq_error_of_map failed)).1]
      exact .full
  | add record =>
      refine effect_of_faithful rfl (FileStore.faithful_update agrees ?_) entropy
      intro e failed
      rcases Registry.insertChecked_eq_error (eq_error_of_map failed) with rfl | rfl
      · exact .keyMismatch record.controllerId
      · exact .full
  | remove id =>
      simp only [carryOut, Store.remove]
      cases Store.find? _ id with
      | none =>
          -- Nobody is taken out, and nothing is saved.
          refine ⟨⟨document, rfl, agrees⟩, ?_⟩
          intro e failed
          cases failed
      | some record =>
          refine effect_of_faithful rfl (FileStore.faithful_update agrees ?_) entropy
          intro e failed
          cases failed
  | removeCascading id =>
      refine effect_of_faithful rfl (FileStore.faithful_update agrees ?_) entropy
      intro e failed
      cases failed
  | clear =>
      refine effect_of_faithful rfl (FileStore.faithful_update agrees ?_) entropy
      intro e failed
      cases failed
  | ensureIdentity =>
      exact effect_of_faithful rfl (FileStore.faithful_ensureIdentity agrees entropy) _

/-- A store keeps to its file through any calls. -/
theorem keeps_run {path : Path} {capacity : Nat} (calls : List Call) : ∀ {archive : Archive},
    archive.Keeps path capacity → (archive.run calls).Keeps path capacity := by
  induction calls with
  | nil => exact fun keeps => keeps
  | cons call rest ih => exact fun keeps => ih (effect_carryOut keeps call).keeps

theorem Keeps.reopens {archive : Archive} {path : Path} {capacity : Nat}
    (keeps : archive.Keeps path capacity) : archive.Reopens path capacity := by
  obtain ⟨document, same, agrees⟩ := keeps
  exact ⟨document, same, agrees.openAt_eq⟩

/-- A store is opened at a path, on a disk that fails whatever steps it likes, and called any
number of times. A call that fails leaves every answer of the store and what is read at the
path as they were; and after every call, whether it has failed or not, the path opens again
with the same identity and the same records. -/
theorem durable {disk opened : Disk} {path : Path} {capacity : Nat} {store : FileStore}
    (starts : FileStore.openAt disk path capacity = (.ok store, opened)) (entropy : Entropy)
    (calls : List Call) (call : Call) :
    let before := run ⟨.file store, opened, entropy⟩ calls
    let after := before.after call
    (∀ e, (before.carryOut call).1 = .error e →
        FileStore.Failure capacity e ∧ after.store = before.store ∧
          after.disk.read path = before.disk.read path) ∧
      before.Reopens path capacity ∧ after.Reopens path capacity := by
  intro before after
  obtain ⟨rfl, rfl, agrees⟩ := FileStore.agrees_of_openAt starts
  have keeps : before.Keeps store.path store.capacity :=
    keeps_run calls ⟨store.document, rfl, agrees⟩
  have effect := effect_carryOut keeps call
  exact ⟨effect.kept, keeps.reopens, effect.keeps.reopens⟩

/-- A disk that is there for an identity, but fails to flush the first record, of which only a
part was written. Tried again the record is filed. -/
theorem durable_flushFails :
    let disk := { Disk.empty with faults := [none, none, none, none, some ⟨.permissionDenied, 4⟩] }
    let path : Path := ⟨["var", "home", "lamp.json"]⟩
    let store : FileStore := ⟨path, 1, .empty⟩
    let before := run ⟨.file store, disk, ⟨fun _ => 0, 0⟩⟩ [.ensureIdentity]
    let call := Call.put ⟨"AA:00", "CC:01", Block.zero, .admin⟩
    let after := before.after call
    FileStore.openAt disk path 1 = (.ok store, disk) ∧
      (before.carryOut call).1 = .error (.io .permissionDenied) ∧
      after.store = before.store ∧ after.disk.read path = before.disk.read path ∧
      after.Reopens path 1 ∧
      (after.carryOut call).1 = .ok () ∧ (after.after call).Reopens path 1 := by
  intro disk path store before call after
  have starts : FileStore.openAt disk path 1 = (.ok store, disk) := by
    have parent : disk.isDirectory path.parent = true := by decide +kernel
    have loaded : FileStore.load disk path = .ok store.document := by decide +kernel
    exact (FileStore.Agrees.mk parent loaded : store.Agrees disk).openAt_eq 1
  have fails : (before.carryOut call).1 = .error (.io .permissionDenied) := by decide +kernel
  have goesThrough : (after.carryOut call).1 = .ok () := by decide +kernel
  obtain ⟨kept, _, reopens⟩ := durable starts ⟨fun _ => 0, 0⟩ [.ensureIdentity] call
  obtain ⟨_, unchanged, read⟩ := kept _ fails
  obtain ⟨_, _, reopens'⟩ := durable starts ⟨fun _ => 0, 0⟩ [.ensureIdentity, call] call
  exact ⟨starts, fails, unchanged, read, reopens, goesThrough, reopens'⟩

end Archive

end HomePairing
