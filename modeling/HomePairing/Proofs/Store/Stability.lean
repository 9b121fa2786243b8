import HomePairing.Accessory.Opening
import HomePairing.Controller
import HomePairing.Proofs.Store.Interchange
import Mathlib.Logic.Relation

/-!
# An accessory is the same after every start

The identity of an accessory and its pairings lie in one file, and every change of the
pairings writes that file anew. So each of them has to carry the identity along, whether it
goes through or fails.

A `Vault` is a path with the store that is open there, if one is, and `Vault.Step` is whatever
can happen to it: the path is opened and closed, the store is called, it is asked for the
identity, and the machine goes on with other things. `Vault.Kept` is what holds in between:
the file and the open store have one document. A step keeps the identity in that document once
it is there (`Vault.kept_step`). So after the first answer to the question who the accessory is,
there is no other (`Vault.identity_stable`), and a controller that trusts the accessory finds it
again after any number of starts.
-/

namespace HomePairing

/-- The controller trusts whoever has this identity. -/
def Controller.Trusts (suite : Suite) (controller : Controller) (identity : Identity) : Prop :=
  controller.trusted = some ⟨identity.pairingId, identity.publicKey suite⟩

/-- An accessory has the identity that it is made with. -/
theorem Accessory.identity_of_create {slot : Nat} {config : Config} {identity : Identity}
    {store : Store} {accessory : Accessory}
    (made : (create slot config identity store).mapError ServiceError.config = .ok accessory) :
    accessory.identity = identity := by
  unfold create at made
  cases valid : config.validate with
  | error e =>
      rw [valid] at made
      cases made
  | ok _ =>
      rw [valid] at made
      cases made
      rfl

/-! ## The identity in a store -/

namespace Store

/-- The identity that a store holds. One in memory has none. -/
def identity? : Store → Option Identity
  | memory _ => none
  | file store => store.document.identity

theorem identity?_withRegistry (store : Store) (registry : Registry) :
    (store.withRegistry registry).identity? = store.identity? := by
  cases store <;> rfl

/-- A change of the records is none of the identity, whether it goes through or not. -/
theorem identity?_update {Value : Type} (store : Store) (disk : Disk)
    (change : Registry → Except StoreError (Value × Registry)) :
    (store.update disk change).store.identity? = store.identity? := by
  have outcome := outcome_update store disk change
  generalize (store.update disk change).result = result at outcome
  generalize (store.update disk change).store = after at outcome ⊢
  cases outcome with
  | changed _ => exact store.identity?_withRegistry _
  | kept => rfl

/-- No call loses the identity, or changes it. -/
theorem identity?_carryOut (store : Store) (disk : Disk) (call : Call) :
    (store.carryOut disk call).store.identity? = store.identity? := by
  cases call with
  | find _ | list | isPaired => rfl
  | put record =>
      exact store.identity?_update disk fun registry =>
        (registry.insertBounded store.capacity record).map fun registry => ((), registry)
  | add record =>
      exact store.identity?_update disk fun registry =>
        (registry.insertChecked store.capacity record).map fun registry => ((), registry)
  | remove id =>
      simp only [carryOut, remove]
      cases store.find? id with
      | none => rfl
      | some record =>
          exact store.identity?_update disk fun registry =>
            .ok (some record, registry.erase id)
  | removeCascading id =>
      exact store.identity?_update disk fun registry => .ok (registry.eraseCascading id)
  | clear => exact store.identity?_update disk fun _ => .ok ((), .empty)

end Store

namespace FileStore

theorem ensureIdentity_of_some {store : FileStore} {identity : Identity}
    (known : store.document.identity = some identity) (disk : Disk) (entropy : Entropy) :
    store.ensureIdentity disk entropy = (⟨.ok identity, store, disk⟩, entropy) := by
  rw [ensureIdentity, known]

/-- The identity that is answered is the one in the store from then on. -/
theorem identity_of_ensureIdentity {store : FileStore} {disk : Disk} {entropy : Entropy}
    {identity : Identity}
    (answered : (store.ensureIdentity disk entropy).1.result = .ok identity) :
    (store.ensureIdentity disk entropy).1.store.document.identity = some identity := by
  cases known : store.document.identity with
  | some there =>
      rw [ensureIdentity_of_some known] at answered ⊢
      cases answered
      exact known
  | none =>
      simp only [ensureIdentity, known, publish] at answered ⊢
      generalize disk.save store.path _ = save at answered ⊢
      obtain ⟨result, after⟩ := save
      cases result with
      | ok _ =>
          cases answered
          rfl
      | error kind => cases answered

end FileStore

/-! ## What can happen -/

/-- The store that is open at a path, if one is, and the machine it is open on. -/
structure Vault where
  store : Option Store
  disk : Disk
  entropy : Entropy

namespace Vault

/-- The path is opened, with room for so many records. If that fails, nothing is open. -/
def opened (vault : Vault) (path : Path) (capacity : Nat) : Vault :=
  match FileStore.openAt vault.disk path capacity with
  | (.ok store, disk) => { vault with store := some (.file store), disk }
  | (.error _, disk) => { vault with store := none, disk }

def closed (vault : Vault) : Vault :=
  { vault with store := none }

/-- The open store is called. -/
def called (vault : Vault) (call : Store.Call) : Vault :=
  match vault.store with
  | some store =>
    let change := store.carryOut vault.disk call
    { vault with store := some change.store, disk := change.disk }
  | none => vault

/-- The open store is asked for the identity. -/
def identified (vault : Vault) : Vault :=
  match vault.store with
  | some (.file store) =>
    let (change, entropy) := store.ensureIdentity vault.disk vault.entropy
    { store := some (.file change.store), disk := change.disk, entropy }
  | _ => vault

/-- Something happens. Whatever else the machine is used for, and whatever steps the disk is
going to fail, what lies at the path is the business of the store that is open there. -/
inductive Step (path : Path) : Vault → Vault → Prop
  | opens {vault} (capacity : Nat) : Step path vault (vault.opened path capacity)
  | closes {vault} : Step path vault vault.closed
  | calls {vault} (call : Store.Call) : Step path vault (vault.called call)
  | identifies {vault} : Step path vault vault.identified
  | elsewhere {vault disk} (entropy : Entropy) :
      disk.find path = vault.disk.find path →
      disk.isDirectory path.parent = vault.disk.isDirectory path.parent →
      Step path vault { vault with disk, entropy }

/-- One after another. -/
def Reaches (path : Path) : Vault → Vault → Prop :=
  Relation.ReflTransGen (Step path)

/-! ## What goes on holding -/

variable {path : Path} {vault after : Vault} {document : Document} {identity : Identity}

/-- The file at the path holds a document, and so does the store that is open there. -/
structure Kept (path : Path) (document : Document) (vault : Vault) : Prop where
  parent : vault.disk.isDirectory path.parent = true
  loaded : FileStore.load vault.disk path = .ok document
  same : ∀ store, vault.store = some store →
    ∃ capacity, store = .file ⟨path, capacity, document⟩

theorem Kept.agrees (kept : vault.Kept path document) (capacity : Nat) :
    FileStore.Agrees ⟨path, capacity, document⟩ vault.disk :=
  ⟨kept.parent, kept.loaded⟩

theorem kept_of_agrees {store : FileStore} {disk : Disk} (agrees : store.Agrees disk)
    (entropy : Entropy) :
    Kept store.path store.document ⟨some (.file store), disk, entropy⟩ where
  parent := agrees.parent
  loaded := agrees.loaded
  same := by
    intro other isOpen
    cases isOpen
    exact ⟨store.capacity, rfl⟩

theorem identified_of_open {store : FileStore} (isOpen : vault.store = some (.file store)) :
    vault.identified =
      ⟨some (.file (store.ensureIdentity vault.disk vault.entropy).1.store),
        (store.ensureIdentity vault.disk vault.entropy).1.disk,
        (store.ensureIdentity vault.disk vault.entropy).2⟩ := by
  simp only [identified, isOpen]

/-- The path opens, and nothing is written for it. -/
theorem Kept.opened_eq (kept : vault.Kept path document) (capacity : Nat) :
    vault.opened path capacity =
      { vault with store := some (.file ⟨path, capacity, document⟩) } := by
  have opens : FileStore.openAt vault.disk path capacity = _ := (kept.agrees 0).openAt_eq capacity
  rw [opened, opens]

theorem Kept.called (kept : vault.Kept path document) (call : Store.Call) :
    ∃ next, (vault.called call).Kept path next ∧ next.identity = document.identity := by
  unfold Vault.called
  cases isOpen : vault.store with
  | none => exact ⟨document, kept, rfl⟩
  | some store =>
      obtain ⟨capacity, rfl⟩ := kept.same store isOpen
      obtain ⟨next, stored, agrees⟩ :=
        Store.exists_agrees_carryOut (kept.agrees capacity) call
      have unchanged := Store.identity?_carryOut (.file ⟨path, capacity, document⟩)
        vault.disk call
      rw [stored] at unchanged
      refine ⟨next, ?_, unchanged⟩
      simp only [stored]
      exact kept_of_agrees agrees vault.entropy

theorem Kept.identified (kept : vault.Kept path document) :
    ∃ next, vault.identified.Kept path next ∧
      ∀ identity, document.identity = some identity → next.identity = some identity := by
  cases isOpen : vault.store with
  | none =>
      simp only [Vault.identified, isOpen]
      exact ⟨document, kept, fun _ known => known⟩
  | some store =>
      obtain ⟨capacity, rfl⟩ := kept.same store isOpen
      have agrees := kept.agrees capacity
      rw [identified_of_open isOpen]
      cases known : document.identity with
      | some identity =>
          have answered := @FileStore.ensureIdentity_of_some ⟨path, capacity, document⟩ identity
            known vault.disk vault.entropy
          rw [answered]
          exact ⟨document, kept_of_agrees agrees vault.entropy, fun _ same => known.trans same⟩
      | none =>
          have faithful := FileStore.faithful_ensureIdentity agrees vault.entropy
          have still := kept_of_agrees faithful.agrees
            (FileStore.ensureIdentity ⟨path, capacity, document⟩ vault.disk vault.entropy).2
          rw [faithful.path] at still
          exact ⟨_, still, nofun⟩

/-- Whatever happens, the file and the open store go on with one document, and an identity that
is in it stays in it. -/
theorem kept_step (kept : vault.Kept path document) (step : Step path vault after) :
    ∃ next, after.Kept path next ∧
      ∀ identity, document.identity = some identity → next.identity = some identity := by
  cases step with
  | opens capacity =>
      rw [kept.opened_eq capacity]
      exact ⟨document, kept_of_agrees (kept.agrees capacity) vault.entropy, fun _ known => known⟩
  | closes => exact ⟨document, ⟨kept.parent, kept.loaded, nofun⟩, fun _ known => known⟩
  | calls call =>
      obtain ⟨next, still, unchanged⟩ := kept.called call
      exact ⟨next, still, fun _ known => unchanged.trans known⟩
  | identifies => exact kept.identified
  | elsewhere entropy found there =>
      refine ⟨document, ⟨there.trans kept.parent, ?_, kept.same⟩, fun _ known => known⟩
      exact (FileStore.load_eq_of_find_eq found).trans kept.loaded

/-- An identity in the document is there for good. -/
theorem kept_reaches (kept : vault.Kept path document)
    (known : document.identity = some identity) (runs : Reaches path vault after) :
    ∃ next, after.Kept path next ∧ next.identity = some identity := by
  induction runs with
  | refl => exact ⟨document, kept, known⟩
  | tail _ step ih =>
      obtain ⟨next, kept, known⟩ := ih
      obtain ⟨last, kept, stays⟩ := kept_step kept step
      exact ⟨last, kept, stays identity known⟩

/-- As long as nothing is open, nothing is known about the file; once something is, the two go
together. -/
theorem closed_or_kept_step (sound : vault.store = none ∨ ∃ document, vault.Kept path document)
    (step : Step path vault after) :
    after.store = none ∨ ∃ document, after.Kept path document := by
  rcases sound with isClosed | ⟨document, kept⟩
  · cases step with
    | opens capacity =>
        unfold opened
        split
        · next store disk starts =>
            obtain ⟨rfl, _, agrees⟩ := FileStore.agrees_of_openAt starts
            exact .inr ⟨store.document, kept_of_agrees agrees vault.entropy⟩
        · exact .inl rfl
    | closes => exact .inl rfl
    | calls call =>
        simp only [called, isClosed]
        exact .inl trivial
    | identifies =>
        simp only [identified, isClosed]
        exact .inl trivial
    | elsewhere _ _ _ => exact .inl isClosed
  · obtain ⟨next, kept, _⟩ := kept_step kept step
    exact .inr ⟨next, kept⟩

theorem closed_or_kept_reaches (start : vault.store = none) (runs : Reaches path vault after) :
    after.store = none ∨ ∃ document, after.Kept path document := by
  induction runs with
  | refl => exact .inl start
  | tail _ step ih => exact closed_or_kept_step ih step

/-! ## Who the accessory is -/

/-- Whoever asks at the path is told of this identity. -/
structure Presents (path : Path) (identity : Identity) (vault : Vault) : Prop where
  /-- The open store answers with it, and neither draws anything nor writes anything. -/
  answered : ∀ store, vault.store = some (.file store) →
    store.ensureIdentity vault.disk vault.entropy =
      (⟨.ok identity, store, vault.disk⟩, vault.entropy)
  /-- So does the store that is opened again, with whatever room. -/
  reopened : ∀ capacity, ∃ store,
    FileStore.openAt vault.disk path capacity = (.ok store, vault.disk) ∧
      store.ensureIdentity vault.disk vault.entropy =
        (⟨.ok identity, store, vault.disk⟩, vault.entropy)
  /-- An accessory that is made of what is there has it, however it is configured. -/
  started : ∀ slot config log, ∃ store,
    Accessory.openAt slot config path ⟨vault.entropy, vault.disk, log⟩ =
      ((Accessory.create slot config identity (.file store)).mapError .config,
        ⟨vault.entropy, vault.disk, log⟩)
  /-- And a controller that trusts this identity trusts that accessory. -/
  recognised : ∀ suite (controller : Controller) slot config log accessory,
    controller.Trusts suite identity →
    (Accessory.openAt slot config path ⟨vault.entropy, vault.disk, log⟩).1 = .ok accessory →
    controller.Trusts suite accessory.identity

theorem Kept.openAt_eq (kept : vault.Kept path document)
    (known : document.identity = some identity) (slot : Nat) (config : Config) (log : Log) :
    Accessory.openAt slot config path ⟨vault.entropy, vault.disk, log⟩ =
      ((Accessory.create slot config identity
          (.file ⟨path, config.maxPairings, document⟩)).mapError .config,
        ⟨vault.entropy, vault.disk, log⟩) := by
  have opens : FileStore.openAt vault.disk path config.maxPairings = _ :=
    (kept.agrees 0).openAt_eq config.maxPairings
  have answered := @FileStore.ensureIdentity_of_some ⟨path, config.maxPairings, document⟩
    identity known vault.disk vault.entropy
  simp only [Accessory.openAt, opens, answered]

theorem Kept.presents (kept : vault.Kept path document)
    (known : document.identity = some identity) : vault.Presents path identity where
  answered := by
    intro store isOpen
    obtain ⟨capacity, same⟩ := kept.same _ isOpen
    cases same
    exact FileStore.ensureIdentity_of_some known vault.disk vault.entropy
  reopened := by
    intro capacity
    exact ⟨_, (kept.agrees 0).openAt_eq capacity,
      FileStore.ensureIdentity_of_some known vault.disk vault.entropy⟩
  started := by
    intro slot config log
    exact ⟨_, kept.openAt_eq known slot config log⟩
  recognised := by
    intro suite controller slot config log accessory trusts made
    rw [kept.openAt_eq known] at made
    rw [Accessory.identity_of_create made]
    exact trusts

/-- A path is opened, called, asked for the identity, closed and opened again, any number of
times and in any order, on a disk that fails whatever steps it likes, and whatever was there at
first. No call changes the identity in the store or in the file, whether it goes through or
fails. And once the store has answered who the accessory is, it goes on answering the same, and
so does every store that is opened at the path later: nothing is drawn or written for it, and
the accessory that is made of it is the one that controllers have come to trust. -/
theorem identity_stable {path : Path} {start vault : Vault} (beginning : start.store = none)
    (runs : Reaches path start vault) {store : FileStore}
    (isOpen : vault.store = some (.file store)) :
    (∀ call, ∃ next, (vault.called call).store = some (.file next) ∧
        next.document.identity = store.document.identity ∧
        FileStore.load (vault.called call).disk path = .ok next.document) ∧
      ∀ identity,
        (store.ensureIdentity vault.disk vault.entropy).1.result = .ok identity →
        ∀ later, Reaches path vault.identified later → later.Presents path identity := by
  obtain ⟨document, kept⟩ : ∃ document, vault.Kept path document := by
    rcases closed_or_kept_reaches beginning runs with isClosed | kept
    · rw [isOpen] at isClosed
      cases isClosed
    · exact kept
  obtain ⟨capacity, same⟩ := kept.same _ isOpen
  cases same
  refine ⟨fun call => ?_, fun identity answered later runs => ?_⟩
  · obtain ⟨next, still, unchanged⟩ := kept.called call
    obtain ⟨room, stored⟩ : ∃ room, (vault.called call).store =
        some (.file ⟨path, room, next⟩) := by
      cases stays : (vault.called call).store with
      | none =>
          simp only [called, isOpen] at stays
          cases stays
      | some other =>
          obtain ⟨room, rfl⟩ := still.same other stays
          exact ⟨room, rfl⟩
    exact ⟨_, stored, unchanged, still.loaded⟩
  · have known := FileStore.identity_of_ensureIdentity answered
    have faithful :=
      FileStore.faithful_ensureIdentity (kept.agrees capacity) vault.entropy
    have filed := kept_of_agrees faithful.agrees
      (FileStore.ensureIdentity ⟨path, capacity, document⟩ vault.disk vault.entropy).2
    rw [faithful.path, ← identified_of_open isOpen] at filed
    obtain ⟨last, kept, known⟩ := kept_reaches filed known runs
    exact kept.presents known

/-- The identity is drawn and saved, the disk fails to flush the first record, and the process
ends. The next one has other random bytes and more room, and is the same accessory. -/
theorem identity_stable_restarted :
    let path : Path := ⟨["var", "home", "lamp.json"]⟩
    let disk := { Disk.empty with faults := [none, none, none, none, some ⟨.permissionDenied, 4⟩] }
    let start : Vault := ⟨none, disk, ⟨fun _ => 1, 0⟩⟩
    let vault := start.opened path 4
    let record : PairingRecord := ⟨"AA:00", "CC:01", Block.zero, .admin⟩
    let crashed := ((vault.identified.called (.put record)).closed)
    let restarted := { crashed with entropy := ⟨fun _ => 2, 0⟩ }
    let identity := (Identity.generate ⟨fun _ => 1, 0⟩).1
    start.store = none ∧ Reaches path start vault ∧
      vault.store = some (.file ⟨path, 4, .empty⟩) ∧
      (FileStore.ensureIdentity ⟨path, 4, .empty⟩ vault.disk vault.entropy).1.result =
        .ok identity ∧
      (restarted.opened path 7).Presents path identity := by
  intro path disk start vault record crashed restarted identity
  have starts : FileStore.openAt disk path 4 = (.ok ⟨path, 4, .empty⟩, disk) := by
    have parent : disk.isDirectory path.parent = true := by decide +kernel
    have loaded : FileStore.load disk path = .ok .empty := by decide +kernel
    exact (FileStore.Agrees.mk parent loaded : FileStore.Agrees ⟨path, 4, .empty⟩ disk).openAt_eq 4
  have reached : Reaches path start vault := .tail .refl (.opens 4)
  have opened : vault = ⟨some (.file ⟨path, 4, .empty⟩), disk, ⟨fun _ => 1, 0⟩⟩ := by
    simp only [vault, Vault.opened, start, starts]
  have isOpen : vault.store = some (.file ⟨path, 4, .empty⟩) := by rw [opened]
  have answered : (FileStore.ensureIdentity ⟨path, 4, .empty⟩ vault.disk
      vault.entropy).1.result = .ok identity := by
    rw [opened]
    decide +kernel
  have onward : Reaches path vault.identified (restarted.opened path 7) :=
    .tail (.tail (.tail (.tail .refl (.calls (.put record))) .closes) (.elsewhere _ rfl rfl))
      (.opens 7)
  exact ⟨rfl, reached, isOpen, answered,
    (identity_stable rfl reached isOpen).2 identity answered _ onward⟩

end Vault

end HomePairing
