import HomePairing.Proofs.Store.Durability
import HomePairing.Proofs.Store.Update

/-!
# Two stores with one behaviour

A store in memory changes its records in place. A store in a file changes a copy of its
document, saves that and only then takes it over; and it can be closed and opened again. What
both answer is said once, about a registry and a capacity, without disks and files
(`Registry.respond`). A store in memory answers like that (`Store.answers_memory`), and so does
a store in a file as long as the disk does not fail it (`Store.answers_file`), which a disk on
which saves go through never does (`Store.unfailed_answers`). So nobody who asks can tell the
two apart.
-/

namespace HomePairing

namespace Store

/-! ## Calls -/

/-- Something that is asked of a store. -/
inductive Call where
  | find (controllerId : String)
  | put (record : PairingRecord)
  | add (record : PairingRecord)
  | remove (controllerId : String)
  | removeCascading (controllerId : String)
  | clear
  | list
  | isPaired

/-- What a store answers. -/
inductive Reply where
  | done
  | found (record : Option PairingRecord)
  | removed (controllerIds : List String)
  | listed (records : List PairingRecord)
  | paired (isPaired : Bool)
deriving DecidableEq

end Store

/-- The same change, with its outcome in other words. -/
def Change.map {State First Second : Type} (change : Change State First)
    (wording : First → Second) : Change State Second :=
  { result := change.result.map wording, store := change.store, disk := change.disk }

namespace Store

/-- What is answered to a call, and what it leaves behind. -/
def carryOut (store : Store) (disk : Disk) : Call → Change Store Reply
  | .find id => { result := .ok (.found (store.find? id)), store, disk }
  | .put record => (store.put disk record).map fun () => .done
  | .add record => (store.add disk record).map fun () => .done
  | .remove id => (store.remove disk id).map .found
  | .removeCascading id => (store.removeCascading disk id).map .removed
  | .clear => (store.clear disk).map fun () => .done
  | .list => { result := .ok (.listed store.list), store, disk }
  | .isPaired => { result := .ok (.paired store.isPaired), store, disk }

/-- Close a store and open it again with the same capacity. A store in memory would be gone, so
it stays open. -/
def reopen (store : Store) (disk : Disk) : Change Store Unit :=
  match store with
  | memory m => { result := .ok (), store := memory m, disk }
  | file f =>
    match FileStore.openAt disk f.path f.capacity with
    | (.ok opened, disk) => { result := .ok (), store := file opened, disk }
    | (.error e, disk) => { result := .error e, store := file f, disk }

/-- Something that happens to a store. -/
inductive Step where
  | call (call : Call)
  | reopen

/-- The call that a step is, if it is one. -/
def Step.call? : Step → Option Call
  | .call asked => some asked
  | .reopen => none

/-- Everything that is answered along the way. Opening again is answered only if it fails. -/
def answers (store : Store) (disk : Disk) : List Step → List (Except StoreError Reply)
  | [] => []
  | .call call :: steps =>
    let c := store.carryOut disk call
    c.result :: answers c.store c.disk steps
  | .reopen :: steps =>
    let c := store.reopen disk
    match c.result with
    | .ok () => answers c.store c.disk steps
    | .error e => .error e :: answers c.store c.disk steps

end Store

/-! ## What both do -/

namespace Registry

open Store (Call Reply)

/-- What is answered over these records, and what the records are then. -/
def respond (registry : Registry) (capacity : Nat) :
    Call → Except StoreError (Reply × Registry)
  | .find id => .ok (.found (registry.find? id), registry)
  | .put record => (registry.insertBounded capacity record).map fun next => (.done, next)
  | .add record => (registry.insertChecked capacity record).map fun next => (.done, next)
  | .remove id => .ok (.found (registry.find? id), registry.erase id)
  | .removeCascading id =>
    .ok (.removed (registry.eraseCascading id).1, (registry.eraseCascading id).2)
  | .clear => .ok (.done, .empty)
  | .list => .ok (.listed registry.records, registry)
  | .isPaired => .ok (.paired !registry.isEmpty, registry)

/-- The records after a change, which are the old ones if it has failed. -/
def settle {Value : Type} (registry : Registry) :
    Except StoreError (Value × Registry) → Registry
  | .ok (_, next) => next
  | .error _ => registry

/-- Everything that is answered, call by call. -/
def answers (registry : Registry) (capacity : Nat) : List Call → List (Except StoreError Reply)
  | [] => []
  | call :: calls =>
    let outcome := registry.respond capacity call
    outcome.map Prod.fst :: answers (registry.settle outcome) capacity calls

/-- There are two reasons to refuse a call: no room, or another key. -/
theorem error_of_respond {registry : Registry} {capacity : Nat} {call : Call} {e : StoreError}
    (refused : registry.respond capacity call = .error e) :
    e = .full capacity ∨ ∃ record, call = .add record ∧ e = .keyMismatch record.controllerId := by
  cases call with
  | put record =>
      exact .inl (insertBounded_eq_error (Archive.eq_error_of_map refused)).1
  | add record =>
      rcases insertChecked_eq_error (Archive.eq_error_of_map refused) with conflict | full
      · exact .inr ⟨record, rfl, conflict⟩
      · exact .inl full
  | find _ | remove _ | removeCascading _ | clear | list | isPaired => cases refused

theorem error_of_mem_answers {registry : Registry} {capacity : Nat} {calls : List Call}
    {e : StoreError} (answered : .error e ∈ registry.answers capacity calls) :
    e = .full capacity ∨
      ∃ record, .add record ∈ calls ∧ e = .keyMismatch record.controllerId := by
  induction calls generalizing registry with
  | nil => cases answered
  | cons call calls ih =>
      rcases List.mem_cons.mp answered with first | later
      · rcases error_of_respond (Archive.eq_error_of_map first.symm) with full | ⟨record, rfl, same⟩
        · exact .inl full
        · exact .inr ⟨record, List.mem_cons_self, same⟩
      · rcases ih later with full | ⟨record, asked, same⟩
        · exact .inl full
        · exact .inr ⟨record, List.mem_cons_of_mem call asked, same⟩

/-- Nothing goes with a controller that is not there. -/
theorem erase_of_absent {registry : Registry} {id : String}
    (absent : registry.find? id = none) : registry.erase id = registry := by
  have apart : ∀ entry ∈ registry.entries, (entry.1 != id) = true := by
    intro entry listed
    apply bne_iff_ne.mpr
    intro same
    have found : registry.find? id = some entry.2 :=
      find?_eq_some_iff.mpr (same ▸ listed)
    rw [absent] at found
    cases found
  obtain ⟨entries, ascending⟩ := registry
  simp only [erase, List.filter_eq_self.mpr apart]

end Registry

/-! ## Stores in memory -/

namespace Store

theorem carryOut_memory (m : MemoryStore) (disk : Disk) (call : Call) :
    (memory m).carryOut disk call =
      { result := (m.records.respond m.capacity call).map Prod.fst
        store := memory { m with records := m.records.settle (m.records.respond m.capacity call) }
        disk := disk } := by
  cases call with
  | find _ | removeCascading _ | clear | list | isPaired => rfl
  | put record =>
      simp only [carryOut, put, update, Change.map, Registry.respond, capacity]
      cases m.records.insertBounded m.capacity record <;> rfl
  | add record =>
      simp only [carryOut, add, update, Change.map, Registry.respond, capacity]
      cases m.records.insertChecked m.capacity record <;> rfl
  | remove id =>
      simp only [carryOut, remove, find?, registry]
      cases found : m.records.find? id with
      | none => simp only [Registry.respond, Registry.erase_of_absent found, found]; rfl
      | some record => simp only [Registry.respond, found]; rfl

/-- A store in memory answers as its records do. -/
theorem answers_memory (calls : List Call) (m : MemoryStore) (disk : Disk) :
    (memory m).answers disk (calls.map .call) = m.records.answers m.capacity calls := by
  induction calls generalizing m with
  | nil => rfl
  | cons call calls ih =>
      rw [List.map_cons, answers, Registry.answers, carryOut_memory]
      exact congrArg _ (ih _)

/-! ## Stores in a file -/

/-- A store has been failed by the disk, or has done what its records do. -/
inductive Refines (store : Store) (outcome : Except StoreError (Reply × Registry)) :
    Change Store Reply → Prop
  | failed {kind after disk} : Refines store outcome ⟨.error (.io kind), after, disk⟩
  | done {after disk} : after.registry = store.registry.settle outcome →
      Refines store outcome ⟨outcome.map Prod.fst, after, disk⟩

theorem refines_update {Value : Type} (store : Store) (disk : Disk)
    (change : Registry → Except StoreError (Value × Registry)) (wording : Value → Reply) :
    store.Refines ((change store.registry).map fun (value, next) => (wording value, next))
      ((store.update disk change).map wording) := by
  have outcome := outcome_update store disk change
  have failure := @eq_error_of_update _ store disk change
  generalize store.update disk change = c at outcome failure ⊢
  obtain ⟨result, after, disk'⟩ := c
  cases outcome with
  | changed changed =>
      rw [changed]
      exact .done (registry_withRegistry _ _)
  | kept =>
      rcases failure rfl with refused | ⟨kind, rfl⟩
      · rw [refused]
        exact .done rfl
      · exact .failed

theorem refines_insert (store : Store) (disk : Disk)
    (insert : Registry → Except StoreError Registry) :
    store.Refines ((insert store.registry).map fun next => (.done, next))
      ((store.update disk fun registry => (insert registry).map fun next => ((), next)).map
        fun () => .done) := by
  have refines := store.refines_update disk
    (fun registry => (insert registry).map fun next => ((), next)) fun () => Reply.done
  have same : (((insert store.registry).map fun next => ((), next)).map
      fun ((), next) => (Reply.done, next)) =
        (insert store.registry).map fun next => (Reply.done, next) := by
    cases insert store.registry <;> rfl
  exact same ▸ refines

/-- Every call is carried out on the records, or is failed by the disk. -/
theorem refines_carryOut (store : Store) (disk : Disk) (call : Call) :
    store.Refines (store.registry.respond store.capacity call) (store.carryOut disk call) := by
  cases call with
  | find _ | list | isPaired => exact .done rfl
  | put record =>
      exact store.refines_insert disk (·.insertBounded store.capacity record)
  | add record =>
      exact store.refines_insert disk (·.insertChecked store.capacity record)
  | remove id =>
      simp only [carryOut, remove, find?]
      cases found : store.registry.find? id with
      | none =>
          -- Nobody is taken out, and nothing is saved.
          simp only [Registry.respond, found, Registry.erase_of_absent found]
          exact .done rfl
      | some record =>
          simp only [Registry.respond, found]
          exact store.refines_update disk
            (fun registry => .ok (some record, registry.erase id)) .found
  | removeCascading id =>
      exact store.refines_update disk (fun registry => .ok (registry.eraseCascading id)) .removed
  | clear =>
      exact store.refines_update disk (fun _ => .ok ((), .empty)) fun () => .done

/-- A store keeps to its file through every call, whatever the disk does. -/
theorem exists_agrees_carryOut {path : Path} {capacity : Nat} {document : Document}
    {disk : Disk} (agrees : FileStore.Agrees ⟨path, capacity, document⟩ disk) (call : Call) :
    ∃ next, ((file ⟨path, capacity, document⟩).carryOut disk call).store =
        file ⟨path, capacity, next⟩ ∧
      FileStore.Agrees ⟨path, capacity, next⟩
        ((file ⟨path, capacity, document⟩).carryOut disk call).disk := by
  have keeps : Archive.Keeps ⟨file ⟨path, capacity, document⟩, disk, ⟨fun _ => 0, 0⟩⟩ path
      capacity := ⟨document, rfl, agrees⟩
  cases call with
  | find _ | list | isPaired => exact ⟨document, rfl, agrees⟩
  | put record => exact (Archive.effect_carryOut keeps (.put record)).keeps
  | add record => exact (Archive.effect_carryOut keeps (.add record)).keeps
  | remove id => exact (Archive.effect_carryOut keeps (.remove id)).keeps
  | removeCascading id => exact (Archive.effect_carryOut keeps (.removeCascading id)).keeps
  | clear => exact (Archive.effect_carryOut keeps .clear).keeps

/-- A store in a file answers as its records do, however often it is opened again, until the
disk fails it. -/
theorem answers_file {path : Path} {capacity : Nat} (steps : List Step) {document : Document}
    {disk : Disk} (agrees : FileStore.Agrees ⟨path, capacity, document⟩ disk)
    (works : ∀ kind, .error (.io kind) ∉ (file ⟨path, capacity, document⟩).answers disk steps) :
    (file ⟨path, capacity, document⟩).answers disk steps =
      document.pairings.answers capacity (steps.filterMap Step.call?) := by
  induction steps generalizing document disk with
  | nil => rfl
  | cons step steps ih =>
      cases step with
      | call call =>
          have refines := (file ⟨path, capacity, document⟩).refines_carryOut disk call
          obtain ⟨next, kept, still⟩ := exists_agrees_carryOut agrees call
          simp only [answers, List.filterMap_cons, Step.call?, Registry.answers] at works ⊢
          generalize (file ⟨path, capacity, document⟩).carryOut disk call = c at *
          cases refines with
          | failed => exact absurd List.mem_cons_self (works _)
          | @done after changed records =>
              simp only at kept still
              subst kept
              have onward : ∀ kind, .error (.io kind) ∉
                  (file ⟨path, capacity, next⟩).answers changed steps := by
                intro kind listed
                exact works kind (List.mem_cons_of_mem _ listed)
              have rest := ih still onward
              rw [show next.pairings = _ from records] at rest
              exact congrArg _ rest
      | reopen =>
          have opened := agrees.openAt_eq capacity
          simp only [answers, reopen, opened] at works ⊢
          exact ih agrees works

end Store

/-! ## Disks that fail no call -/

/-- The disk has not failed a change, and will not fail the next one. -/
structure Change.Served {State Value : Type} (change : Change State Value) (path : Path) :
    Prop where
  unfailed : ∀ kind, change.result ≠ .error (.io kind)
  sound : change.disk.Sound path

theorem Change.Served.map {State First Second : Type} {change : Change State First} {path : Path}
    (served : change.Served path) (wording : First → Second) :
    (change.map wording).Served path where
  unfailed kind failed := served.unfailed kind (Archive.eq_error_of_map failed)
  sound := served.sound

theorem FileStore.served_update {Value : Type} {store : FileStore} {disk : Disk}
    (agrees : store.Agrees disk) (sound : disk.Sound store.path)
    {change : Registry → Except StoreError (Value × Registry)}
    (unfailed : ∀ kind, change store.document.pairings ≠ .error (.io kind)) :
    (store.update disk change).Served store.path := by
  unfold update
  cases changed : change store.document.pairings with
  | error e =>
      refine ⟨?_, sound⟩
      intro kind failed
      apply unfailed kind
      rw [changed]
      exact congrArg Except.error (Except.error.inj failed)
  | ok result =>
      obtain ⟨value, pairings⟩ := result
      obtain ⟨room, name, berth⟩ := agrees.exists_berth
      have saved := Disk.save_of_sound sound berth
        ({ store.document with pairings } : Document).render
      simp only [publish]
      generalize disk.save store.path _ = save at saved ⊢
      obtain ⟨result, after⟩ := save
      obtain ⟨rfl, sound⟩ := saved
      refine ⟨?_, sound⟩
      intro kind failed
      cases failed

namespace Store

theorem served_update {Value : Type} {store : FileStore} {disk : Disk}
    (agrees : store.Agrees disk) (sound : disk.Sound store.path)
    {change : Registry → Except StoreError (Value × Registry)}
    (unfailed : ∀ kind, change store.document.pairings ≠ .error (.io kind)) :
    ((file store).update disk change).Served store.path := by
  obtain ⟨unfailed, sound⟩ := FileStore.served_update agrees sound unfailed
  exact ⟨unfailed, sound⟩

/-- A disk on which saves go through fails no call. -/
theorem served_carryOut {store : FileStore} {disk : Disk} (agrees : store.Agrees disk)
    (sound : disk.Sound store.path) (call : Call) :
    ((file store).carryOut disk call).Served store.path := by
  cases call with
  | find _ | list | isPaired =>
      refine ⟨?_, sound⟩
      intro kind failed
      cases failed
  | put record =>
      refine (served_update agrees sound ?_).map _
      intro kind failed
      cases (Registry.insertBounded_eq_error (Archive.eq_error_of_map failed)).1
  | add record =>
      refine (served_update agrees sound ?_).map _
      intro kind failed
      rcases Registry.insertChecked_eq_error (Archive.eq_error_of_map failed) with other | other
      · cases other
      · cases other
  | remove id =>
      simp only [carryOut, remove]
      cases find? (file store) id with
      | none =>
          refine ⟨?_, sound⟩
          intro kind failed
          cases failed
      | some record =>
          refine (served_update agrees sound ?_).map _
          intro kind failed
          cases failed
  | removeCascading id | clear =>
      refine (served_update agrees sound ?_).map _
      intro kind failed
      cases failed

theorem unfailed_answers {path : Path} {capacity : Nat} (steps : List Step) {document : Document}
    {disk : Disk} (agrees : FileStore.Agrees ⟨path, capacity, document⟩ disk)
    (sound : disk.Sound path) (kind : IoKind) :
    .error (.io kind) ∉ (file ⟨path, capacity, document⟩).answers disk steps := by
  induction steps generalizing document disk with
  | nil => exact List.not_mem_nil
  | cons step steps ih =>
      cases step with
      | call call =>
          obtain ⟨unfailed, sound⟩ := served_carryOut agrees sound call
          obtain ⟨next, kept, still⟩ := exists_agrees_carryOut agrees call
          rw [answers, kept]
          intro listed
          rcases List.mem_cons.mp listed with first | later
          · exact unfailed kind first.symm
          · exact ih still sound later
      | reopen =>
          have opened := agrees.openAt_eq capacity
          simp only [answers, reopen, opened]
          exact ih agrees sound

/-! ## No difference -/

/-- A store in a file and a store in memory, both empty at first and with the same capacity, are
asked the same things, and the one in the file is closed and opened again any number of times in
between. A disk on which saves go through fails no call. If the disk fails no call, all answers
are the same; and what is refused is refused for lack of room or for another key. -/
theorem interchangeable {disk opened : Disk} {path : Path} {capacity : Nat} {store : FileStore}
    (starts : FileStore.openAt disk path capacity = (.ok store, opened))
    (fresh : store.document.pairings = .empty) (other : Disk) (steps : List Step) :
    let answered := (file store).answers opened steps
    (opened.Sound path → ∀ kind, .error (.io kind) ∉ answered) ∧
      ((∀ kind, .error (.io kind) ∉ answered) →
        answered = (inMemory capacity).answers other ((steps.filterMap Step.call?).map .call) ∧
        ∀ e, .error e ∈ answered →
          e = .full capacity ∨
            ∃ record, .call (.add record) ∈ steps ∧ e = .keyMismatch record.controllerId) := by
  intro answered
  obtain ⟨rfl, rfl, agrees⟩ := FileStore.agrees_of_openAt starts
  refine ⟨unfailed_answers steps agrees, ?_⟩
  intro works
  have same : answered = Registry.empty.answers store.capacity (steps.filterMap Step.call?) := by
    rw [← fresh]
    exact answers_file steps agrees works
  rw [same]
  refine ⟨(answers_memory _ ⟨.empty, store.capacity⟩ other).symm, ?_⟩
  intro e answered
  rcases Registry.error_of_mem_answers answered with full | ⟨record, asked, conflict⟩
  · exact .inl full
  · obtain ⟨step, listed, call⟩ := List.mem_filterMap.mp asked
    cases step with
    | call call' =>
        cases call
        exact .inr ⟨record, listed, conflict⟩
    | reopen => cases call

/-- Two controllers for one place, a changed key, and a store that is opened again after every
record that is filed or taken out. The second controller gets in once the first has left. -/
theorem interchangeable_reopened :
    let path : Path := ⟨["var", "home", "lamp.json"]⟩
    let store : FileStore := ⟨path, 1, .empty⟩
    let first : PairingRecord := ⟨"AA:00", "CC:01", Block.zero, .admin⟩
    let second : PairingRecord := { first with controllerId := "CC:02" }
    let steps : List Step := [.call (.put first), .reopen, .call (.put second),
      .call (.add { first with publicKey := ⟨List.replicate 32 1, rfl⟩ }),
      .call (.remove "CC:01"), .reopen, .call (.add second), .reopen, .call .list, .call .isPaired]
    FileStore.openAt .empty path 1 = (.ok store, .empty) ∧ Disk.empty.Sound path ∧
      (file store).answers .empty steps =
        [.ok .done, .error (.full 1), .error (.keyMismatch "CC:01"), .ok (.found (some first)),
          .ok .done, .ok (.listed [second]), .ok (.paired true)] ∧
      (file store).answers .empty steps =
        (inMemory 1).answers .empty ((steps.filterMap Step.call?).map .call) := by
  intro path store first second steps
  have starts : FileStore.openAt .empty path 1 = (.ok store, .empty) := by
    have parent : Disk.empty.isDirectory path.parent = true := by decide +kernel
    have loaded : FileStore.load .empty path = .ok store.document := by decide +kernel
    exact (FileStore.Agrees.mk parent loaded : store.Agrees .empty).openAt_eq 1
  have sound : Disk.empty.Sound path :=
    ⟨rfl, ⟨["var", "home", "lamp.json.tmp"], by decide +kernel⟩,
      ⟨["var", "home", "lamp.json"], by decide +kernel⟩⟩
  obtain ⟨works, same⟩ := interchangeable starts rfl .empty steps
  exact ⟨starts, sound, by decide +kernel, (same (works sound)).1⟩

end Store

end HomePairing
