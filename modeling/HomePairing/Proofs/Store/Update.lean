import HomePairing.Proofs.Store.Registry
import HomePairing.Store

/-!
# What a change of a store leaves behind

A change is carried out whole or not at all: either the registry is the changed one,
or the store is the one before, whatever the disk has made of it (`outcome_update`).
The three changes that requests make are read off from that.
-/

namespace HomePairing.Store

/-- The same store with other records. -/
def withRegistry (store : Store) (registry : Registry) : Store :=
  match store with
  | memory m => memory { m with records := registry }
  | file f => file { f with document := { f.document with pairings := registry } }

@[simp] theorem registry_withRegistry (store : Store) (registry : Registry) :
    (store.withRegistry registry).registry = registry := by
  cases store <;> rfl

@[simp] theorem withRegistry_registry (store : Store) :
    store.withRegistry store.registry = store := by
  cases store <;> rfl

/-- Room is given once and for all. -/
@[simp] theorem capacity_withRegistry (store : Store) (registry : Registry) :
    (store.withRegistry registry).capacity = store.capacity := by
  cases store <;> rfl

variable {Value : Type}

/-- What goes through under another name went through. -/
theorem exists_of_map_eq_ok {Failure First Second : Type} {first : Except Failure First}
    {rename : First → Second} {result : Second} (h : first.map rename = .ok result) :
    ∃ value, first = .ok value ∧ rename value = result := by
  cases first with
  | error e => cases h
  | ok value => exact ⟨value, rfl, Except.ok.inj h⟩

/-- What a change leaves behind: the value and the changed records, or an error and
the store as it was. -/
inductive Outcome (store : Store) (change : Registry → Except StoreError (Value × Registry)) :
    Except StoreError Value → Store → Prop
  | changed {value registry} : change store.registry = .ok (value, registry) →
      Outcome store change (.ok value) (store.withRegistry registry)
  | kept {e} : Outcome store change (.error e) store

/-- Every change has one of the two outcomes. -/
theorem outcome_update (store : Store) (disk : Disk)
    (change : Registry → Except StoreError (Value × Registry)) :
    Outcome store change (store.update disk change).result (store.update disk change).store := by
  cases store with
  | memory m =>
      simp only [update]
      split
      · exact .kept
      · next value registry changed =>
          show Outcome (memory m) change (.ok value) ((memory m).withRegistry registry)
          exact .changed changed
  | file f =>
      simp only [update, FileStore.update]
      split
      · exact .kept
      · next value registry changed =>
          -- The records are taken over only once the disk has them.
          simp only [FileStore.publish]
          split
          · show Outcome (file f) change (.ok value) ((file f).withRegistry registry)
            exact .changed changed
          · exact .kept

/-- What fails is the change itself, or the disk. -/
theorem eq_error_of_update {store : Store} {disk : Disk}
    {change : Registry → Except StoreError (Value × Registry)} {e : StoreError}
    (failed : (store.update disk change).result = .error e) :
    change store.registry = .error e ∨ ∃ kind, e = .io kind := by
  cases store with
  | memory m =>
      simp only [update] at failed
      split at failed
      · next refused =>
          cases failed
          exact .inl refused
      · cases failed
  | file f =>
      simp only [update, FileStore.update] at failed
      split at failed
      · next refused =>
          cases failed
          exact .inl refused
      · simp only [FileStore.publish] at failed
        split at failed
        · cases failed
        · next kind _ _ =>
            cases failed
            exact .inr ⟨kind, rfl⟩

/-- A record is not filed if the disk fails, or if it is new and the store is full. -/
theorem eq_error_of_put {store : Store} {disk : Disk} {record : PairingRecord} {e : StoreError}
    (failed : (store.put disk record).result = .error e) :
    (∃ kind, e = .io kind) ∨
      (e = .full store.capacity ∧ store.registry.find? record.controllerId = none ∧
        store.capacity ≤ store.registry.size) := by
  rcases eq_error_of_update failed with refused | broken
  · cases inserted : store.registry.insertBounded store.capacity record with
    | ok next =>
        rw [inserted] at refused
        cases refused
    | error cause =>
        rw [inserted] at refused
        cases refused
        exact .inr (Registry.insertBounded_eq_error inserted)
  · exact .inl broken

/-- What goes through at the store goes through at the records. -/
theorem exists_changed_of_update {store : Store} {disk : Disk}
    {change : Registry → Except StoreError (Value × Registry)} {value : Value}
    (done : (store.update disk change).result = .ok value) :
    ∃ registry, change store.registry = .ok (value, registry) := by
  have outcome := outcome_update store disk change
  rw [done] at outcome
  generalize (store.update disk change).store = after at outcome
  cases outcome with
  | changed changed => exact ⟨_, changed⟩

/-- A record that is filed had one before it, or found room. -/
theorem room_of_put {store : Store} {disk : Disk} {record : PairingRecord}
    (done : (store.put disk record).result = .ok ()) :
    (store.registry.find? record.controllerId).isSome = true ∨
      store.registry.size < store.capacity := by
  obtain ⟨registry, changed⟩ := exists_changed_of_update done
  obtain ⟨next, inserted, _⟩ := exists_of_map_eq_ok changed
  exact Registry.room_of_insertBounded inserted

theorem room_of_add {store : Store} {disk : Disk} {record : PairingRecord}
    (done : (store.add disk record).result = .ok ()) :
    (store.registry.find? record.controllerId).isSome = true ∨
      store.registry.size < store.capacity := by
  obtain ⟨registry, changed⟩ := exists_changed_of_update done
  obtain ⟨next, inserted, _⟩ := exists_of_map_eq_ok changed
  exact Registry.room_of_insertChecked inserted

/-- Filing a record: done, or nothing has happened. -/
theorem put_cases (store : Store) (disk : Disk) (record : PairingRecord) :
    ((store.put disk record).result = .ok () ∧
      (store.put disk record).store =
        store.withRegistry (store.registry.insert record.controllerId record)) ∨
    ∃ e, (store.put disk record).result = .error e ∧ (store.put disk record).store = store := by
  have outcome := outcome_update store disk fun registry =>
    (registry.insertBounded store.capacity record).map fun registry => ((), registry)
  unfold put
  generalize Store.update store disk _ = change at outcome
  obtain ⟨result, after, disk'⟩ := change
  cases outcome with
  | @changed value registry changed =>
      obtain ⟨next, inserted, same⟩ := exists_of_map_eq_ok changed
      cases same
      rw [Registry.insertBounded_eq_ok inserted]
      exact .inl ⟨rfl, rfl⟩
  | @kept e => exact .inr ⟨e, rfl, rfl⟩

/-- Filing a record under a key check: done, and a controller that was there before
has kept its key; or nothing has happened. -/
theorem add_cases (store : Store) (disk : Disk) (record : PairingRecord) :
    ((store.add disk record).result = .ok () ∧
      (store.add disk record).store =
        store.withRegistry (store.registry.insert record.controllerId record) ∧
      ∀ known, store.find? record.controllerId = some known →
        known.publicKey = record.publicKey) ∨
    ∃ e, (store.add disk record).result = .error e ∧ (store.add disk record).store = store := by
  have outcome := outcome_update store disk fun registry =>
    (registry.insertChecked store.capacity record).map fun registry => ((), registry)
  unfold add
  generalize Store.update store disk _ = change at outcome
  obtain ⟨result, after, disk'⟩ := change
  cases outcome with
  | @changed value registry changed =>
      obtain ⟨next, inserted, same⟩ := exists_of_map_eq_ok changed
      cases same
      obtain ⟨filed, sameKey⟩ := Registry.insertChecked_eq_ok inserted
      rw [filed]
      exact .inl ⟨rfl, rfl, sameKey⟩
  | @kept e => exact .inr ⟨e, rfl, rfl⟩

/-- Taking a controller out, and everybody with the last admin: done, or nothing has
happened. -/
theorem removeCascading_cases (store : Store) (disk : Disk) (id : String) :
    ((store.removeCascading disk id).result = .ok (store.registry.eraseCascading id).1 ∧
      (store.removeCascading disk id).store =
        store.withRegistry (store.registry.eraseCascading id).2) ∨
    ∃ e, (store.removeCascading disk id).result = .error e ∧
      (store.removeCascading disk id).store = store := by
  -- The cascade itself cannot fail, so what fails is the disk.
  have outcome := outcome_update store disk fun registry =>
    .ok (registry.eraseCascading id)
  unfold removeCascading
  generalize Store.update store disk _ = change at outcome
  obtain ⟨result, after, disk'⟩ := change
  cases outcome with
  | changed changed =>
      rw [Except.ok.inj changed]
      exact .inl ⟨rfl, rfl⟩
  | @kept e => exact .inr ⟨e, rfl, rfl⟩

end HomePairing.Store
