import HomePairing.Proofs.Exchange.Messages
import HomePairing.Proofs.Requests.Outsiders
import HomePairing.Proofs.Runs.FirstPairing
import HomePairing.Proofs.Store.Durability
import Mathlib.Data.Fintype.EquivFin

/-!
# Filling a store

While an admin is verified over an open connection (`World.Commanded`), it can add somebody new
whenever there is room and the store can be saved: there is always an identifier that nobody
has, and a new controller takes nobody's place, so the admin stays one
(`World.Commanded.exists_added`). One addition after another fills the store
(`World.Commanded.exists_grown`). So nothing but its capacity limits what a store comes to hold.
-/

namespace HomePairing

/-! ## One more record -/

/-- There is always an identifier that is not taken. -/
theorem Registry.exists_absent (registry : Registry) : ∃ id, registry.find? id = none := by
  obtain ⟨id, new⟩ := Infinite.exists_notMem_finset registry.ids.toFinset
  refine ⟨id, Option.not_isSome_iff_eq_none.mp fun taken => new ?_⟩
  exact List.mem_toFinset.mpr (mem_ids_iff.mpr taken)

namespace Store

/-- Some disk lets the store be saved, whatever it holds. A store in memory needs none, and one
in a file has one if it was opened on a disk that fails no save (`savable_of_sound`). -/
def Savable : Store → Prop
  | memory _ => True
  | file store => ∃ disk : Disk, ∀ content, (disk.save store.path content).1 = .ok ()

theorem savable_of_sound {store : FileStore} {disk : Disk} (agrees : store.Agrees disk)
    (sound : disk.Sound store.path) : (file store).Savable := by
  obtain ⟨room, name, berth⟩ := agrees.exists_berth
  exact ⟨disk, fun content => (Disk.save_of_sound sound berth content).1⟩

/-- That is a matter of the path, and not of the records. -/
theorem savable_withRegistry {store : Store} {registry : Registry} :
    (store.withRegistry registry).Savable ↔ store.Savable := by
  cases store <;> exact Iff.rfl

/-- With such a disk a change fails only by itself. -/
theorem Savable.exists_disk {store : Store} (savable : store.Savable) :
    ∃ disk : Disk, ∀ (change : Registry → Except StoreError (Unit × Registry)) next,
      change store.registry = .ok ((), next) → (store.update disk change).result = .ok () := by
  cases store with
  | memory m =>
      refine ⟨.empty, fun change next changed => ?_⟩
      simp only [registry] at changed
      simp only [update, changed]
  | file f =>
      obtain ⟨disk, saves⟩ := savable
      refine ⟨disk, fun change next changed => ?_⟩
      simp only [registry] at changed
      have saved := saves ({ f.document with pairings := next } : Document).render
      simp only [update, FileStore.update, changed, FileStore.publish]
      generalize disk.save f.path _ = save at saved ⊢
      obtain ⟨result, after⟩ := save
      cases saved
      rfl

/-- With such a disk a new controller is added wherever there is room. -/
theorem Savable.exists_add {store : Store} (savable : store.Savable) :
    ∃ disk : Disk, ∀ record, store.registry.find? record.controllerId = none →
      store.registry.size < store.capacity → (store.add disk record).result = .ok () := by
  obtain ⟨disk, goesThrough⟩ := savable.exists_disk
  refine ⟨disk, fun record absent room => goesThrough _ ?_ ?_⟩
  · exact store.registry.insert record.controllerId record
  · simp only [Registry.insertChecked_of_absent absent room]
    rfl

end Store

/-- An addition that an admin asks for and the store saves files the controller, and nobody
goes. -/
theorem Management.handle_add {accessory : Accessory} {requester : Option String} {body : Bytes}
    {host : Host} {id : String} {publicKey : Key} {permissions : Permissions}
    (admin : isAdmin accessory.store requester = true)
    (parsed : PairingsRequest.parse body = .ok (.add id publicKey permissions))
    (saved : (accessory.store.add host.disk
      (accessory.recordOf id publicKey permissions)).result = .ok ()) :
    handle accessory host requester body =
      { accessory := accessory.withRegistry
          (accessory.registry.insert id (accessory.recordOf id publicKey permissions))
        host := { host with disk := (accessory.store.add host.disk
          (accessory.recordOf id publicKey permissions)).disk }
        answer := ⟨doneReply, []⟩ } := by
  rcases accessory.store.add_cases host.disk (accessory.recordOf id publicKey permissions) with
    ⟨done, after, _⟩ | ⟨e, failed, _⟩
  · simp only [Accessory.recordOf] at done after
    simp only [handle, attempt_of_admin host admin parsed, perform, Accessory.changeStore, done,
      after]
    rfl
  · rw [failed] at saved
    cases saved

namespace World

variable {suite : Suite} {world : World} {i : Nat}

/-- The connection is open, and an admin is verified over it. -/
def Commanded (world : World) (i : Nat) : Prop :=
  ∃ connection, world.hub.find? i = some connection ∧ connection.state.isClosed = false ∧
    Management.isAdmin world.accessory.store connection.controllerId? = true

instance (world : World) (i : Nat) : Decidable (world.Commanded i) :=
  decidable_of_iff
    ((world.hub.find? i).any (fun connection => !connection.state.isClosed &&
      Management.isAdmin world.accessory.store connection.controllerId?) = true)
    (by simp [Commanded, Option.any_eq_true])

theorem savable_run (suite : Suite) (world : World) (savable : world.accessory.store.Savable)
    (events : List Event) : (world.run suite events).accessory.store.Savable := by
  have kept : ∀ (world : World) event, world.accessory.store.Savable →
      (world.step suite event).accessory.store.Savable := by
    intro world event savable
    rw [store_step]
    exact Store.savable_withRegistry.mpr savable
  exact run_invariant kept savable events

/-- An addition that an admin asks for and the store saves leaves the connection as it was. -/
theorem hub_step_add {connection : Connection} {id : String} {publicKey : Key}
    {permissions : Permissions} (suite : Suite) (found : world.hub.find? i = some connection)
    (isOpen : connection.state.isClosed = false)
    (admin : Management.isAdmin world.accessory.store connection.controllerId? = true)
    (saved : (world.accessory.store.add world.host.disk
      (world.accessory.recordOf id publicKey permissions)).result = .ok ()) :
    (world.step suite (Event.management i (.add id publicKey permissions))).hub =
      world.hub.put i connection (world.accessory.withRegistry
        (world.registry.insert id (world.accessory.recordOf id publicKey permissions))) := by
  have handled := Management.handle_add admin
    (PairingsRequest.parse_encode (.add id publicKey permissions)) saved
  -- Nobody was taken out, so nobody's connection is closed.
  have stays : connection.closeWhen (connection.isAmong []) = connection := by
    rw [connection.isAmong_nil]
    rfl
  simp only [step, Event.management, Hub.handle, found, handle_of_open suite isOpen,
    Connection.handlePairings]
  show world.hub.put i (connection.closeWhen (connection.isAmong
    (Management.handle world.accessory world.host _ _).answer.removed))
    (Management.handle world.accessory world.host _ _).accessory = _
  rw [handled, stays]
  rfl

/-- Where there is room an admin can add somebody, and is an admin still. -/
theorem Commanded.exists_added (commanded : world.Commanded i)
    (savable : world.accessory.store.Savable)
    (room : world.registry.size < world.accessory.store.capacity) (suite : Suite) :
    ∃ events, (world.run suite events).Commanded i ∧
      (world.run suite events).registry.size = world.registry.size + 1 := by
  obtain ⟨connection, found, isOpen, admin⟩ := commanded
  obtain ⟨disk, adds⟩ := savable.exists_add
  obtain ⟨id, absent⟩ := world.registry.exists_absent
  let record := world.accessory.recordOf id Block.zero .user
  let ready := world.step suite (.machine { world.host with disk })
  let after := ready.step suite (Event.management i (.add id Block.zero .user))
  have hub : after.hub = world.hub.put i connection
      (world.accessory.withRegistry (world.registry.insert id record)) :=
    ready.hub_step_add suite found isOpen admin (adds record absent room)
  have registry : after.registry = world.registry.insert id record := by
    show after.hub.accessory.registry = _
    rw [hub]
    exact Accessory.registry_withRegistry _ _
  have stays : after.hub.find? i = some connection := by
    rw [hub]
    exact (Hub.find?_set (Hub.lt_of_find? found) _ i).trans (if_pos rfl)
  have still : Management.isAdmin after.accessory.store connection.controllerId? = true := by
    obtain ⟨requester, own, verified, known, isAdmin⟩ :=
      Management.exists_admin_of_isAdmin admin
    refine Management.isAdmin_iff.mpr ⟨requester, own, verified, ?_, isAdmin⟩
    -- The new controller is not the requester, for that one was there before.
    have apart : requester ≠ id := by
      rintro rfl
      cases absent.symm.trans known
    show after.registry.find? requester = some own
    rw [registry, Registry.find?_insert, if_neg apart]
    exact known
  refine ⟨[.machine { world.host with disk }, Event.management i (.add id Block.zero .user)],
    ⟨connection, stays, isOpen, still⟩, ?_⟩
  show after.registry.size = world.registry.size + 1
  rw [registry]
  exact Registry.size_insert_of_absent absent record

/-- Step by step the store grows by as many controllers as there is room for. -/
theorem Commanded.exists_grown (commanded : world.Commanded i)
    (savable : world.accessory.store.Savable) (suite : Suite) {count : Nat}
    (room : world.registry.size + count ≤ world.accessory.store.capacity) :
    ∃ events, (world.run suite events).Commanded i ∧
      (world.run suite events).registry.size = world.registry.size + count := by
  induction count with
  | zero => exact ⟨[], commanded, rfl⟩
  | succ count ih =>
      obtain ⟨events, still, grown⟩ := ih (by omega)
      have below : (world.run suite events).registry.size <
          (world.run suite events).accessory.store.capacity := by
        rw [capacity_run]
        omega
      obtain ⟨more, standing, added⟩ :=
        still.exists_added (savable_run suite world savable events) below suite
      refine ⟨events ++ more, ?_, ?_⟩
      · rw [run_append]
        exact standing
      · rw [run_append, added, grown]
        rfl

end World

end HomePairing
