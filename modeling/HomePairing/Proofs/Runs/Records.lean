import HomePairing.Proofs.Runs.Lease

/-!
# What a run makes of the records

Three kinds of events change the records: a Pair-Setup that is completed, and an addition
or a removal that is carried out for an admin (`World.Filing`, `World.filing_step`).
Two facts about whole runs follow at once. Records stay filed under their controllers'
identifiers (`wellFiled_run`). And no step exchanges the key of a controller that is
there before and after it (`publicKey_step`): a Pair-Setup is completed only where nobody
is paired, and an addition of a known controller compares the keys.
-/

namespace HomePairing.World

variable {suite : Suite} {world : World}

/-- What an event makes of the records, with what was checked for it. -/
inductive Filing (suite : Suite) (world : World) : Event → Registry → Prop
  /-- The records stay as they are. If pairings were managed, they were listed. -/
  | kept {event} :
      (∀ i body, event = .request i .pairings body → world.Serves suite i .pairings body →
        PairingsRequest.parse body = .ok .list) →
      Filing suite world event world.registry
  /-- A Pair-Setup was completed. -/
  | paired {i body connection sessionKey lease sealed payload} :
      world.hub.find? i = some connection →
      connection.state.isClosed = false →
      connection.setup = .awaitingExchange sessionKey lease →
      SetupRequest.parse body = .ok (.exchange sealed) →
      SetupStage.openExchange suite sessionKey sealed = .ok payload →
      world.Serves suite i .pairSetup body →
      Filing suite world (.request i .pairSetup body)
        (world.registry.insert payload.id
          (world.accessory.recordOf payload.id payload.publicKey .admin))
  /-- A controller was added; if it was there before, then with this key. -/
  | added {i body connection id publicKey permissions} :
      world.hub.find? i = some connection →
      connection.state.isClosed = false →
      PairingsRequest.parse body = .ok (.add id publicKey permissions) →
      Management.isAdmin world.accessory.store connection.controllerId? = true →
      (∀ known, world.registry.find? id = some known → known.publicKey = publicKey) →
      world.Serves suite i .pairings body →
      Filing suite world (.request i .pairings body)
        (world.registry.insert id (world.accessory.recordOf id publicKey permissions))
  /-- A controller was taken out, and everybody with the last admin. -/
  | removed {i body connection id} :
      world.hub.find? i = some connection →
      connection.state.isClosed = false →
      PairingsRequest.parse body = .ok (.remove id) →
      Management.isAdmin world.accessory.store connection.controllerId? = true →
      world.Serves suite i .pairings body →
      Filing suite world (.request i .pairings body) (world.registry.eraseCascading id).2

/-- An event that sends no request to manage pairings and leaves the records alone. -/
theorem Filing.untouched {event : Event}
    (h : ∀ i body, event ≠ .request i .pairings body) :
    Filing suite world event world.registry :=
  .kept fun i body same _ => absurd same (h i body)

theorem filing_of_setup {i : Nat} {connection : Connection} {body : Bytes}
    {next : SetupStage} {after : Accessory} {answer : Except PairingError Bytes}
    (found : world.hub.find? i = some connection)
    (isOpen : connection.state.isClosed = false)
    (effect : connection.setup.Effect suite world.accessory world.host body next after answer)
    (served : world.Serves suite i .pairSetup body ↔ answer.isOk = true) :
    Filing suite world (.request i .pairSetup body) after.registry := by
  cases effect with
  | refused _ _ =>
      rw [Accessory.registry_releaseAll]
      exact .untouched (by simp)
  | started _ _ _ _ _ => exact .untouched (by simp)
  | proved _ _ _ => exact .untouched (by simp)
  | rejected _ =>
      rw [Accessory.registry_releaseAll]
      exact .untouched (by simp)
  | paired stage parsed opened =>
      rw [Accessory.registry_pairedWith]
      exact .paired found isOpen stage parsed opened (served.mpr rfl)

theorem filing_of_management {i : Nat} {connection : Connection} {body : Bytes}
    {after : Accessory} {answer : Except PairingError PairingsReply}
    (found : world.hub.find? i = some connection)
    (isOpen : connection.state.isClosed = false)
    (effect : Management.Effect world.accessory connection.controllerId? body after answer)
    (served : world.Serves suite i .pairings body ↔ answer.isOk = true) :
    Filing suite world (.request i .pairings body) after.registry := by
  cases effect with
  | refused =>
      refine .kept fun j other same carried => ?_
      cases same
      exact absurd (served.mp carried) (by simp [Except.isOk, Except.toBool])
  | added parsed admin sameKey =>
      rw [Accessory.registry_withRegistry]
      exact .added found isOpen parsed admin sameKey (served.mpr rfl)
  | removed parsed admin =>
      rw [Accessory.registry_withRegistry]
      exact .removed found isOpen parsed admin (served.mpr rfl)
  | listed parsed _ =>
      refine .kept fun j other same _ => ?_
      cases same
      exact parsed

/-- Every event does one of these things to the records. -/
theorem filing_step (suite : Suite) (world : World) (event : Event) :
    Filing suite world event (world.step suite event).registry := by
  have change := world.change_step suite event
  show Filing suite world event (world.step suite event).hub.accessory.registry
  generalize (world.step suite event).hub = after at change
  cases change with
  | missed closed =>
      -- Nothing is carried out over a closed connection, nor over none.
      refine .kept fun i body request served => ?_
      obtain ⟨connection, found, isOpen⟩ := served.exists_open
      rw [closed i .pairings body request connection found] at isOpen
      cases isOpen
  | connected => exact .untouched (by simp)
  | dropped found =>
      rw [Accessory.registry_releaseAll]
      exact .untouched (by simp)
  | closed found => exact .untouched (by simp)
  | setup found isOpen effect served => exact filing_of_setup found isOpen effect served
  | verifying found _ _ => exact .untouched (by simp)
  | verified found _ _ _ _ _ => exact .untouched (by simp)
  | managed found isOpen _ effect served => exact filing_of_management found isOpen effect served
  | carried other _ _ _ => exact .untouched fun i body => other i .pairings body

/-- Of the store, an event changes nothing but the records. -/
theorem store_step (suite : Suite) (world : World) (event : Event) :
    (world.step suite event).accessory.store =
      world.accessory.store.withRegistry (world.step suite event).registry := by
  have unchanged : world.accessory.store =
      world.accessory.store.withRegistry world.accessory.registry :=
    world.accessory.store.withRegistry_registry.symm
  have change := world.change_step suite event
  show (world.step suite event).hub.accessory.store =
    world.accessory.store.withRegistry (world.step suite event).hub.accessory.registry
  generalize (world.step suite event).hub = after at change
  cases change with
  | missed _ => exact unchanged
  | connected => exact unchanged
  | dropped _ =>
      rw [Accessory.registry_releaseAll, Accessory.store_releaseAll]
      exact unchanged
  | closed _ => exact unchanged
  | setup _ _ effect _ => exact effect.store_eq
  | verifying _ _ _ => exact unchanged
  | verified _ _ _ _ _ _ => exact unchanged
  | @managed i body connection state next answer _ _ _ effect _ =>
      obtain ⟨records, rfl⟩ := effect.frame
      show (world.accessory.withRegistry records).store =
        world.accessory.store.withRegistry (world.accessory.withRegistry records).registry
      rw [Accessory.registry_withRegistry]
      rfl
  | carried _ _ _ _ => exact unchanged

/-- Whoever was let in is a verified controller with an admin's record. -/
theorem exists_requester {i : Nat} {connection : Connection}
    (found : world.hub.find? i = some connection)
    (admin : Management.isAdmin world.accessory.store connection.controllerId? = true) :
    ∃ requester record, world.verifiedAs i = some requester ∧
      world.registry.find? requester.controllerId = some record ∧
      record.permissions = .admin := by
  obtain ⟨id, record, verified, filed, isAdmin⟩ := Management.exists_admin_of_isAdmin admin
  obtain ⟨requester, held, rfl⟩ := Option.map_eq_some_iff.mp verified
  exact ⟨requester, record, (verifiedAs_of_find? found).trans held, filed, isAdmin⟩

/-- A request to manage pairings is carried out for nobody else. -/
theorem exists_requester_of_serves {i : Nat} {body : Bytes}
    (served : world.Serves suite i .pairings body) :
    ∃ requester record, world.verifiedAs i = some requester ∧
      world.registry.find? requester.controllerId = some record ∧
      record.permissions = .admin := by
  obtain ⟨connection, found, isOpen⟩ := served.exists_open
  have change := world.change_pairings suite body found isOpen
  generalize (world.step suite (.request i .pairings body)).hub = after at change
  cases change with
  | missed closed =>
      rw [closed i .pairings body rfl connection found] at isOpen
      cases isOpen
  | managed found _ _ effect carried =>
      refine exists_requester found (Bool.of_not_eq_false fun notAdmin => ?_)
      have refused := (effect.eq_of_not_isAdmin notAdmin).2
      rw [carried.mp served] at refused
      cases refused
  | carried other _ _ _ => exact absurd rfl (other i .pairings body)

/-! ## Filing and keys -/

/-- Where a Pair-Setup waits for the controller's identity, nobody is paired. -/
theorem isEmpty_of_exchanging (exclusive : world.hub.Exclusive) {i : Nat}
    {connection : Connection} {sessionKey : Bytes} {lease : Lease}
    (found : world.hub.find? i = some connection)
    (stage : connection.setup = .awaitingExchange sessionKey lease) :
    world.registry.isEmpty = true := by
  refine exclusive.unpaired i lease ?_
  rw [Hub.lease?_of_find? found, stage]
  rfl

theorem wellFiled_step (h : world.registry.WellFiled) (event : Event) :
    (world.step suite event).registry.WellFiled := by
  have filing := world.filing_step suite event
  generalize (world.step suite event).registry = after at filing
  cases filing with
  | kept _ => exact h
  | paired _ _ _ _ _ _ => exact h.insert (world.accessory.recordOf _ _ _)
  | added _ _ _ _ _ _ => exact h.insert (world.accessory.recordOf _ _ _)
  | removed _ _ _ _ _ => exact h.eraseCascading _

theorem wellFiled_run (suite : Suite) {world : World} (h : world.registry.WellFiled)
    (events : List Event) : (world.run suite events).registry.WellFiled := by
  have kept : ∀ (world : World) event, world.registry.WellFiled →
      (world.step suite event).registry.WellFiled :=
    fun world event wellFiled => wellFiled_step wellFiled event
  exact run_invariant kept h events

/-- No step exchanges the key of a controller that is there before and after it. -/
theorem publicKey_step (exclusive : world.hub.Exclusive) {event : Event} {id : String}
    {known record : PairingRecord} (before : world.registry.find? id = some known)
    (after : (world.step suite event).registry.find? id = some record) :
    record.publicKey = known.publicKey := by
  have filing := world.filing_step suite event
  generalize (world.step suite event).registry = next at filing after
  cases filing with
  | kept _ =>
      rw [before] at after
      cases after
      rfl
  | paired found _ stage _ _ _ =>
      -- The lease was held, so there was no record to begin with.
      rw [Registry.isEmpty_iff.mp (isEmpty_of_exchanging exclusive found stage) id] at before
      cases before
  | added _ _ _ _ sameKey _ =>
      rw [Registry.find?_insert] at after
      split at after
      · next same =>
          -- The added controller was there before, and its keys have been compared.
          subst same
          cases after
          exact (sameKey known before).symm
      · rw [before] at after
        cases after
        rfl
  | removed _ _ _ _ _ =>
      rw [Registry.find?_eraseCascading] at after
      split at after
      · rw [before] at after
        cases after
        rfl
      · cases after

end HomePairing.World
