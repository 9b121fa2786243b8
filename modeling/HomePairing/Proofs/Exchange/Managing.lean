import HomePairing.Proofs.Connection.Replies
import HomePairing.Proofs.Runs.Bookkeeping
import HomePairing.Proofs.Tlv.Records

/-!
# Managing pairings, read by the other side

A request to manage pairings is read as the one it was written from
(`PairingsRequest.parse_encode`). The reply to a list request names one controller after
another; it is read as the same controllers in the same order, with the accessory's own
identifier put into every record (`Management.parseList_listReply`). A run files no record in
another name, so what is read is what is in the store (`World.listed_as_stored`).
-/

namespace HomePairing

/-! ## Lists -/

namespace Management

/-- The rows of the reply to a list request. The step stands in front of the first
controller, or alone. -/
def listRows : List PairingRecord → List (List (Tlv.Tag × Bytes))
  | [] => [[Tlv.stateField 2]]
  | record :: records => (Tlv.stateField 2 :: recordFields record) :: records.map recordFields

theorem separated_listRows (records : List PairingRecord) :
    Tlv.separated (listRows records) =
      Tlv.stateField 2 :: Tlv.separated (records.map recordFields) := by
  cases records with
  | nil => rfl
  | cons record rest => cases rest <;> rfl

theorem isRow_recordFields (record : PairingRecord) : Tlv.IsRow (recordFields record) where
  full := List.cons_ne_nil _ _
  plain := by simp [recordFields]
  distinct := by simp [recordFields]

theorem isRow_listRows (records : List PairingRecord) :
    ∀ row ∈ listRows records, Tlv.IsRow row := by
  intro row listed
  cases records with
  | nil =>
      rw [List.mem_singleton.mp listed]
      exact ⟨List.cons_ne_nil _ _, by simp [Tlv.stateField], .singleton _⟩
  | cons record rest =>
      rcases List.mem_cons.mp listed with rfl | later
      · exact ⟨List.cons_ne_nil _ _, by simp [recordFields, Tlv.stateField],
          by simp [recordFields, Tlv.stateField]⟩
      · obtain ⟨other, _, rfl⟩ := List.mem_map.mp later
        exact isRow_recordFields other

/-- No part of a list is an error. -/
theorem get?_error_listed (records : List PairingRecord) :
    (Tlv.Message.ofFields (Tlv.separated (records.map recordFields))).get? .error = none :=
  Tlv.Message.get?_ofFields_eq_none fun field listed => (plain_list records field listed).2

/-- The part that names a controller is read as its record, also behind the step. -/
theorem readRecord?_recordFields (accessoryId : String) (record : PairingRecord) :
    readRecord? accessoryId (.ofFields (recordFields record)) =
        .ok (some { record with accessoryId }) ∧
      readRecord? accessoryId (.ofFields (Tlv.stateField 2 :: recordFields record)) =
        .ok (some { record with accessoryId }) := by
  constructor <;>
    simp [readRecord?, PairingsRequest.readController, requirePermissions, recordFields,
      Tlv.stateField, Tlv.Message.requireByte, Tlv.Message.requireIdentifier,
      Tlv.Message.requireBlock, Tlv.Message.require, mapError_ok, ok_bind]

/-- The rows of a list are read one for one; a step that stands alone names nobody. -/
theorem mapM_readRecord?_listRows (accessoryId : String) (records : List PairingRecord) :
    ∃ read, ((listRows records).map Tlv.Message.ofFields).mapM (readRecord? accessoryId) =
        .ok read ∧
      read.filterMap id = records.map fun record => { record with accessoryId } := by
  cases records with
  | nil => exact ⟨[none], rfl, rfl⟩
  | cons record rest =>
      have others : (rest.map recordFields).mapM (readRecord? accessoryId ∘ .ofFields) =
          .ok (rest.map fun record => some { record with accessoryId }) := by
        rw [List.mapM_map]
        have same : (readRecord? accessoryId ∘ .ofFields) ∘ recordFields =
            fun record => pure (some { record with accessoryId }) :=
          funext fun other => (readRecord?_recordFields accessoryId other).1
        rw [same, List.mapM_pure]
        rfl
      refine ⟨some { record with accessoryId } ::
        rest.map fun record => some { record with accessoryId }, ?_, ?_⟩
      · rw [List.mapM_map, listRows, List.mapM_cons, Function.comp_apply,
          (readRecord?_recordFields accessoryId record).2, others]
        rfl
      · show _ :: List.filterMap id (List.map (some ∘ fun record => _) rest) = _
        rw [List.filterMap_map]
        exact congrArg _ (congrFun List.filterMap_eq_map rest)

/-- A list is read as the controllers it was written from, in the same order, with the given
identifier for the accessory. -/
theorem parseList_listReply (accessoryId : String) (records : List PairingRecord) :
    parseList accessoryId (listReply records) =
      .ok (records.map fun record => { record with accessoryId }) := by
  have written : listReply records = Tlv.encode (Tlv.separated (listRows records)) := by
    rw [separated_listRows]
    rfl
  have rows := isRow_listRows records
  have filled : listRows records ≠ [] := by cases records <;> exact nofun
  obtain ⟨read, reads, named⟩ := mapM_readRecord?_listRows accessoryId records
  rw [parseList, written, Pairing.decode_encode_of_distinct (Tlv.isChain_separated rows),
    ok_bind, Tlv.Message.records_separated rows filled, reads, separated_listRows,
    Pairing.expectState_ofFields (get?_error_listed records), ← named]
  rfl

/-- An admin's list request is answered with the list of what is in the store. -/
theorem handle_list {accessory : Accessory} {requester : Option String} {body : Bytes}
    (host : Host) (admin : isAdmin accessory.store requester = true)
    (parsed : PairingsRequest.parse body = .ok .list) :
    handle accessory host requester body =
      { accessory, host, answer := ⟨listReply accessory.store.list, []⟩ } := by
  simp only [handle, attempt_of_admin host admin parsed, perform]

end Management

/-! ## Runs -/

theorem Registry.mem_records_iff {registry : Registry} {record : PairingRecord} :
    record ∈ registry.records ↔ ∃ id, registry.find? id = some record := by
  simp only [records, List.mem_map, find?_eq_some_iff, Prod.exists, exists_eq_right]

namespace World

variable {suite : Suite} {world : World}

/-- All records are in the accessory's name. -/
def Owned (world : World) : Prop :=
  ∀ record ∈ world.accessory.store.list, record.accessoryId = world.accessory.pairingId

/-- What is filed is filed in the accessory's name. -/
theorem owned_step (owned : world.Owned) (event : Event) : (world.step suite event).Owned := by
  have filing := world.filing_step suite event
  have inserted : ∀ id record, record.accessoryId = world.accessory.pairingId →
      ∀ other ∈ (world.registry.insert id record).records,
        other.accessoryId = world.accessory.pairingId := by
    intro id record own other listed
    obtain ⟨name, found⟩ := Registry.mem_records_iff.mp listed
    rw [Registry.find?_insert] at found
    split at found
    · cases found
      exact own
    · exact owned other (Registry.mem_records_iff.mpr ⟨name, found⟩)
  intro record listed
  rw [Accessory.pairingId, identity_step]
  replace listed : record ∈ (world.step suite event).registry.records := listed
  generalize (world.step suite event).registry = after at filing listed
  cases filing with
  | kept _ => exact owned record listed
  | paired _ _ _ _ _ _ => exact inserted _ _ rfl record listed
  | added _ _ _ _ _ _ => exact inserted _ _ rfl record listed
  | removed _ _ _ _ _ =>
      obtain ⟨name, found⟩ := Registry.mem_records_iff.mp listed
      rw [Registry.find?_eraseCascading] at found
      split at found
      · exact owned record (Registry.mem_records_iff.mpr ⟨name, found⟩)
      · cases found

theorem owned_run (suite : Suite) (owned : world.Owned) (events : List Event) :
    (world.run suite events).Owned := by
  have step : ∀ (world : World) event, world.Owned → (world.step suite event).Owned := by
    intro world event owned
    exact owned_step owned event
  exact run_invariant step owned events

/-- What is in the store is read from the list of it. -/
theorem Owned.parseList (owned : world.Owned) :
    Management.parseList world.accessory.pairingId
      (Management.listReply world.accessory.store.list) = .ok world.accessory.store.list := by
  have same : ∀ record ∈ world.accessory.store.list,
      ({ record with accessoryId := world.accessory.pairingId } : PairingRecord) = record := by
    intro record listed
    rw [← owned record listed]
  rw [Management.parseList_listReply, List.map_congr_left same, List.map_id']

/-- Every request to manage pairings is read as what it was written from. And after any run of
an accessory whose first records, if any, were in its own name, every list request of an admin
is answered with a reply that is read as exactly the records in the store, in their order. -/
theorem listed_as_stored (suite : Suite) {accessory : Accessory} (host : Host)
    (owned : ∀ record ∈ accessory.store.list, record.accessoryId = accessory.pairingId) :
    (∀ request : PairingsRequest, PairingsRequest.parse request.encode = .ok request) ∧
      ∀ events, let world := (create accessory host).run suite events
        ∀ i connection body, world.hub.find? i = some connection →
          connection.state.isClosed = false →
          Management.isAdmin world.accessory.store connection.controllerId? = true →
          PairingsRequest.parse body = .ok .list →
          ∃ reply, world.answer suite i .pairings body = some (.ok reply) ∧
            Management.parseList world.accessory.pairingId reply.body =
              .ok world.accessory.store.list := by
  refine ⟨PairingsRequest.parse_encode, ?_⟩
  intro events world i connection body found isOpen admin parsed
  have fresh : (create accessory host).Owned := owned
  have kept : world.Owned := owned_run suite fresh events
  rw [world.answer_eq suite found, handle_of_open suite isOpen, Connection.handlePairings,
    Management.handle_list world.host admin parsed]
  exact ⟨_, rfl, kept.parseList⟩

/-- A lamp whose first controller has added two more, one of them without a name. -/
theorem listed_as_stored_unnamed :
    let lamp := Accessory.lamp
    let events := .connect :: (Event.pairing 0 "CC:01" Block.zero ++
      Event.verification 0 "CC:01" ++ [Event.management 0 (.add "" Block.zero .user),
        Event.management 0 (.add "Ключ" Block.zero .admin)])
    let world := (create lamp .quiet).run .transparent events
    (∀ record ∈ lamp.store.list, record.accessoryId = lamp.pairingId) ∧
      world.accessory.store.list.map PairingRecord.controllerId = ["", "CC:01", "Ключ"] ∧
      ∃ connection reply, world.hub.find? 0 = some connection ∧
        connection.state.isClosed = false ∧
        Management.isAdmin world.accessory.store connection.controllerId? = true ∧
        world.answer .transparent 0 .pairings PairingsRequest.list.encode = some (.ok reply) ∧
        Management.parseList world.accessory.pairingId reply.body =
          .ok world.accessory.store.list := by
  intro lamp events world
  have owned : ∀ record ∈ lamp.store.list, record.accessoryId = lamp.pairingId := nofun
  have listed : world.accessory.store.list.map PairingRecord.controllerId =
      ["", "CC:01", "Ключ"] := by decide +kernel
  have commanded : world.Commanded 0 := by decide +kernel
  obtain ⟨connection, found, isOpen, admin⟩ := commanded
  obtain ⟨parses, lists⟩ := listed_as_stored .transparent .quiet owned
  obtain ⟨reply, answered, reads⟩ := lists events 0 connection _ found isOpen admin (parses .list)
  exact ⟨owned, listed, connection, reply, found, isOpen, admin, answered, reads⟩

end World

end HomePairing
