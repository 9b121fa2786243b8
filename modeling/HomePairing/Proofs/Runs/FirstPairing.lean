import HomePairing.Proofs.Requests.Codes
import HomePairing.Proofs.Runs.Records
import HomePairing.Proofs.Runs.Slot

/-!
# Pair-Setup makes the first pairing

Whether somebody is paired is looked at when a Pair-Setup starts, and never again: its last
request files a record whatever the store holds by then. The lease makes up for that. While
it is held nobody else can complete a Pair-Setup, and with no admin in the store nobody can
manage pairings (`Hub.Exclusive.unpaired`). So a Pair-Setup that is completed finds the store
empty, and a store that is empty has room.
-/

namespace HomePairing.World

variable {suite : Suite} {world : World}

/-- The event is the last request of a Pair-Setup, and the record is that of the identity
in it. -/
def Founds (suite : Suite) (world : World) (event : Event) (record : PairingRecord) : Prop :=
  ∃ i body connection sessionKey lease sealed payload,
    event = .request i .pairSetup body ∧
    world.hub.find? i = some connection ∧
    connection.setup = .awaitingExchange sessionKey lease ∧
    SetupRequest.parse body = .ok (.exchange sealed) ∧
    SetupStage.openExchange suite sessionKey sealed = .ok payload ∧
    record = world.accessory.recordOf payload.id payload.publicKey .admin

/-- A Pair-Setup is completed in an empty store, and its record is the only one after it. -/
theorem exists_founds_of_pairs (exclusive : world.hub.Exclusive) {event : Event}
    (pairs : world.Pairs suite event) :
    world.registry.isEmpty = true ∧ ∃ record, world.Founds suite event record ∧
      (world.step suite event).registry.entries = [(record.controllerId, record)] := by
  obtain ⟨i, body, sealed, rfl, parsed, served⟩ := pairs
  obtain ⟨connection, found, isOpen⟩ := served.exists_open
  have change := world.change_setup suite body found isOpen
  show world.registry.isEmpty = true ∧ ∃ record, world.Founds suite _ record ∧
    (world.step suite _).hub.accessory.registry.entries = _
  generalize (world.step suite (.request i .pairSetup body)).hub = after at change
  cases change with
  | missed closed =>
      rw [closed i .pairSetup body rfl connection found] at isOpen
      cases isOpen
  | @setup _ _ connection next after answer found _ effect carried =>
      have accepted := carried.mp served
      -- Of the three requests that are carried out, only the last one is an exchange.
      cases effect with
      | refused _ _ => cases accepted
      | rejected _ => cases accepted
      | started _ first _ _ _ =>
          rw [parsed] at first
          cases first
      | proved _ second _ =>
          rw [parsed] at second
          cases second
      | @paired sessionKey lease _ payload waiting third opened =>
          have none_filed := isEmpty_of_exchanging exclusive found waiting
          refine ⟨none_filed, _, ⟨i, body, connection, sessionKey, lease, _, payload, rfl, found,
            waiting, third, opened, rfl⟩, ?_⟩
          rw [Hub.accessory_put, Accessory.registry_pairedWith]
          exact Registry.entries_insert_of_isEmpty none_filed _ _
  | carried other _ _ _ => exact absurd rfl (other i .pairSetup body)

/-! ## Room -/

theorem capacity_run (suite : Suite) (world : World) (events : List Event) :
    (world.run suite events).accessory.store.capacity = world.accessory.store.capacity := by
  have kept : ∀ (before : World) event,
      before.accessory.store.capacity = world.accessory.store.capacity →
      (before.step suite event).accessory.store.capacity = world.accessory.store.capacity := by
    intro before event same
    rw [store_step, Store.capacity_withRegistry]
    exact same
  exact run_invariant kept rfl events

/-- No Pair-Setup request is refused for lack of room. -/
theorem body_ne_maxPeers (exclusive : world.hub.Exclusive)
    (room : 0 < world.accessory.store.capacity) {i : Nat} {body : Bytes}
    {reply : ConnectionReply} (answered : world.answer suite i .pairSetup body = some (.ok reply))
    (state : UInt8) : reply.body ≠ Pairing.errorReply state ErrorCode.maxPeers := by
  obtain ⟨connection, found, isOpen⟩ := exists_open_of_answer answered
  rw [world.answer_setup suite body found isOpen] at answered
  cases answered
  intro refusal
  obtain ⟨⟨sessionKey, lease, waiting⟩, full⟩ := SetupStage.full_of_answer refusal
  -- Whoever gets so far finds an empty store.
  have none_filed : world.accessory.store.registry.size = 0 :=
    Registry.size_of_isEmpty (isEmpty_of_exchanging exclusive found waiting)
  omega

/-- For every accessory, whatever it starts with, and every run of it: while a Pair-Setup is
under way nobody is paired. So a Pair-Setup that is completed replaces nobody's record, and
leaves exactly one, its own and an admin's; and where there is room for one, no Pair-Setup
is refused for lack of it. -/
theorem first_pairing (suite : Suite) (accessory : Accessory) (host : Host)
    (events : List Event) :
    let world := (create accessory host).run suite events
    (∀ i, world.hub.MidSetup i → world.registry.isEmpty = true) ∧
    (∀ event, world.Pairs suite event → world.registry.isEmpty = true ∧
      ∃ record, world.Founds suite event record ∧ record.permissions = .admin ∧
        (world.step suite event).registry.entries = [(record.controllerId, record)]) ∧
    (0 < accessory.store.capacity → ∀ i body reply,
      world.answer suite i .pairSetup body = some (.ok reply) →
      ∀ state, reply.body ≠ Pairing.errorReply state ErrorCode.maxPeers) := by
  intro world
  have exclusive : world.hub.Exclusive := exclusive_run suite accessory host events
  refine ⟨fun i mid => ?_, fun event pairs => ?_, fun room i body reply answered => ?_⟩
  · obtain ⟨lease, held⟩ := Hub.midSetup_iff.mp mid
    exact exclusive.unpaired i lease held
  · obtain ⟨none_filed, record, founds, only⟩ := exists_founds_of_pairs exclusive pairs
    refine ⟨none_filed, record, founds, ?_, only⟩
    obtain ⟨_, _, _, _, _, _, _, _, _, _, _, _, rfl⟩ := founds
    rfl
  · have capacity : world.accessory.store.capacity = accessory.store.capacity :=
      capacity_run suite (create accessory host) events
    exact body_ne_maxPeers exclusive (capacity ▸ room) answered

/-- The lamp has one pairing after the first, and refuses the second. -/
example :
    ((create .lamp .quiet).run .transparent (.connect ::
      (Event.pairing 0 "C" Block.zero ++ Event.pairing 0 "D" Block.zero))).registry.ids =
        ["C"] := by
  decide +kernel

end HomePairing.World
