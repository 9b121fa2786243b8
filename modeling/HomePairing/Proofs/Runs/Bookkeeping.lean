import HomePairing.Accessory.Opening
import HomePairing.Proofs.Runs.Filling
import HomePairing.Proofs.Store.Durability

/-!
# How an accessory keeps its records

Three requests write records, each under conditions of its own: Pair-Setup files whatever
identity it has opened, an addition compares keys, and a removal may take out everybody. Along
every run the records stay as they should be (`World.Kept`): each under its own controller's
identifier and in the accessory's name, and no more of them than the store has room for. And
while a controller stays, nothing about its record changes but the permissions
(`World.record_run`).

How much room there is depends on where the store comes from (`Accessory.Source.room`). A store
that is made for an accessory is made for as many pairings as the configuration allows; one that
is brought along has a capacity of its own, which nobody compares with the configuration. So the
configured maximum is kept exactly if the store has no more room than that: with more room, an
admin can always go past it (`World.within_iff`, `World.exists_crowded`).
-/

namespace HomePairing

/-! ## Records -/

namespace Registry

/-- Records as an accessory keeps them: each under its own controller's identifier and in the
accessory's name, and no more than there is room for. -/
structure Kept (registry : Registry) (accessoryId : String) (room : Nat) : Prop where
  filed : registry.WellFiled
  owned : ∀ id record, registry.find? id = some record → record.accessoryId = accessoryId
  fits : registry.size ≤ room

variable {registry : Registry} {accessoryId : String} {room : Nat}

theorem kept_of_isEmpty (empty : registry.isEmpty = true) (accessoryId : String) (room : Nat) :
    registry.Kept accessoryId room where
  filed id record found := by
    rw [isEmpty_iff.mp empty id] at found
    cases found
  owned id record found := by
    rw [isEmpty_iff.mp empty id] at found
    cases found
  fits := by
    rw [size_of_isEmpty empty]
    exact Nat.zero_le room

/-- A record in the accessory's name can be filed where there is one already, or room. -/
theorem Kept.insert (kept : registry.Kept accessoryId room) (record : PairingRecord)
    (own : record.accessoryId = accessoryId)
    (free : (registry.find? record.controllerId).isSome = true ∨ registry.size < room) :
    (registry.insert record.controllerId record).Kept accessoryId room where
  filed := kept.filed.insert record
  owned id other found := by
    rw [find?_insert] at found
    split at found
    · cases found
      exact own
    · exact kept.owned id other found
  fits := by
    rcases free with there | below
    · rw [size_insert_of_isSome there]
      exact kept.fits
    · have grown := registry.size_insert_le_succ record.controllerId record
      omega

theorem Kept.eraseCascading (kept : registry.Kept accessoryId room) (id : String) :
    (registry.eraseCascading id).2.Kept accessoryId room where
  filed := kept.filed.eraseCascading id
  owned other record found := by
    rw [find?_eraseCascading] at found
    split at found
    · exact kept.owned other record found
    · cases found
  fits := Nat.le_trans (registry.size_eraseCascading_le id) kept.fits

/-- Records under their own controllers' identifiers are listed in the order of these. -/
theorem WellFiled.pairwise_records (filed : registry.WellFiled) :
    registry.records.Pairwise fun a b => a.controllerId < b.controllerId := by
  have named : ∀ entry ∈ registry.entries, entry.2.controllerId = entry.1 := by
    intro entry listed
    exact filed entry.1 entry.2 (find?_eq_some_iff.mpr listed)
  apply List.pairwise_map.mpr
  refine registry.ascending.imp_of_mem ?_
  intro a b first second below
  rw [named a first, named b second]
  exact below

/-- The same record, up to the permissions. -/
theorem Kept.eq_with_permissions (kept : registry.Kept accessoryId room) {next : Registry}
    (nextKept : next.Kept accessoryId room) {id : String} {known record : PairingRecord}
    (before : registry.find? id = some known) (after : next.find? id = some record)
    (sameKey : record.publicKey = known.publicKey) :
    record = { known with permissions := record.permissions } := by
  have owner := (nextKept.owned id record after).trans (kept.owned id known before).symm
  have name := (nextKept.filed id record after).trans (kept.filed id known before).symm
  obtain ⟨accessory, controller, key, permissions⟩ := record
  simp only at owner name sameKey
  rw [owner, name, sameKey]

end Registry

namespace World

variable {suite : Suite} {world : World}

/-! ## One event -/

/-- The identity is never touched. -/
theorem identity_step (suite : Suite) (world : World) (event : Event) :
    (world.step suite event).accessory.identity = world.accessory.identity := by
  have change := world.change_step suite event
  show (world.step suite event).hub.accessory.identity = world.accessory.identity
  generalize (world.step suite event).hub = after at change
  cases change with
  | missed _ => rfl
  | connected => rfl
  | dropped _ => exact Accessory.identity_releaseAll _ _
  | closed _ => rfl
  | setup _ _ effect _ => exact effect.identity_eq
  | verifying _ _ _ => rfl
  | verified _ _ _ _ _ _ => rfl
  | @managed i body connection state next answer _ _ _ effect _ =>
      obtain ⟨registry, rfl⟩ := effect.frame
      rfl
  | carried _ _ _ _ => rfl

/-- The records are as the accessory of that moment keeps them. -/
def Kept (world : World) : Prop :=
  world.registry.Kept world.accessory.pairingId world.accessory.store.capacity

theorem kept_step (kept : world.Kept) (event : Event) : (world.step suite event).Kept := by
  have filing := world.filing_step suite event
  have store := world.store_step suite event
  unfold Kept Accessory.pairingId at kept ⊢
  rw [identity_step, store, Store.capacity_withRegistry]
  generalize (world.step suite event).registry = after at filing
  cases filing with
  | kept _ => exact kept
  | paired found isOpen waiting parsed opened served =>
      have accepted := (world.serves_setup_iff suite _ found isOpen).mp served
      have free := SetupStage.room_of_paired world.host waiting parsed opened accepted
      exact kept.insert (world.accessory.recordOf _ _ _) rfl free
  | added found isOpen parsed _ _ served =>
      have accepted := (world.serves_pairings_iff suite _ found isOpen).mp served
      have free := Management.room_of_added world.accessory world.host _ _ parsed accepted
      exact kept.insert (world.accessory.recordOf _ _ _) rfl free
  | removed _ _ _ _ _ => exact kept.eraseCascading _

/-- Of the record of a controller that stays, an event changes the permissions at most. -/
theorem record_step (exclusive : world.hub.Exclusive) (kept : world.Kept) {event : Event}
    {id : String} {known record : PairingRecord}
    (before : world.registry.find? id = some known)
    (after : (world.step suite event).registry.find? id = some record) :
    record = { known with permissions := record.permissions } := by
  have next : (world.step suite event).Kept := kept_step kept event
  have store := world.store_step suite event
  unfold Kept Accessory.pairingId at kept next
  rw [identity_step, store, Store.capacity_withRegistry] at next
  exact kept.eq_with_permissions next before after (publicKey_step exclusive before after)

/-! ## Whole runs -/

theorem identity_run (suite : Suite) (world : World) (events : List Event) :
    (world.run suite events).accessory.identity = world.accessory.identity := by
  have step : ∀ (before : World) event,
      before.accessory.identity = world.accessory.identity →
      (before.step suite event).accessory.identity = world.accessory.identity := by
    intro before event same
    exact (identity_step suite before event).trans same
  exact run_invariant step rfl events

theorem kept_run (suite : Suite) {world : World} (kept : world.Kept) (events : List Event) :
    (world.run suite events).Kept := by
  have step : ∀ (world : World) event, world.Kept → (world.step suite event).Kept := by
    intro world event kept
    exact kept_step kept event
  exact run_invariant step kept events

/-- Of the record of a controller that stays all along, a run changes the permissions at
most. -/
theorem record_run (suite : Suite) {world : World} (exclusive : world.hub.Exclusive)
    (kept : world.Kept) {id : String} {known : PairingRecord}
    (found : world.registry.find? id = some known) (events : List Event)
    (stays : ∀ done, done <+: events →
      ((world.run suite done).registry.find? id).isSome = true) :
    ∃ permissions,
      (world.run suite events).registry.find? id = some { known with permissions } := by
  induction events using List.reverseRecOn with
  | nil => exact ⟨known.permissions, found⟩
  | append_singleton events event ih =>
      have stayed : ∀ done, done <+: events →
          ((world.run suite done).registry.find? id).isSome = true := by
        intro done part
        exact stays done (part.trans (List.prefix_append events [event]))
      obtain ⟨permissions, before⟩ := ih stayed
      obtain ⟨record, after⟩ := Option.isSome_iff_exists.mp (stays _ (List.prefix_refl _))
      rw [run_concat] at after ⊢
      have step : ∀ (world : World) event, world.hub.Exclusive →
          (world.step suite event).hub.Exclusive := by
        intro world event exclusive
        exact exclusive_of_change exclusive (world.change_step suite event)
      have same := record_step (run_invariant step exclusive events)
        (kept_run suite kept events) before after
      exact ⟨record.permissions, after.trans (congrArg some same)⟩

end World

/-! ## Where the store comes from -/

namespace Accessory

/-- How many records there is room for: as many pairings as the configuration allows, unless the
store is brought along. -/
def Source.room (config : Config) : Source → Nat
  | parts _ (some store) => store.capacity
  | parts _ none | memory | sample | file _ => config.maxPairings

theorem store_of_create {slot : Nat} {config : Config} {identity : Identity} {store : Store}
    {accessory : Accessory} (created : create slot config identity store = .ok accessory) :
    accessory.store = store := by
  obtain ⟨_, _, rfl⟩ := Store.exists_of_map_eq_ok created
  rfl

theorem capacity_of_openAt {slot : Nat} {config : Config} {path : Path} {start host : Host}
    {accessory : Accessory} (opened : openAt slot config path start = (.ok accessory, host)) :
    accessory.store.capacity = config.maxPairings := by
  unfold openAt at opened
  rcases starts : FileStore.openAt start.disk path config.maxPairings with ⟨e | store, disk⟩
  · simp only [starts] at opened
    cases opened
  · obtain ⟨_, capacity, agrees⟩ := FileStore.agrees_of_openAt starts
    have identified := FileStore.faithful_ensureIdentity agrees start.entropy
    simp only [starts] at opened
    split at opened
    · cases opened
    · have created := eq_ok_of_mapError_eq_ok (congrArg Prod.fst opened)
      rw [store_of_create created]
      exact identified.capacity.trans capacity

theorem capacity_of_make {source : Source} {slot : Nat} {config : Config} {start host : Host}
    {accessory : Accessory} (made : make source slot config start = (.ok accessory, host)) :
    accessory.store.capacity = source.room config := by
  cases source with
  | memory =>
      have created := eq_ok_of_mapError_eq_ok (congrArg Prod.fst made)
      rw [store_of_create created]
      rfl
  | sample =>
      have created := eq_ok_of_mapError_eq_ok (congrArg Prod.fst made)
      rw [store_of_create created]
      rfl
  | parts identity store =>
      have created := eq_ok_of_mapError_eq_ok (congrArg Prod.fst made)
      rw [store_of_create created]
      cases store <;> rfl
  | file path => exact capacity_of_openAt made

end Accessory

namespace World

/-- Once an admin is verified over an open connection, and with a store that can be saved, no
run goes past a limit exactly if the store has no more room than that. -/
theorem within_iff (suite : Suite) {world : World} (kept : world.Kept) {i : Nat}
    (commanded : world.Commanded i) (savable : world.accessory.store.Savable) (limit : Nat) :
    (∀ later, (world.run suite later).registry.size ≤ limit) ↔
      world.accessory.store.capacity ≤ limit := by
  constructor
  · intro within
    have fits : world.registry.size ≤ world.accessory.store.capacity := kept.fits
    obtain ⟨later, _, full⟩ := commanded.exists_grown savable suite
      (Nat.le_of_eq (Nat.add_sub_of_le fits))
    rw [Nat.add_sub_of_le fits] at full
    exact full ▸ within later
  · intro small later
    have fits := (kept_run suite kept later).fits
    rw [capacity_run] at fits
    exact Nat.le_trans fits small

/-- However an accessory was made, if its store was empty then: after any run every record lies
under its own controller's identifier and is in the accessory's name, the list of records is
strictly ascending by these identifiers, and there are no more of them than there was room for
from the beginning. That is within the configured maximum if there was no more room than this;
and where an admin is verified over an open connection and the store can be saved, only then
does every run from there on stay within it. And while a controller stays in the store, its
record stays the same up to the permissions, its key in particular. -/
theorem bookkeeping (suite : Suite) {source : Accessory.Source} {slot : Nat} {config : Config}
    {start host : Host} {accessory : Accessory}
    (made : Accessory.make source slot config start = (.ok accessory, host))
    (empty : accessory.registry.isEmpty = true) (events : List Event) :
    let world := (create accessory host).run suite events
    world.accessory.pairingId = accessory.pairingId ∧
      (∀ id record, world.registry.find? id = some record →
        record.controllerId = id ∧ record.accessoryId = accessory.pairingId) ∧
      (world.accessory.store.list.Pairwise fun a b => a.controllerId < b.controllerId) ∧
      world.accessory.store.list.length ≤ source.room config ∧
      (source.room config ≤ config.maxPairings →
        world.accessory.store.list.length ≤ config.maxPairings) ∧
      (∀ i, world.Commanded i → accessory.store.Savable →
        ((∀ later, (world.run suite later).accessory.store.list.length ≤ config.maxPairings) ↔
          source.room config ≤ config.maxPairings)) ∧
      ∀ later id known, world.registry.find? id = some known →
        (∀ done, done <+: later →
          ((world.run suite done).registry.find? id).isSome = true) →
        ∃ permissions,
          (world.run suite later).registry.find? id = some { known with permissions } := by
  intro world
  have fresh : (create accessory host).Kept := Registry.kept_of_isEmpty empty _ _
  have kept : world.Kept := kept_run suite fresh events
  have identity : world.accessory.pairingId = accessory.pairingId :=
    congrArg Identity.pairingId (identity_run suite (create accessory host) events)
  have capacity : world.accessory.store.capacity = source.room config :=
    (capacity_run suite (create accessory host) events).trans (Accessory.capacity_of_make made)
  have exclusive : world.hub.Exclusive := exclusive_run suite accessory host events
  have size : ∀ world : World, world.accessory.store.list.length = world.registry.size := by
    intro world
    exact List.length_map _
  have fits : world.accessory.store.list.length ≤ source.room config := by
    rw [size, ← capacity]
    exact kept.fits
  refine ⟨identity, ?_, kept.filed.pairwise_records, fits, fits.trans, ?_, ?_⟩
  · intro id record found
    exact ⟨kept.filed id record found, (kept.owned id record found).trans identity⟩
  · intro i commanded savable
    simp only [size]
    have still := savable_run suite (create accessory host) savable events
    rw [within_iff suite kept commanded still, capacity]
  · intro later id known found stays
    exact record_run suite exclusive kept found later stays

/-- A lamp whose second controller is added as a user, and then made an admin. There is room for
as many as it is meant for, so there will never be more. -/
theorem bookkeeping_promotion :
    let lamp := Accessory.lamp
    let key : Key := Block.zero
    let events := .connect :: (Event.pairing 0 "CC:01" key ++ Event.verification 0 "CC:01" ++
      [Event.management 0 (.add "CC:02" key .user)])
    let promotion := Event.management 0 (.add "CC:02" key .admin)
    let world := (create lamp .quiet).run .transparent events
    let known : PairingRecord := ⟨lamp.pairingId, "CC:02", key, .user⟩
    Accessory.make (.parts lamp.identity none) 0 lamp.config .quiet = (.ok lamp, .quiet) ∧
      lamp.registry.isEmpty = true ∧ world.registry.find? "CC:02" = some known ∧
      world.accessory.store.list.length ≤ lamp.config.maxPairings ∧
      world.Commanded 0 ∧ lamp.store.Savable ∧
      (∀ later, (world.run .transparent later).accessory.store.list.length ≤
        lamp.config.maxPairings) ∧
      ∃ permissions, ((world.run .transparent [promotion]).registry.find? "CC:02") =
        some { known with permissions } := by
  intro lamp key events promotion world known
  have made : Accessory.make (.parts lamp.identity none) 0 lamp.config .quiet =
      (.ok lamp, .quiet) := rfl
  have empty : lamp.registry.isEmpty = true := rfl
  have found : world.registry.find? "CC:02" = some known := by decide +kernel
  have commanded : world.Commanded 0 := by decide +kernel
  have savable : lamp.store.Savable := trivial
  obtain ⟨_, _, _, room, _, exactly, stable⟩ :=
    bookkeeping Suite.transparent made empty events
  have always := (exactly 0 commanded savable).mpr (Nat.le_refl _)
  refine ⟨made, empty, found, room, commanded, savable, always,
    stable [promotion] "CC:02" known found ?_⟩
  intro done part
  rcases List.prefix_cons_iff.mp part with rfl | ⟨rest, rfl, none⟩
  · decide +kernel
  · rw [List.prefix_nil.mp none]
    decide +kernel

/-- A lamp for one pairing over a store for four: the second controller is let in. -/
theorem exists_crowded :
    let config := { Accessory.lamp.config with maxPairings := 1 }
    let source := Accessory.Source.parts Accessory.lamp.identity (some (.inMemory 4))
    let events := .connect :: (Event.pairing 0 "CC:01" Block.zero ++
      Event.verification 0 "CC:01" ++ [Event.management 0 (.add "CC:02" Block.zero .user)])
    ∃ accessory host, Accessory.make source 0 config .quiet = (.ok accessory, host) ∧
      accessory.registry.isEmpty = true ∧
      accessory.config.maxPairings <
        ((create accessory host).run .transparent events).accessory.store.list.length := by
  intro config source events
  exact ⟨{ Accessory.lamp with config }, .quiet, rfl, rfl, by decide +kernel⟩

end World

end HomePairing
