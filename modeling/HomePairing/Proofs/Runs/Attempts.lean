import HomePairing.Proofs.Runs.Counting
import HomePairing.Proofs.Runs.History

/-!
# The limit on wrong proofs

A first request is refused once too many proofs have failed, but the proofs themselves
come in later requests, and nothing is checked there. The limit holds all the same,
because there is one lease: whoever holds it got it below the limit, and gives it back
with the proof that is counted. So nobody waits for a proof at the limit (`Hub.Limited`).

It follows that the count is exact and never wraps, that between two pairings no more
proofs are looked at than are allowed, and that the limit, once reached, is final
(`attempts_limited`).
-/

namespace HomePairing

namespace Accessory

variable {accessory : Accessory}

theorem isLockedOut_eq_false_iff :
    accessory.isLockedOut = false ↔
      accessory.failedAttempts < accessory.config.maxSetupAttempts := by
  simp [isLockedOut]

/-- Below the limit there is room in the counter for one more. -/
theorem toNat_recordFailure
    (below : accessory.failedAttempts < accessory.config.maxSetupAttempts) :
    accessory.recordFailure.failedAttempts.toNat = accessory.failedAttempts.toNat + 1 := by
  have limit := accessory.config.maxSetupAttempts.toNat_lt
  have below := UInt32.lt_iff_toNat_lt.mp below
  simp only [recordFailure, UInt32.toNat_add, UInt32.toNat_one]
  omega

theorem recordFailure_le
    (below : accessory.failedAttempts < accessory.config.maxSetupAttempts) :
    accessory.recordFailure.failedAttempts ≤ accessory.config.maxSetupAttempts := by
  have counted := toNat_recordFailure below
  have below := UInt32.lt_iff_toNat_lt.mp below
  refine UInt32.le_iff_toNat_le.mpr ?_
  omega

end Accessory

/-! ## The invariant -/

/-- No more proofs have failed than are allowed; fewer while somebody holds the lease; and
none while somebody is paired. -/
structure Hub.Limited (hub : Hub) : Prop where
  bounded : hub.accessory.failedAttempts ≤ hub.accessory.config.maxSetupAttempts
  /-- A lease is given out below the limit only. -/
  below : ∀ i lease, hub.lease? i = some lease →
    hub.accessory.failedAttempts < hub.accessory.config.maxSetupAttempts
  /-- A pairing makes the count start over. -/
  unpaired : 0 < hub.accessory.failedAttempts → hub.accessory.registry.isEmpty = true

theorem Hub.Limited.of_free {hub : Hub} (free : ∀ i, hub.lease? i = none)
    (bounded : hub.accessory.failedAttempts ≤ hub.accessory.config.maxSetupAttempts)
    (unpaired : 0 < hub.accessory.failedAttempts → hub.accessory.registry.isEmpty = true) :
    hub.Limited where
  bounded := bounded
  below i lease held := by
    rw [free i] at held
    cases held
  unpaired := unpaired

theorem Hub.Limited.of_same {hub after : Hub} (h : hub.Limited)
    (same : hub.SameLeases after) : after.Limited where
  bounded := by
    rw [same.failed, same.config]
    exact h.bounded
  below i lease held := by
    rw [same.failed, same.config]
    exact h.below i lease (same.leases i ▸ held)
  unpaired counted := same.unpaired (h.unpaired (same.failed ▸ counted))

/-- A lease that goes back leaves the count as it is. -/
theorem Hub.Limited.of_released {hub after : Hub} {i : Nat} (h : hub.Limited)
    (released : Hub.Released i hub after) : after.Limited := by
  have failed : after.accessory.failedAttempts = hub.accessory.failedAttempts := by
    rw [released.accessory, Accessory.failedAttempts_releaseAll]
  have config : after.accessory.config = hub.accessory.config := by
    rw [released.accessory, Accessory.config_releaseAll]
  refine ⟨?_, fun j lease held => ?_, fun counted => ?_⟩
  · rw [failed, config]
    exact h.bounded
  · rw [released.leases] at held
    split at held
    · cases held
    · rw [failed, config]
      exact h.below j lease held
  · rw [released.accessory, Accessory.registry_releaseAll]
    exact h.unpaired (failed ▸ counted)

namespace World

variable {suite : Suite} {world : World}

theorem limited_of_effect {i : Nat} {connection : Connection} {body : Bytes}
    {next : SetupStage} {after : Accessory} {answer : Except PairingError Bytes}
    (h : world.hub.Limited) (exclusive : world.hub.Exclusive)
    (found : world.hub.find? i = some connection)
    (effect : connection.setup.Effect suite world.accessory world.host body next after answer) :
    (world.hub.put i { connection with setup := next } after).Limited := by
  have before := Hub.lease?_of_find? found
  have leases := Hub.lease?_put found { connection with setup := next } after
  cases effect with
  | refused _ _ => exact h.of_released ⟨leases, by rw [before]; rfl⟩
  | started _ _ unpaired unlocked _ =>
      -- The limit was looked at before the lease was given out.
      have below := Accessory.isLockedOut_eq_false_iff.mp unlocked
      exact ⟨UInt32.le_of_lt below, fun _ _ _ => below,
        fun _ => Accessory.isPaired_eq_false_iff.mp unpaired⟩
  | proved waiting _ _ =>
      refine h.of_same ⟨Hub.view_put_same found ?_, rfl, rfl, rfl, rfl, id⟩
      rw [waiting]
      rfl
  | rejected wrong =>
      -- The proof came with a lease from below the limit, so there is room for one more.
      obtain ⟨lease, held⟩ := SetupStage.exists_lease_of_provesWrong wrong
      have held := before.trans held
      refine .of_free (exclusive.free_of_given_back held leases) ?_ fun _ => ?_
      · rw [Hub.accessory_put, Accessory.failedAttempts_releaseAll,
          Accessory.config_releaseAll]
        exact Accessory.recordFailure_le (h.below i lease held)
      · rw [Hub.accessory_put, Accessory.registry_releaseAll]
        exact exclusive.unpaired i lease held
  | paired waiting _ _ =>
      rw [waiting] at before
      refine .of_free (exclusive.free_of_given_back before leases) ?_ fun counted => ?_
      · rw [Hub.accessory_put, Accessory.failedAttempts_pairedWith]
        exact UInt32.zero_le
      · rw [Hub.accessory_put, Accessory.failedAttempts_pairedWith] at counted
        exact absurd counted (by decide)

theorem limited_of_change {event : Event} {after : Hub} (h : world.hub.Limited)
    (exclusive : world.hub.Exclusive) (change : Change suite world event after) :
    after.Limited := by
  rcases leases_of_change change with same | ⟨i, released⟩ | ⟨i, _, _, _, _, _, found, effect, rfl⟩
  · exact h.of_same same
  · exact h.of_released released
  · exact limited_of_effect h exclusive found effect

/-! ## Runs -/

/-- Runs keep to the limit, and keep the lease exclusive. -/
theorem limited_run (suite : Suite) (limited : world.hub.Limited)
    (exclusive : world.hub.Exclusive) (events : List Event) :
    (world.run suite events).hub.Limited ∧ (world.run suite events).hub.Exclusive := by
  have kept : ∀ (world : World) event, world.hub.Limited ∧ world.hub.Exclusive →
      (world.step suite event).hub.Limited ∧ (world.step suite event).hub.Exclusive := by
    rintro world event ⟨limited, exclusive⟩
    have change := world.change_step suite event
    exact ⟨limited_of_change limited exclusive change, exclusive_of_change exclusive change⟩
  exact run_invariant kept ⟨limited, exclusive⟩ events

/-- A wrong proof is counted, and the counter does not wrap. -/
theorem toNat_failedAttempts_of_provesWrong (limited : world.hub.Limited) {event : Event}
    (wrong : world.provesWrong suite event = true) :
    (world.step suite event).accessory.failedAttempts.toNat =
      world.accessory.failedAttempts.toNat + 1 := by
  have counting := world.counting_step suite event
  generalize (world.step suite event).accessory.failedAttempts = count at counting
  cases counting with
  | kept right _ =>
      rw [wrong] at right
      cases right
  | wrong _ held => exact Accessory.toNat_recordFailure (limited.below _ _ held)
  | paired right _ _ =>
      rw [wrong] at right
      cases right

/-- Without a pairing, the count goes up with the wrong proofs and never down. -/
theorem toNat_failedAttempts_run (limited : world.hub.Limited)
    (exclusive : world.hub.Exclusive) (events : List Event)
    (unpaired : ¬ History.Once
      (fun before event => (world.run suite before).Pairs suite event) events) :
    (world.run suite events).accessory.failedAttempts.toNat =
      world.accessory.failedAttempts.toNat + wrongProofs suite world events := by
  induction events using List.reverseRecOn with
  | nil => rfl
  | append_singleton events event ih =>
      rw [History.once_concat, not_or] at unpaired
      have before := ih unpaired.1
      have kept := (limited_run suite limited exclusive events).1
      rw [run_concat, wrongProofs_concat]
      cases looked : (world.run suite events).provesWrong suite event with
      | true =>
          rw [toNat_failedAttempts_of_provesWrong kept looked, before]
          rfl
      | false =>
          have counting := (world.run suite events).counting_step suite event
          generalize ((world.run suite events).step suite event).accessory.failedAttempts =
            count at counting
          -- It was no wrong proof, and it completes nothing.
          cases counting with
          | kept _ _ => exact before
          | wrong wrong _ =>
              rw [looked] at wrong
              cases wrong
          | paired _ paired _ => exact absurd paired unpaired.2

/-- So no more of them are looked at than the limit allows. -/
theorem wrongProofs_le (limited : world.hub.Limited) (exclusive : world.hub.Exclusive)
    (events : List Event)
    (unpaired : ¬ History.Once
      (fun before event => (world.run suite before).Pairs suite event) events) :
    wrongProofs suite world events ≤ world.accessory.config.maxSetupAttempts.toNat := by
  have counted := toNat_failedAttempts_run limited exclusive events unpaired
  have bounded : (world.run suite events).accessory.failedAttempts ≤
      (world.run suite events).accessory.config.maxSetupAttempts :=
    (limited_run suite limited exclusive events).1.bounded
  rw [config_run] at bounded
  have bounded := UInt32.le_iff_toNat_le.mp bounded
  omega

/-! ## The limit is final -/

/-- Pair-Setup is over: the count is at the limit, nobody completes a Pair-Setup, and a
first request is told so. -/
structure LockedOut (suite : Suite) (limit : UInt32) (world : World) : Prop where
  count : world.accessory.failedAttempts = limit
  unpaired : ∀ event, ¬ world.Pairs suite event
  told : ∀ i body connection, world.hub.find? i = some connection →
    connection.state.isClosed = false →
    SetupRequest.parse body = .ok (.start Method.pairSetup) →
    world.answer suite i .pairSetup body =
      some (.ok ⟨Pairing.errorReply 2 ErrorCode.maxTries, connection.isEncrypted, false⟩)

/-- At the limit nobody holds the lease. -/
theorem free_of_count (limited : world.hub.Limited)
    (count : world.accessory.failedAttempts = world.accessory.config.maxSetupAttempts)
    {i : Nat} {lease : Lease} (held : world.hub.lease? i = some lease) : False := by
  have below := limited.below i lease held
  have same : world.hub.accessory.failedAttempts =
    world.hub.accessory.config.maxSetupAttempts := count
  rw [same] at below
  exact absurd below (UInt32.lt_irrefl _)

theorem count_step (suite : Suite) (limited : world.hub.Limited)
    (count : world.accessory.failedAttempts = world.accessory.config.maxSetupAttempts)
    (event : Event) :
    (world.step suite event).accessory.failedAttempts =
      (world.step suite event).accessory.config.maxSetupAttempts := by
  have counting := world.counting_step suite event
  rw [config_step]
  generalize (world.step suite event).accessory.failedAttempts = after at counting
  -- Whatever moves the count takes the lease, and nobody holds it.
  cases counting with
  | kept _ _ => exact count
  | wrong _ held => exact (free_of_count limited count held).elim
  | paired _ _ held => exact (free_of_count limited count held).elim

theorem lockedOut_of_count (suite : Suite) (limited : world.hub.Limited)
    (allowed : 0 < world.accessory.config.maxSetupAttempts)
    (count : world.accessory.failedAttempts = world.accessory.config.maxSetupAttempts) :
    world.LockedOut suite world.accessory.config.maxSetupAttempts := by
  have locked : world.accessory.isLockedOut = true := by
    simp [Accessory.isLockedOut, count]
  have unpaired : world.accessory.isPaired = false :=
    Accessory.isPaired_eq_false_iff.mpr (limited.unpaired (count ▸ allowed))
  refine ⟨count, fun event pairs => ?_, fun i body connection found isOpen parsed => ?_⟩
  · have counting := world.counting_step suite event
    generalize (world.step suite event).accessory.failedAttempts = after at counting
    cases counting with
    | kept _ never => exact never pairs
    | wrong _ held => exact free_of_count limited count held
    | paired _ _ held => exact free_of_count limited count held
  · rw [world.answer_eq suite found, handle_of_open suite isOpen]
    simp only [Connection.handleSetup,
      SetupStage.answer_handle_of_locked world.host parsed unpaired locked]

/-- The limit, once reached, is final. -/
theorem lockedOut_run (suite : Suite) (limited : world.hub.Limited)
    (exclusive : world.hub.Exclusive)
    (allowed : 0 < world.accessory.config.maxSetupAttempts)
    (count : world.accessory.failedAttempts = world.accessory.config.maxSetupAttempts)
    (events : List Event) :
    (world.run suite events).LockedOut suite world.accessory.config.maxSetupAttempts := by
  induction events generalizing world with
  | nil => exact lockedOut_of_count suite limited allowed count
  | cons event events ih =>
      have change := world.change_step suite event
      rw [← config_step suite world event]
      refine ih (limited_of_change limited exclusive change)
        (exclusive_of_change exclusive change) ?_ (count_step suite limited count event)
      rw [config_step]
      exact allowed

/-! ## From the beginning -/

/-- An accessory is made with a limit of at least one and nothing counted. -/
theorem of_create {slot : Nat} {config : Config} {identity : Identity} {store : Store}
    {accessory : Accessory}
    (created : Accessory.create slot config identity store = .ok accessory) :
    accessory.config = config ∧ accessory.failedAttempts = 0 ∧ 0 < config.maxSetupAttempts := by
  unfold Accessory.create at created
  cases valid : config.validate with
  | error e =>
      rw [valid] at created
      cases created
  | ok _ =>
      rw [valid] at created
      cases created
      refine ⟨rfl, rfl, ?_⟩
      unfold Config.validate at valid
      split at valid
      · cases valid
      · split at valid
        · cases valid
        · next allowed => exact UInt32.pos_iff_ne_zero.mpr allowed

/-- For every accessory that is made and every run of it: the count of failed proofs stays
within the limit and never wraps; between two pairings no more wrong proofs are looked at
than the limit allows; and once the limit is reached, Pair-Setup is over for good. -/
theorem attempts_limited (suite : Suite) {slot : Nat} {config : Config} {identity : Identity}
    {store : Store} {accessory : Accessory}
    (created : Accessory.create slot config identity store = .ok accessory) (host : Host)
    (before : List Event) :
    ((create accessory host).run suite before).accessory.failedAttempts ≤
      config.maxSetupAttempts ∧
    (∀ event, ((create accessory host).run suite before).provesWrong suite event = true →
      (((create accessory host).run suite before).step suite event).accessory.failedAttempts.toNat
        = ((create accessory host).run suite before).accessory.failedAttempts.toNat + 1) ∧
    (∀ during,
      ¬ History.Once
        (fun earlier event =>
          (((create accessory host).run suite before).run suite earlier).Pairs suite event)
        during →
      wrongProofs suite ((create accessory host).run suite before) during ≤
        config.maxSetupAttempts.toNat) ∧
    (((create accessory host).run suite before).accessory.failedAttempts =
        config.maxSetupAttempts →
      ∀ later,
        (((create accessory host).run suite before).run suite later).LockedOut suite
          config.maxSetupAttempts) := by
  obtain ⟨made, fresh, allowed⟩ := of_create created
  have free : ∀ i, (create accessory host).hub.lease? i = none := fun _ => rfl
  have start : (create accessory host).hub.Limited := by
    refine .of_free free ?_ fun counted => ?_
    · exact fresh ▸ UInt32.zero_le
    · have counted : 0 < accessory.failedAttempts := counted
      rw [fresh] at counted
      exact absurd counted (UInt32.lt_irrefl _)
  obtain ⟨limited, exclusive⟩ := limited_run suite start (.of_free free) before
  have config_eq : ((create accessory host).run suite before).accessory.config = config :=
    (config_run suite (create accessory host) before).trans made
  refine ⟨?_, fun event wrong => toNat_failedAttempts_of_provesWrong limited wrong,
    fun during unpaired => ?_, fun count later => ?_⟩
  · rw [← config_eq]
    exact limited.bounded
  · rw [← config_eq]
    exact wrongProofs_le limited exclusive during unpaired
  · rw [← config_eq] at count allowed ⊢
    exact lockedOut_run suite limited exclusive allowed count later

/-- Three wrong guesses lock the lamp. -/
def guessing : List Event :=
  .connect :: [Event.setupStart 0, Event.setupProof 0 7, Event.setupStart 0,
    Event.setupProof 0 8, Event.setupStart 0, Event.setupProof 0 9]

/-- All three have been looked at, and a fourth will not be. -/
theorem attempts_limited_guessing :
    Accessory.create 0 Accessory.lamp.config Accessory.lamp.identity Accessory.lamp.store =
        .ok .lamp ∧
      wrongProofs .transparent (create .lamp .quiet) guessing = 3 ∧
      ∀ later, (((create .lamp .quiet).run .transparent guessing).run .transparent
        later).LockedOut .transparent 3 := by
  have created : Accessory.create 0 Accessory.lamp.config Accessory.lamp.identity
      Accessory.lamp.store = .ok .lamp := rfl
  have limited := attempts_limited .transparent created .quiet guessing
  exact ⟨created, by decide +kernel, limited.2.2.2 (by decide +kernel)⟩

end World

end HomePairing
