import HomePairing.Proofs.Runs.Attempts

/-!
# The slot is taken exactly while somebody is pairing

A lease is moved from stage to stage, and goes back on every way out of a Pair-Setup. If it
went back too seldom the slot would stay taken with nobody pairing, and nobody could ever
pair again. `Hub.Backed` says that this does not happen: behind a taken slot there is a
Pair-Setup under way. Together with `Hub.Exclusive` it makes the slot exact
(`World.slot_exact`), and decides what a first request is told.
-/

namespace HomePairing

/-- The third or the fifth message is waited for with the lease, and nothing else is. -/
theorem SetupStage.exists_lease_iff {stage : SetupStage} :
    (∃ lease, stage.lease? = some lease) ↔
      stage.expectedState = 3 ∨ stage.expectedState = 5 := by
  cases stage <;> simp [lease?, expectedState]

namespace Hub

variable {hub after : Hub} {i : Nat}

/-- The connection waits for the third or the fifth message of a Pair-Setup. It goes on to
when it is closed, until it is dropped. -/
def MidSetup (hub : Hub) (i : Nat) : Prop :=
  ∃ connection, hub.find? i = some connection ∧
    (connection.setup.expectedState = 3 ∨ connection.setup.expectedState = 5)

theorem midSetup_iff : hub.MidSetup i ↔ ∃ lease, hub.lease? i = some lease := by
  constructor
  · rintro ⟨connection, found, waiting⟩
    rw [lease?_of_find? found]
    exact SetupStage.exists_lease_iff.mpr waiting
  · rintro ⟨lease, held⟩
    obtain ⟨connection, found, there⟩ := Option.bind_eq_some_iff.mp held
    exact ⟨connection, found, SetupStage.exists_lease_iff.mp ⟨lease, there⟩⟩

/-! ## The invariant -/

/-- Behind a taken slot somebody is pairing. -/
def Backed (hub : Hub) : Prop :=
  hub.accessory.setupInProgress = true → ∃ i, hub.MidSetup i

theorem Backed.of_untaken (untaken : hub.accessory.setupInProgress = false) : hub.Backed := by
  intro taken
  rw [untaken] at taken
  cases taken

theorem Backed.of_same (h : hub.Backed) (same : hub.SameLeases after) : after.Backed := by
  intro taken
  obtain ⟨i, mid⟩ := h (same.busy ▸ taken)
  obtain ⟨lease, held⟩ := midSetup_iff.mp mid
  exact ⟨i, midSetup_iff.mpr ⟨lease, (same.leases i).trans held⟩⟩

theorem Backed.of_released (h : hub.Backed) (exclusive : hub.Exclusive)
    (released : hub.Released i after) : after.Backed := by
  cases held : hub.lease? i with
  | none => exact h.of_same (released.same held)
  | some lease =>
      refine .of_untaken ?_
      rw [released.accessory, held]
      exact Accessory.setupInProgress_release (exclusive.own i lease held)

/-! ## What the invariants say together -/

theorem Exclusive.eq_of_midSetup (h : hub.Exclusive) {j : Nat} (mid : hub.MidSetup i)
    (other : hub.MidSetup j) : i = j := by
  obtain ⟨lease, held⟩ := midSetup_iff.mp mid
  obtain ⟨second, there⟩ := midSetup_iff.mp other
  exact h.unique i j lease second held there

/-- The slot is taken exactly while one connection is pairing. -/
theorem Exclusive.setupInProgress_iff (h : hub.Exclusive) (backed : hub.Backed) :
    hub.accessory.setupInProgress = true ↔ ∃! i, hub.MidSetup i := by
  constructor
  · intro taken
    obtain ⟨i, mid⟩ := backed taken
    exact ⟨i, mid, fun j other => h.eq_of_midSetup other mid⟩
  · rintro ⟨i, mid, _⟩
    obtain ⟨lease, held⟩ := midSetup_iff.mp mid
    exact h.busy i lease held

/-- To a connection that gives back what it holds, the slot is taken exactly while another
one is pairing. -/
theorem Exclusive.taken_iff (h : hub.Exclusive) (backed : hub.Backed) :
    (hub.accessory.releaseAll (hub.lease? i)).setupInProgress = true ↔
      ∃ j, j ≠ i ∧ hub.MidSetup j := by
  cases held : hub.lease? i with
  | none =>
      constructor
      · intro taken
        obtain ⟨j, mid⟩ := backed taken
        refine ⟨j, ?_, mid⟩
        rintro rfl
        obtain ⟨lease, there⟩ := midSetup_iff.mp mid
        rw [held] at there
        cases there
      · rintro ⟨j, _, mid⟩
        obtain ⟨lease, there⟩ := midSetup_iff.mp mid
        exact h.busy j lease there
  | some lease =>
      refine iff_of_false ?_ ?_
      · rw [Accessory.releaseAll, Accessory.setupInProgress_release (h.own i lease held)]
        exact Bool.false_ne_true
      · rintro ⟨j, apart, mid⟩
        exact apart (h.eq_of_midSetup mid (midSetup_iff.mpr ⟨lease, held⟩))

end Hub

namespace World

variable {suite : Suite} {world : World}

/-! ## Every event keeps it -/

theorem backed_of_effect {i : Nat} {connection : Connection} {body : Bytes}
    {next : SetupStage} {after : Accessory} {answer : Except PairingError Bytes}
    (h : world.hub.Backed) (exclusive : world.hub.Exclusive)
    (found : world.hub.find? i = some connection)
    (effect : connection.setup.Effect suite world.accessory world.host body next after answer) :
    (world.hub.put i { connection with setup := next } after).Backed := by
  have before := Hub.lease?_of_find? found
  have leases := Hub.lease?_put found { connection with setup := next } after
  cases effect with
  | refused _ _ => exact h.of_released exclusive ⟨leases, by rw [before]; rfl⟩
  | started _ _ _ _ _ =>
      exact fun _ => ⟨i, Hub.midSetup_iff.mpr ⟨_, (leases i).trans (if_pos rfl)⟩⟩
  | proved waiting _ _ =>
      refine h.of_same ⟨Hub.view_put_same found ?_, rfl, rfl, rfl, rfl, id⟩
      rw [waiting]
      rfl
  -- Both ends of an exchange give back a lease of this very slot.
  | rejected wrong =>
      obtain ⟨lease, held⟩ := SetupStage.exists_lease_of_provesWrong wrong
      refine .of_untaken ?_
      rw [Hub.accessory_put, held]
      exact Accessory.setupInProgress_release (exclusive.own i lease (before.trans held))
  | @paired sessionKey lease sealed payload waiting _ _ =>
      rw [waiting] at before
      exact .of_untaken (Accessory.setupInProgress_release (exclusive.own i lease before))

/-- Every event keeps somebody behind a taken slot. -/
theorem backed_of_change {event : Event} {after : Hub} (h : world.hub.Backed)
    (exclusive : world.hub.Exclusive) (change : Change suite world event after) :
    after.Backed := by
  rcases leases_of_change change with same | ⟨i, released⟩ | ⟨i, _, _, _, _, _, found, effect, rfl⟩
  · exact h.of_same same
  · exact h.of_released exclusive released
  · exact backed_of_effect h exclusive found effect

/-- Runs keep somebody behind a taken slot. -/
theorem backed_run (suite : Suite) (exclusive : world.hub.Exclusive) (backed : world.hub.Backed)
    (events : List Event) : (world.run suite events).hub.Backed := by
  have kept : ∀ (world : World) event, world.hub.Exclusive ∧ world.hub.Backed →
      (world.step suite event).hub.Exclusive ∧ (world.step suite event).hub.Backed := by
    rintro world event ⟨exclusive, backed⟩
    have change := world.change_step suite event
    exact ⟨exclusive_of_change exclusive change, backed_of_change backed exclusive change⟩
  exact (run_invariant kept ⟨exclusive, backed⟩ events).2

/-! ## What a first request is told -/

/-- The answer to a first request that comes while somebody else is pairing. -/
def busyAnswer (connection : Connection) : Option (Except ConnectionError ConnectionReply) :=
  some (.ok ⟨Pairing.errorReply 2 ErrorCode.busy, connection.isEncrypted, false⟩)

/-- The request begins a Pair-Setup at the connection, whatever was there of another one: a
salt and a secret are drawn for it, and the reply is the challenge that belongs to them. -/
def Begins (suite : Suite) (world : World) (i : Nat) (connection : Connection)
    (body : Bytes) : Prop :=
  let salted := world.host.draw 16
  let drawn := salted.2.draw 32
  let server := SetupStage.serverOf suite world.accessory.config salted.1 drawn.1
  world.answer suite i .pairSetup body =
      some (.ok ⟨SetupStage.startReply salted.1 (server.publicKey suite.srp),
        connection.isEncrypted, false⟩) ∧
    (world.step suite (.request i .pairSetup body)).openStage? i =
      some (.awaitingProof server salted.1 ⟨world.accessory.slot⟩)

/-- A challenge is no refusal. -/
theorem Begins.answer_ne_busy {i : Nat} {connection : Connection} {body : Bytes}
    (begins : world.Begins suite i connection body) :
    world.answer suite i .pairSetup body ≠ busyAnswer connection := by
  intro busy
  have same := begins.1.symm.trans busy
  simp only [busyAnswer, Option.some.injEq, Except.ok.injEq, ConnectionReply.mk.injEq,
    and_true] at same
  exact SetupStage.not_isRefusal_startReply _ _ (same ▸ Pairing.isRefusal_errorReply _ _)

section

variable {i : Nat} {connection : Connection} {body : Bytes}
  (found : world.hub.find? i = some connection) (isOpen : connection.state.isClosed = false)
  (parsed : SetupRequest.parse body = .ok (.start Method.pairSetup))
include found isOpen parsed

theorem begins_of_free (unpaired : world.accessory.isPaired = false)
    (unlocked : world.accessory.isLockedOut = false)
    (free : (world.accessory.releaseAll connection.setup.lease?).setupInProgress = false) :
    world.Begins suite i connection body := by
  have begun : connection.setup.attempt suite world.accessory world.host body = _ :=
    SetupStage.attempt_of_free world.host connection.setup parsed unpaired unlocked free
  refine ⟨?_, ?_⟩
  · rw [world.answer_setup suite body found isOpen,
      SetupStage.answer_handle_of_ok world.host (congrArg SetupOutcome.answer begun)]
  · rw [openStage?_of_find? (world.find?_step_setup suite body found isOpen) isOpen, begun]

/-- A first request that nothing else stands against begins a Pair-Setup, or is told that
the slot is taken; it is told so exactly while another connection is pairing. -/
theorem begins_or_busy (exclusive : world.hub.Exclusive) (backed : world.hub.Backed)
    (unpaired : world.accessory.isPaired = false)
    (unlocked : world.accessory.isLockedOut = false) :
    (world.answer suite i .pairSetup body = busyAnswer connection ↔
        ∃ j, j ≠ i ∧ world.hub.MidSetup j) ∧
      (world.Begins suite i connection body ↔ ¬ ∃ j, j ≠ i ∧ world.hub.MidSetup j) := by
  rw [← exclusive.taken_iff backed, Hub.lease?_of_find? found]
  show (_ ↔ (world.accessory.releaseAll connection.setup.lease?).setupInProgress = true) ∧
    (_ ↔ ¬ (world.accessory.releaseAll connection.setup.lease?).setupInProgress = true)
  cases taken : (world.accessory.releaseAll connection.setup.lease?).setupInProgress with
  | true =>
      have busy : world.answer suite i .pairSetup body = busyAnswer connection := by
        rw [world.answer_setup suite body found isOpen,
          SetupStage.answer_handle_of_taken world.host parsed unpaired unlocked taken]
        rfl
      exact ⟨iff_of_true busy rfl,
        iff_of_false (fun begins => begins.answer_ne_busy busy) (by simp)⟩
  | false =>
      have begins : world.Begins suite i connection body :=
        begins_of_free found isOpen parsed unpaired unlocked taken
      exact ⟨iff_of_false begins.answer_ne_busy Bool.false_ne_true,
        iff_of_true begins Bool.false_ne_true⟩

/-- Whoever is pairing may begin again. The slot was theirs already, so nobody is in the
way, and they got it with nobody paired and below the limit. -/
theorem begins_of_midSetup (limited : world.hub.Limited) (exclusive : world.hub.Exclusive)
    (backed : world.hub.Backed) (mid : world.hub.MidSetup i) :
    world.Begins suite i connection body := by
  obtain ⟨lease, held⟩ := Hub.midSetup_iff.mp mid
  have unpaired : world.accessory.isPaired = false :=
    Accessory.isPaired_eq_false_iff.mpr (exclusive.unpaired i lease held)
  have unlocked : world.accessory.isLockedOut = false :=
    Accessory.isLockedOut_eq_false_iff.mpr (limited.below i lease held)
  refine (begins_or_busy found isOpen parsed exclusive backed unpaired unlocked).2.mpr ?_
  rintro ⟨j, apart, other⟩
  exact apart (exclusive.eq_of_midSetup other mid)

end

/-! ## What ends a Pair-Setup -/

/-- The request leaves no Pair-Setup under way at the connection. -/
inductive Ends (suite : Suite) (world : World) (i : Nat) (connection : Connection)
    (body : Bytes) : Prop
  | malformed {e} :
      SetupRequest.parse body = .error e →
      Ends suite world i connection body
  /-- Neither a first request nor the one that was waited for. -/
  | outOfTurn {request} :
      SetupRequest.parse body = .ok request →
      request.state ≠ 1 →
      request.state ≠ connection.setup.expectedState →
      Ends suite world i connection body
  | rejected :
      ¬ world.Serves suite i .pairSetup body →
      Ends suite world i connection body
  | completed :
      world.Pairs suite (.request i .pairSetup body) →
      Ends suite world i connection body

/-- A request in its turn that is carried out and is not the last one ends nothing. -/
theorem not_ends {i : Nat} {connection : Connection} {body : Bytes} {request : SetupRequest}
    (parsed : SetupRequest.parse body = .ok request)
    (inTurn : request.state = 1 ∨ request.state = connection.setup.expectedState)
    (unfinished : ∀ sealed, request ≠ .exchange sealed)
    (served : world.Serves suite i .pairSetup body) :
    ¬ world.Ends suite i connection body := by
  intro ends
  cases ends with
  | malformed unreadable =>
      rw [parsed] at unreadable
      cases unreadable
  | outOfTurn read later unexpected =>
      rw [parsed] at read
      cases read
      exact inTurn.elim later unexpected
  | rejected refused => exact refused served
  | completed pairs =>
      obtain ⟨_, _, sealed, same, read, _⟩ := pairs
      cases same
      rw [parsed] at read
      exact unfinished sealed (Except.ok.inj read)

/-- Those requests, and no others, leave the connection without the lease. -/
theorem ends_iff {i : Nat} {connection : Connection} (body : Bytes)
    (found : world.hub.find? i = some connection)
    (isOpen : connection.state.isClosed = false) :
    world.Ends suite i connection body ↔
      (world.step suite (.request i .pairSetup body)).hub.lease? i = none := by
  have effect := SetupStage.effect_attempt suite connection.setup world.accessory world.host body
  have served := world.serves_setup_iff suite body found isOpen
  rw [Hub.lease?_of_find? (world.find?_step_setup suite body found isOpen)]
  show _ ↔ (connection.setup.attempt suite world.accessory world.host body).stage.lease? = none
  generalize connection.setup.attempt suite world.accessory world.host body = outcome
    at effect served
  obtain ⟨next, after, host, answer⟩ := outcome
  cases effect with
  | refused _ _ => exact iff_of_true (.rejected fun carried => by cases served.mp carried) rfl
  | rejected _ => exact iff_of_true (.rejected fun carried => by cases served.mp carried) rfl
  | started _ parsed _ _ _ =>
      exact iff_of_false (not_ends parsed (.inl rfl) (by simp) (served.mpr rfl))
        (by simp [SetupStage.lease?])
  | proved waiting parsed _ =>
      have inTurn : (3 : UInt8) = connection.setup.expectedState := by rw [waiting]; rfl
      exact iff_of_false (not_ends parsed (.inr inTurn) (by simp) (served.mpr rfl))
        (by simp [SetupStage.lease?])
  | @paired sessionKey lease sealed payload _ parsed _ =>
      exact iff_of_true (.completed ⟨i, body, sealed, rfl, parsed, served.mpr rfl⟩) rfl

/-! ## From the beginning -/

variable {slot : Nat} {config : Config} {identity : Identity} {store : Store}
  {accessory : Accessory}

/-- An accessory is made with its slot free. -/
theorem setupInProgress_of_create
    (created : Accessory.create slot config identity store = .ok accessory) :
    accessory.setupInProgress = false := by
  obtain ⟨_, _, rfl⟩ := Store.exists_of_map_eq_ok created
  rfl

/-- An accessory is made with nothing counted, so it is within the limit. -/
theorem limited_create (created : Accessory.create slot config identity store = .ok accessory)
    (host : Host) : (create accessory host).hub.Limited := by
  obtain ⟨_, fresh, _⟩ := of_create created
  refine .of_free (fun _ => rfl) ?_ fun counted => ?_
  · exact fresh ▸ UInt32.zero_le
  · have counted : 0 < accessory.failedAttempts := counted
    rw [fresh] at counted
    exact absurd counted (UInt32.lt_irrefl _)

/-- For every accessory that is made and every run of it: the slot is taken exactly while
one connection waits for its third or fifth message of a Pair-Setup, and never do two. A
first request that nothing else stands against is told that the slot is taken exactly while
another connection is pairing, and begins a Pair-Setup otherwise; at a connection that is
pairing itself it always does. A connection has no lease after a request exactly if the
request was malformed, out of turn or rejected, or has completed the Pair-Setup. -/
theorem slot_exact (suite : Suite)
    (created : Accessory.create slot config identity store = .ok accessory) (host : Host)
    (events : List Event) :
    let world := (create accessory host).run suite events
    (world.accessory.setupInProgress = true ↔ ∃! i, world.hub.MidSetup i) ∧
    (∀ i j, world.hub.MidSetup i → world.hub.MidSetup j → i = j) ∧
    ∀ i connection body, world.hub.find? i = some connection →
      connection.state.isClosed = false →
      (SetupRequest.parse body = .ok (.start Method.pairSetup) →
        (world.accessory.isPaired = false → world.accessory.isLockedOut = false →
          (world.answer suite i .pairSetup body = busyAnswer connection ↔
            ∃ j, j ≠ i ∧ world.hub.MidSetup j) ∧
          (world.Begins suite i connection body ↔ ¬ ∃ j, j ≠ i ∧ world.hub.MidSetup j)) ∧
        (world.hub.MidSetup i → world.Begins suite i connection body)) ∧
      (world.Ends suite i connection body ↔
        (world.step suite (.request i .pairSetup body)).hub.lease? i = none) := by
  intro world
  have start : (create accessory host).hub.Exclusive := .of_free fun _ => rfl
  have untaken : (create accessory host).hub.Backed :=
    .of_untaken (setupInProgress_of_create created)
  obtain ⟨limited, exclusive⟩ := limited_run suite (limited_create created host) start events
  have backed : world.hub.Backed := backed_run suite start untaken events
  refine ⟨exclusive.setupInProgress_iff backed, fun i j => exclusive.eq_of_midSetup,
    fun i connection body found isOpen => ⟨fun parsed => ⟨fun unpaired unlocked => ?_,
      fun mid => ?_⟩, ends_iff body found isOpen⟩⟩
  · exact begins_or_busy found isOpen parsed exclusive backed unpaired unlocked
  · exact begins_of_midSetup found isOpen parsed limited exclusive backed mid

/-- Two controllers ask the lamp, and the first one has given its proof. -/
def contending : List Event :=
  [.connect, .connect, .setupStart 0, .setupStart 1, .setupProof 0 1]

/-- The first one is pairing, and the second one is not. -/
theorem slot_exact_contending :
    let world := (create .lamp .quiet).run .transparent contending
    Accessory.create 0 Accessory.lamp.config Accessory.lamp.identity Accessory.lamp.store =
        .ok .lamp ∧
      (∃! i, world.hub.MidSetup i) ∧ world.hub.MidSetup 0 ∧ ¬ world.hub.MidSetup 1 := by
  intro world
  have created : Accessory.create 0 Accessory.lamp.config Accessory.lamp.identity
      Accessory.lamp.store = .ok .lamp := rfl
  obtain ⟨exact_slot, unique, _⟩ := slot_exact .transparent created .quiet contending
  have first : world.hub.MidSetup 0 := by
    refine Hub.midSetup_iff.mpr (Option.isSome_iff_exists.mp ?_)
    decide +kernel
  refine ⟨created, exact_slot.mp (by decide +kernel), first, fun second => ?_⟩
  exact absurd (unique 0 1 first second) (by decide)

end World

end HomePairing
