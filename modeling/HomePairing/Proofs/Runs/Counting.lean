import HomePairing.Proofs.Runs.Lease
import HomePairing.Proofs.Runs.Stages

/-!
# What a run makes of the count of failed proofs

Two kinds of events move the count: a proof that is looked at and wrong, and a completed
Pair-Setup, which makes it start over (`World.Counting`, `World.counting_step`). Both take
the lease, and nothing else about them matters for the limit on guesses.
-/

namespace HomePairing.World

variable (suite : Suite) (world : World)

/-- Whether an event is a proof that is looked at, and is wrong. -/
def provesWrong : Event → Bool
  | .request i .pairSetup body =>
    match world.openStage? i with
    | some stage => stage.provesWrong suite body
    | none => false
  | _ => false

/-- The event completes a Pair-Setup. -/
def Pairs (event : Event) : Prop :=
  ∃ i body sealed, event = .request i .pairSetup body ∧
    SetupRequest.parse body = .ok (.exchange sealed) ∧ world.Serves suite i .pairSetup body

/-- What an event makes of the count of failed proofs. Only somebody with the lease can
move it. -/
inductive Counting (event : Event) : UInt32 → Prop
  | kept :
      world.provesWrong suite event = false →
      ¬ world.Pairs suite event →
      Counting event world.accessory.failedAttempts
  | wrong {i lease} :
      world.provesWrong suite event = true →
      world.hub.lease? i = some lease →
      Counting event world.accessory.recordFailure.failedAttempts
  | paired {i lease} :
      world.provesWrong suite event = false →
      world.Pairs suite event →
      world.hub.lease? i = some lease →
      Counting event 0

variable {suite} {world}

/-- On a request over an open connection, its stage decides. -/
theorem provesWrong_of_find? {i : Nat} {connection : Connection} {body : Bytes}
    (found : world.hub.find? i = some connection)
    (isOpen : connection.state.isClosed = false) :
    world.provesWrong suite (.request i .pairSetup body) =
      connection.setup.provesWrong suite body := by
  simp only [provesWrong, openStage?_of_find? found isOpen]

theorem Counting.other {event : Event} (h : ∀ i, ¬ event.IsSetup i) :
    Counting suite world event world.accessory.failedAttempts := by
  refine .kept ?_ ?_
  · cases event with
    | request i endpoint body =>
        cases endpoint with
        | pairSetup => exact absurd ⟨body, rfl⟩ (h i)
        | pairVerify => rfl
        | pairings => rfl
    | _ => rfl
  · rintro ⟨i, body, _, same, _⟩
    exact h i ⟨body, same⟩

theorem counting_of_effect {i : Nat} {connection : Connection} {body : Bytes}
    {next : SetupStage} {after : Accessory} {answer : Except PairingError Bytes}
    (found : world.hub.find? i = some connection)
    (isOpen : connection.state.isClosed = false)
    (effect : connection.setup.Effect suite world.accessory world.host body next after answer)
    (served : world.Serves suite i .pairSetup body ↔ answer.isOk = true) :
    Counting suite world (.request i .pairSetup body) after.failedAttempts := by
  have looked : world.provesWrong suite (.request i .pairSetup body) =
      connection.setup.provesWrong suite body := provesWrong_of_find? found isOpen
  have held := Hub.lease?_of_find? found
  have pairs : world.Pairs suite (.request i .pairSetup body) →
      answer.isOk = true ∧ ∃ sealed, SetupRequest.parse body = .ok (.exchange sealed) := by
    rintro ⟨_, _, sealed, same, parsed, carried⟩
    cases same
    exact ⟨served.mp carried, sealed, parsed⟩
  cases answer with
  | error e =>
      cases effect with
      | refused unproved _ =>
          rw [Accessory.failedAttempts_releaseAll]
          refine .kept (looked.trans unproved) fun paired => ?_
          cases (pairs paired).1
      | rejected wrong =>
          obtain ⟨lease, holds⟩ := SetupStage.exists_lease_of_provesWrong wrong
          rw [Accessory.failedAttempts_releaseAll]
          exact .wrong (looked.trans wrong) (held.trans holds)
  | ok reply =>
      have right := looked.trans effect.provesWrong_eq_false
      cases effect with
      -- A request is of one kind only, so neither of these two completes anything.
      | started _ parsed _ _ _ =>
          refine .kept right fun paired => ?_
          obtain ⟨sealed, other⟩ := (pairs paired).2
          rw [parsed] at other
          cases other
      | proved _ parsed _ =>
          refine .kept right fun paired => ?_
          obtain ⟨sealed, other⟩ := (pairs paired).2
          rw [parsed] at other
          cases other
      | @paired sessionKey lease sealed payload waiting parsed _ =>
          rw [Accessory.failedAttempts_pairedWith]
          rw [waiting] at held
          exact .paired right ⟨i, body, sealed, rfl, parsed, served.mpr rfl⟩ held

/-- Every event does one of these things to the count. -/
theorem counting_step (suite : Suite) (world : World) (event : Event) :
    Counting suite world event (world.step suite event).accessory.failedAttempts := by
  have change := world.change_step suite event
  show Counting suite world event (world.step suite event).hub.accessory.failedAttempts
  generalize (world.step suite event).hub = after at change
  cases change with
  | missed closed =>
      refine .kept ?_ ?_
      · cases event with
        | request i endpoint body =>
            cases endpoint with
            | pairSetup =>
                simp only [provesWrong, openStage?_eq_none (closed i .pairSetup body rfl)]
            | pairVerify => rfl
            | pairings => rfl
        | _ => rfl
      · rintro ⟨i, body, _, same, _, served⟩
        obtain ⟨connection, found, isOpen⟩ := served.exists_open
        rw [closed i .pairSetup body same connection found] at isOpen
        cases isOpen
  | connected => exact .other (by simp [Event.IsSetup])
  | dropped _ =>
      rw [Accessory.failedAttempts_releaseAll]
      exact .other (by simp [Event.IsSetup])
  | closed _ => exact .other (by simp [Event.IsSetup])
  | setup found isOpen effect served => exact counting_of_effect found isOpen effect served
  | verifying _ _ _ => exact .other (by simp [Event.IsSetup])
  | verified _ _ _ _ _ _ => exact .other (by simp [Event.IsSetup])
  | @managed i body connection state next answer _ _ _ effect _ =>
      obtain ⟨registry, rfl⟩ := effect.frame
      exact .other (by simp [Event.IsSetup])
  | carried other _ _ _ =>
      refine .other ?_
      rintro i ⟨body, request⟩
      exact other i .pairSetup body request

/-- The configuration is never touched. -/
theorem config_step (suite : Suite) (world : World) (event : Event) :
    (world.step suite event).accessory.config = world.accessory.config := by
  have change := world.change_step suite event
  show (world.step suite event).hub.accessory.config = world.accessory.config
  generalize (world.step suite event).hub = after at change
  cases change with
  | missed _ => rfl
  | connected => rfl
  | dropped _ => exact Accessory.config_releaseAll _ _
  | closed _ => rfl
  | setup _ _ effect _ => exact effect.config_eq
  | verifying _ _ _ => rfl
  | verified _ _ _ _ _ _ => rfl
  | @managed i body connection state next answer _ _ _ effect _ =>
      obtain ⟨registry, rfl⟩ := effect.frame
      rfl
  | carried _ _ _ _ => rfl

theorem config_run (suite : Suite) (world : World) (events : List Event) :
    (world.run suite events).accessory.config = world.accessory.config :=
  run_invariant (fun before event same => (config_step suite before event).trans same) rfl events

/-- How many proofs are looked at and found wrong in a run. -/
def wrongProofs (suite : Suite) : World → List Event → Nat
  | _, [] => 0
  | world, event :: events =>
    (world.provesWrong suite event).toNat + wrongProofs suite (world.step suite event) events

theorem wrongProofs_concat (suite : Suite) (world : World) (events : List Event)
    (event : Event) :
    wrongProofs suite world (events ++ [event]) =
      wrongProofs suite world events +
        ((world.run suite events).provesWrong suite event).toNat := by
  induction events generalizing world with
  | nil => simp [wrongProofs]
  | cons first events ih =>
      simp only [List.cons_append, wrongProofs, ih, run_cons]
      omega

end HomePairing.World
