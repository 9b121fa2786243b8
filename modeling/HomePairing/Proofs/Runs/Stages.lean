import HomePairing.Proofs.Runs.Change

/-!
# The stages of open connections

Only an open connection answers requests, so only its Pair-Setup stage matters. It is the
first one when the connection is new, and after that nothing but a Pair-Setup request over
this very connection moves it (`World.openStage?_step`).
-/

namespace HomePairing

/-- A Pair-Setup request over a connection. -/
def Event.IsSetup (i : Nat) (event : Event) : Prop :=
  ∃ body, event = .request i .pairSetup body

/-- The Pair-Setup stage of a connection, if it is open. -/
def Connection.openStage? (connection : Connection) : Option SetupStage :=
  if connection.state.isClosed then none else some connection.setup

theorem Connection.openStage?_eq_some_iff {connection : Connection} {stage : SetupStage} :
    connection.openStage? = some stage ↔
      connection.state.isClosed = false ∧ connection.setup = stage := by
  unfold openStage?
  cases connection.state.isClosed <;> simp

namespace World

variable {suite : Suite} {i : Nat}

def openStage? (world : World) (i : Nat) : Option SetupStage :=
  world.hub.view Connection.openStage? i

theorem openStage?_of_find? {world : World} {i : Nat} {connection : Connection}
    (found : world.hub.find? i = some connection)
    (isOpen : connection.state.isClosed = false) :
    world.openStage? i = some connection.setup :=
  (Hub.view_of_find? found).trans (Connection.openStage?_eq_some_iff.mpr ⟨isOpen, rfl⟩)

/-- Whoever is not there, or closed, shows no stage. -/
theorem openStage?_eq_none {world : World} {i : Nat}
    (closed : ∀ connection, world.hub.find? i = some connection →
      connection.state.isClosed = true) : world.openStage? i = none := by
  cases shown : world.openStage? i with
  | none => rfl
  | some stage =>
      obtain ⟨connection, found, there⟩ := Option.bind_eq_some_iff.mp shown
      have isOpen := (Connection.openStage?_eq_some_iff.mp there).1
      rw [closed connection found] at isOpen
      cases isOpen

/-- A connection that keeps its stage and opens nothing shows no stage that was not
there. -/
theorem openStage?_of_kept {hub : Hub} {i j : Nat} {before connection : Connection}
    {stage : SetupStage} (found : hub.find? i = some before)
    (h : (hub.set i (some connection)).view Connection.openStage? j = some stage)
    (kept : connection.setup = before.setup)
    (closed : before.state.isClosed = true → connection.state.isClosed = true) :
    hub.view Connection.openStage? j = some stage := by
  refine Hub.view_of_set found h fun shown => ?_
  obtain ⟨isOpen, same⟩ := Connection.openStage?_eq_some_iff.mp shown
  refine Connection.openStage?_eq_some_iff.mpr ⟨?_, kept.symm.trans same⟩
  by_contra isClosed
  rw [closed (Bool.of_not_eq_false isClosed)] at isOpen
  cases isOpen

/-- Where the stage of an open connection comes from: it was there before, or the
connection is new, or a Pair-Setup request has led to it. -/
theorem openStage?_step {world : World} {event : Event} {next : SetupStage}
    (h : (world.step suite event).openStage? i = some next) :
    (world.openStage? i = some next ∧ ¬ event.IsSetup i) ∨
      next = .awaitingStart ∨
      ∃ body stage after answer,
        event = .request i .pairSetup body ∧
        world.openStage? i = some stage ∧
        stage.Effect suite world.accessory world.host body next after answer ∧
        (world.Serves suite i .pairSetup body ↔ answer.isOk = true) := by
  have change := world.change_step suite event
  unfold openStage? at h
  generalize (world.step suite event).hub = hub at change h
  cases change with
  | missed closed =>
      refine .inl ⟨h, ?_⟩
      rintro ⟨body, rfl⟩
      exact absurd ((openStage?_eq_none (closed i .pairSetup body rfl)).symm.trans h) (by simp)
  | connected =>
      rw [Hub.view_connect] at h
      split at h
      · cases h
        exact .inr (.inl rfl)
      · exact .inl ⟨h, by simp [Event.IsSetup]⟩
  | dropped found =>
      have h := (Hub.view_set found none i).symm.trans h
      split at h
      · cases h
      · exact .inl ⟨h, by simp [Event.IsSetup]⟩
  | closed found =>
      exact .inl ⟨openStage?_of_kept found h rfl fun _ => rfl, by simp [Event.IsSetup]⟩
  | @setup j body connection stage after answer found isOpen effect served =>
      rw [Hub.view_put found] at h
      split at h
      · next here =>
          subst here
          obtain ⟨_, rfl⟩ := Connection.openStage?_eq_some_iff.mp h
          exact .inr (.inr ⟨body, connection.setup, after, answer, rfl,
            openStage?_of_find? found isOpen, effect, served⟩)
      · next apart => exact .inl ⟨h, by simp [Event.IsSetup, Ne.symm apart]⟩
  | verifying found isOpen _ =>
      exact .inl ⟨openStage?_of_kept found h rfl id, by simp [Event.IsSetup]⟩
  -- These two set the state, but of a connection that was open before.
  | verified found isOpen _ _ _ _ =>
      refine .inl ⟨openStage?_of_kept found h rfl fun isClosed => ?_, by simp [Event.IsSetup]⟩
      rw [isOpen] at isClosed
      cases isClosed
  | managed found isOpen _ _ _ =>
      refine .inl ⟨openStage?_of_kept found h rfl fun isClosed => ?_, by simp [Event.IsSetup]⟩
      rw [isOpen] at isClosed
      cases isClosed
  | carried other found _ closing =>
      refine .inl ⟨openStage?_of_kept found h rfl (closing.elim (fun same => same ▸ id)
        fun closed _ => closed), ?_⟩
      rintro ⟨body, same⟩
      exact other i .pairSetup body same

end World

end HomePairing
