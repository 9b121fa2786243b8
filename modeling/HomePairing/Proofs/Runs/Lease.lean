import HomePairing.Proofs.Runs.Change

/-!
# The lease is exclusive

However requests, closes and drops are mixed, at most one connection holds the right to
run Pair-Setup, and while it does the slot is taken and nobody is paired
(`Hub.Exclusive`, `World.exclusive_run`). The reason is the order of the checks: a first
request asks for the slot only after its own lease has gone back, and for an unpaired
accessory only; whatever ends an exchange gives the lease back with it; and nobody can
manage pairings where there are none.
-/

namespace HomePairing

namespace Hub

/-- The lease that a connection holds. -/
def lease? (hub : Hub) (i : Nat) : Option Lease :=
  hub.view (·.setup.lease?) i

theorem lease?_of_find? {hub : Hub} {i : Nat} {connection : Connection}
    (found : hub.find? i = some connection) : hub.lease? i = connection.setup.lease? :=
  view_of_find? found

theorem lease?_set {hub : Hub} {i : Nat} {before : Connection}
    (found : hub.find? i = some before) (connection : Option Connection) (j : Nat) :
    (hub.set i connection).lease? j =
      if j = i then connection.bind (·.setup.lease?) else hub.lease? j :=
  view_set found connection j

theorem lease?_put {hub : Hub} {i : Nat} {before : Connection}
    (found : hub.find? i = some before) (connection : Connection) (accessory : Accessory)
    (j : Nat) :
    (hub.put i connection accessory).lease? j =
      if j = i then connection.setup.lease? else hub.lease? j :=
  view_put found connection accessory j

/-! ## What can happen to leases -/

/-- Whatever has happened, it does not matter to the leases. -/
structure SameLeases (hub after : Hub) : Prop where
  leases : ∀ i, after.lease? i = hub.lease? i
  slot : after.accessory.slot = hub.accessory.slot
  busy : after.accessory.setupInProgress = hub.accessory.setupInProgress
  config : after.accessory.config = hub.accessory.config
  failed : after.accessory.failedAttempts = hub.accessory.failedAttempts
  /-- Nobody becomes paired by it. -/
  unpaired : hub.accessory.registry.isEmpty = true → after.accessory.registry.isEmpty = true

/-- A connection has given back whatever it held, and nothing else has happened. -/
structure Released (i : Nat) (hub after : Hub) : Prop where
  leases : ∀ j, after.lease? j = if j = i then none else hub.lease? j
  accessory : after.accessory = hub.accessory.releaseAll (hub.lease? i)

/-- Where nothing was held, nothing matters. -/
theorem Released.same {i : Nat} {hub after : Hub} (released : Released i hub after)
    (none_held : hub.lease? i = none) : SameLeases hub after := by
  have untouched : after.accessory = hub.accessory := by
    rw [released.accessory, none_held]
    rfl
  refine ⟨fun j => ?_, by rw [untouched], by rw [untouched], by rw [untouched],
    by rw [untouched], by rw [untouched]; exact id⟩
  rw [released.leases]
  split
  · next here => rw [here, none_held]
  · rfl

/-! ## The invariant -/

/-- At most one connection holds the lease; while it does, the slot is taken and nobody
is paired. -/
structure Exclusive (hub : Hub) : Prop where
  own : ∀ i lease, hub.lease? i = some lease → lease.slot = hub.accessory.slot
  busy : ∀ i lease, hub.lease? i = some lease → hub.accessory.setupInProgress = true
  unique : ∀ i j lease other, hub.lease? i = some lease → hub.lease? j = some other → i = j
  /-- Nobody pairs with a paired accessory. -/
  unpaired : ∀ i lease, hub.lease? i = some lease → hub.accessory.registry.isEmpty = true

theorem Exclusive.of_free {hub : Hub} (free : ∀ i, hub.lease? i = none) : Exclusive hub := by
  constructor
  all_goals
    intro i
    rw [free i]
    simp

theorem Exclusive.of_same {hub after : Hub} (h : Exclusive hub) (same : SameLeases hub after) :
    Exclusive after where
  own i lease held := by
    rw [same.slot]
    exact h.own i lease (same.leases i ▸ held)
  busy i lease held := by
    rw [same.busy]
    exact h.busy i lease (same.leases i ▸ held)
  unique i j lease other held held' :=
    h.unique i j lease other (same.leases i ▸ held) (same.leases j ▸ held')
  unpaired i lease held := same.unpaired (h.unpaired i lease (same.leases i ▸ held))

/-- One connection has just got the lease. -/
theorem Exclusive.of_only {hub : Hub} {i : Nat}
    (only : ∀ j, j ≠ i → hub.lease? j = none)
    (held : hub.lease? i = some ⟨hub.accessory.slot⟩)
    (busy : hub.accessory.setupInProgress = true)
    (unpaired : hub.accessory.registry.isEmpty = true) : Exclusive hub := by
  have holder : ∀ j lease, hub.lease? j = some lease → j = i := by
    intro j lease other
    by_contra apart
    rw [only j apart] at other
    cases other
  constructor
  · intro j lease other
    rw [holder j lease other, held] at other
    cases other
    rfl
  · intro _ _ _
    exact busy
  · intro j k lease other first second
    rw [holder j lease first, holder k other second]
  · intro _ _ _
    exact unpaired

/-- Beside a holder nobody holds anything. -/
theorem Exclusive.free_elsewhere {hub : Hub} (h : Exclusive hub) {i j : Nat} {lease : Lease}
    (held : hub.lease? i = some lease) (apart : j ≠ i) : hub.lease? j = none := by
  cases other : hub.lease? j with
  | none => rfl
  | some second => exact absurd (h.unique j i second lease other held) apart

/-- After the only holder has given its lease back, nobody holds one. -/
theorem Exclusive.free_of_given_back {hub after : Hub} (h : Exclusive hub) {i : Nat}
    {lease : Lease} (held : hub.lease? i = some lease)
    (leases : ∀ j, after.lease? j = if j = i then none else hub.lease? j) (j : Nat) :
    after.lease? j = none := by
  rw [leases]
  split
  · rfl
  · next apart => exact h.free_elsewhere held apart

theorem Exclusive.of_released {hub after : Hub} {i : Nat} (h : Exclusive hub)
    (released : Released i hub after) : Exclusive after := by
  cases held : hub.lease? i with
  | some lease => exact .of_free (h.free_of_given_back held released.leases)
  | none => exact h.of_same (released.same held)

end Hub

/-! ## Every event keeps it -/

namespace World

variable {suite : Suite} {world : World}

/-- What an event does to the leases: a Pair-Setup request may give one out or back, a drop
gives one back, and nothing else matters. -/
theorem leases_of_change {event : Event} {after : Hub}
    (change : Change suite world event after) :
    world.hub.SameLeases after ∨
      (∃ i, world.hub.Released i after) ∨
      ∃ i body connection next accessory answer,
        world.hub.find? i = some connection ∧
        connection.setup.Effect suite world.accessory world.host body next accessory answer ∧
        after = world.hub.put i { connection with setup := next } accessory := by
  cases change with
  | missed _ => exact .inl ⟨fun _ => rfl, rfl, rfl, rfl, rfl, id⟩
  | connected => exact .inl ⟨Hub.view_connect_blank rfl, rfl, rfl, rfl, rfl, id⟩
  | @dropped i connection found =>
      refine .inr (.inl ⟨i, Hub.lease?_set found none, ?_⟩)
      rw [Hub.lease?_of_find? found]
      rfl
  | closed found => exact .inl ⟨Hub.view_set_same found (by rfl), rfl, rfl, rfl, rfl, id⟩
  | setup found _ effect _ =>
      exact .inr (.inr ⟨_, _, _, _, _, _, found, effect, rfl⟩)
  | verifying found _ _ => exact .inl ⟨Hub.view_put_same found (by rfl), rfl, rfl, rfl, rfl, id⟩
  | verified found _ _ _ _ _ =>
      exact .inl ⟨Hub.view_put_same found (by rfl), rfl, rfl, rfl, rfl, id⟩
  | managed found _ _ effect _ =>
      -- Where nobody is paired nobody can be added, and the rest of the accessory is the same.
      obtain ⟨registry, frame⟩ := effect.frame
      exact .inl ⟨Hub.view_put_same found (by rfl), frame ▸ rfl, frame ▸ rfl, frame ▸ rfl,
        frame ▸ rfl, effect.isEmpty_of_isEmpty⟩
  | carried _ found _ _ => exact .inl ⟨Hub.view_set_same found (by rfl), rfl, rfl, rfl, rfl, id⟩

theorem exclusive_of_effect {i : Nat} {connection : Connection} {body : Bytes}
    {next : SetupStage} {after : Accessory} {answer : Except PairingError Bytes}
    (h : world.hub.Exclusive) (found : world.hub.find? i = some connection)
    (effect : connection.setup.Effect suite world.accessory world.host body next after answer) :
    (world.hub.put i { connection with setup := next } after).Exclusive := by
  have before := Hub.lease?_of_find? found
  have leases := Hub.lease?_put found { connection with setup := next } after
  cases effect with
  -- Whatever was held has gone back, and perhaps nothing was.
  | refused _ _ => exact h.of_released ⟨leases, by rw [before]; rfl⟩
  | started _ _ unpaired _ free =>
      refine .of_only (fun j apart => ?_) (?_ : Hub.lease? _ i = _) rfl ?_
      · rw [leases, if_neg apart]
        cases held : world.hub.lease? j with
        | none => rfl
        | some lease =>
            -- Then the slot was taken, and this session had nothing to give back.
            rw [← before, h.free_elsewhere held (Ne.symm apart)] at free
            exact absurd (h.busy j lease held) (by rw [← Bool.not_eq_true] at free; exact free)
      · rw [leases, if_pos rfl]
        rfl
      · exact Accessory.isPaired_eq_false_iff.mp unpaired
  | proved stage _ _ =>
      refine h.of_same ⟨Hub.view_put_same found ?_, rfl, rfl, rfl, rfl, id⟩
      rw [stage]
      rfl
  -- Both ends of an exchange had the only lease, and have given it back.
  | rejected wrong =>
      obtain ⟨lease, held⟩ := SetupStage.exists_lease_of_provesWrong wrong
      exact .of_free (h.free_of_given_back (before.trans held) leases)
  | paired stage _ _ =>
      rw [stage] at before
      exact .of_free (h.free_of_given_back before leases)

/-- Every event keeps the lease exclusive. -/
theorem exclusive_of_change {event : Event} {after : Hub} (h : world.hub.Exclusive)
    (change : Change suite world event after) : after.Exclusive := by
  rcases leases_of_change change with same | ⟨i, released⟩ | ⟨i, _, _, _, _, _, found, effect, rfl⟩
  · exact h.of_same same
  · exact h.of_released released
  · exact exclusive_of_effect h found effect

/-- The lease is exclusive along every run that starts without connections. -/
theorem exclusive_run (suite : Suite) (accessory : Accessory) (host : Host)
    (events : List Event) :
    ((World.create accessory host).run suite events).hub.Exclusive :=
  run_invariant (fun world event exclusive =>
    exclusive_of_change exclusive (world.change_step suite event)) (.of_free fun _ => rfl) events

end World

end HomePairing
