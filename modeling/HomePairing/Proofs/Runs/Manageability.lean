import HomePairing.Proofs.Runs.History
import HomePairing.Proofs.Runs.Records

/-!
# Whether the pairings can be managed

An accessory with pairings but without an admin is lost: Pair-Setup refuses it because it
is paired, and management refuses everybody because nobody is an admin. A completed
Pair-Setup files an admin, and a removal takes everybody out with the last one. An
addition has no such rule, and there is one way through it: the only admin files itself
anew, under the key it has, as a user (`World.DemotesOnlyAdmin`).

`manageable_run_iff` says that this is the only way. A run of an accessory that started
unpaired leaves it unpaired or with an admin exactly if no such step was carried out in
it, however long the run went on afterwards.
-/

namespace HomePairing.World

variable (suite : Suite)

/-- The only admin files itself anew as a user, and it is carried out. -/
def DemotesOnlyAdmin (world : World) (event : Event) : Prop :=
  ∃ i body requester publicKey,
    event = .request i .pairings body ∧
    world.Serves suite i .pairings body ∧
    world.verifiedAs i = some requester ∧
    PairingsRequest.parse body = .ok (.add requester.controllerId publicKey .user) ∧
    ∀ id record, world.registry.find? id = some record → record.permissions = .admin →
      id = requester.controllerId

variable {suite} {world : World}

/-- One step leaves what can be managed in that state, unless it demotes the only admin. -/
theorem manageable_step_iff (manageable : world.registry.Manageable) (event : Event) :
    (world.step suite event).registry.Manageable ↔ ¬ world.DemotesOnlyAdmin suite event := by
  have filing := world.filing_step suite event
  generalize (world.step suite event).registry = after at filing
  cases filing with
  | kept listed =>
      refine iff_of_true manageable ?_
      rintro ⟨i, body, requester, publicKey, request, served, _, parsed, _⟩
      rw [listed i body request served] at parsed
      cases parsed
  | paired _ _ _ _ _ _ =>
      refine iff_of_true (Registry.manageable_insert_iff.mpr (.inl rfl)) ?_
      rintro ⟨i, body, requester, publicKey, request, _⟩
      cases request
  | @added i body connection id publicKey permissions found _ parsed admin _ served =>
      obtain ⟨requester, record, verified, filed, isAdmin⟩ := exists_requester found admin
      rw [Registry.manageable_insert_iff]
      constructor
      · rintro still ⟨j, other, demoted, key, request, _, verified', parsed', only⟩
        cases request
        rw [verified] at verified'
        cases verified'
        rw [parsed] at parsed'
        cases parsed'
        rcases still with user | ⟨elsewhere, known, apart, there, itsAdmin⟩
        · cases user
        · exact apart (only elsewhere known there itsAdmin)
      · intro kept
        by_contra lost
        obtain ⟨notAdmin, alone⟩ := not_or.mp lost
        -- Nobody but the added controller was an admin, so the requester was it.
        have only : ∀ other known, world.registry.find? other = some known →
            known.permissions = .admin → other = id := by
          intro other known there itsAdmin
          by_contra apart
          exact alone ⟨other, known, apart, there, itsAdmin⟩
        have itself := only _ record filed isAdmin
        have user : permissions = .user := by
          cases permissions with
          | user => rfl
          | admin => exact absurd rfl notAdmin
        rw [← itself, user] at parsed
        exact kept ⟨i, body, requester, publicKey, rfl, served, verified, parsed,
          fun other known there itsAdmin => itself ▸ only other known there itsAdmin⟩
  | removed _ _ parsed _ _ =>
      refine iff_of_true (Registry.manageable_eraseCascading _ _) ?_
      rintro ⟨i, body, requester, publicKey, request, _, _, parsed', _⟩
      cases request
      rw [parsed] at parsed'
      cases parsed'

/-- What cannot be managed never can be again. -/
theorem not_manageable_step (exclusive : world.hub.Exclusive)
    (lost : ¬ world.registry.Manageable) (event : Event) :
    ¬ (world.step suite event).registry.Manageable := by
  have nobody : ∀ {i connection}, world.hub.find? i = some connection →
      Management.isAdmin world.accessory.store connection.controllerId? = true → False := by
    intro i connection found admin
    obtain ⟨requester, record, _, filed, isAdmin⟩ := exists_requester found admin
    exact lost (.inr (Registry.hasAdmin_iff.mpr ⟨_, record, filed, isAdmin⟩))
  have filing := world.filing_step suite event
  generalize (world.step suite event).registry = after at filing
  cases filing with
  | kept _ => exact lost
  -- A Pair-Setup can be completed where nobody is paired, and that is manageable.
  | paired found _ stage _ _ _ =>
      exact absurd (.inl (isEmpty_of_exchanging exclusive found stage)) lost
  | added found _ _ admin _ _ => exact (nobody found admin).elim
  | removed found _ _ admin _ => exact (nobody found admin).elim

/-- A run of an unpaired accessory leaves it unpaired or with an admin exactly if the only
admin has never filed itself anew as a user. -/
theorem manageable_run_iff (suite : Suite) (accessory : Accessory) (host : Host)
    (unpaired : accessory.isPaired = false) (events : List Event) :
    ((create accessory host).run suite events).registry.Manageable ↔
      ¬ History.Once
        (fun before event =>
          ((create accessory host).run suite before).DemotesOnlyAdmin suite event)
        events := by
  induction events using List.reverseRecOn with
  | nil =>
      exact iff_of_true (.inl (Accessory.isPaired_eq_false_iff.mp unpaired))
        History.not_once_nil
  | append_singleton events event ih =>
      rw [run_concat, History.once_concat, not_or, ← ih]
      by_cases manageable : ((create accessory host).run suite events).registry.Manageable
      · rw [manageable_step_iff manageable]
        exact (and_iff_right manageable).symm
      -- What has been lost earlier stays lost, and has been lost by such a step.
      · have exclusive := exclusive_run suite accessory host events
        exact iff_of_false (not_manageable_step exclusive manageable event)
          fun both => manageable both.1

/-- A controller pairs, verifies, and files itself anew as a user. -/
def selfDemotion : List Event :=
  .connect :: (Event.pairing 0 "C" Block.zero ++ Event.verification 0 "C" ++
    [Event.management 0 (.add "C" Block.zero .user)])

instance (registry : Registry) : Decidable registry.Manageable :=
  inferInstanceAs (Decidable (_ ∨ _))

/-- After that the lamp is lost, and it is the last step that has lost it. -/
theorem once_demoted_of_selfDemotion :
    Accessory.lamp.isPaired = false ∧
      ¬ ((create .lamp .quiet).run .transparent selfDemotion).registry.Manageable ∧
      History.Once
        (fun before event =>
          ((create .lamp .quiet).run .transparent before).DemotesOnlyAdmin .transparent event)
        selfDemotion := by
  have lost : ¬ ((create .lamp .quiet).run .transparent selfDemotion).registry.Manageable := by
    decide +kernel
  have fresh : Accessory.lamp.isPaired = false := by decide
  refine ⟨fresh, lost, ?_⟩
  by_contra never
  exact lost ((manageable_run_iff .transparent .lamp .quiet fresh selfDemotion).mpr never)

/-- So not every run of a fresh accessory leaves something that can be managed. -/
theorem exists_not_manageable_run :
    ¬ ∀ (suite : Suite) (slot : Nat) (config : Config) (identity : Identity) (store : Store)
      (accessory : Accessory) (host : Host) (events : List Event),
      Accessory.create slot config identity store = .ok accessory →
      accessory.isPaired = false →
      ((create accessory host).run suite events).registry.Manageable := by
  intro always
  have manageable := always .transparent 0 Accessory.lamp.config Accessory.lamp.identity
    Accessory.lamp.store .lamp .quiet selfDemotion rfl rfl
  exact absurd manageable (by decide +kernel)

end HomePairing.World
