import HomePairing.Proofs.Runs.History
import HomePairing.Proofs.Runs.Records

/-!
# Whom a connection is verified for

A connection gets its controller from the last request of a Pair-Verify, and from nothing
else (`World.verifiedAs_step`). So a connection that is verified for a controller has
completed a Pair-Verify for it (`once_verified`), and the record it holds is the one that
was filed at that moment.
-/

namespace HomePairing.World

variable (suite : Suite)

/-- The request completes a Pair-Verify: the controller whose proof it carries is paired,
and the proof holds under the filed key. -/
def Verifies (world : World) (i : Nat) (controller : PairingRecord) (event : Event) : Prop :=
  ∃ body connection pending sealed,
    event = .request i .pairVerify body ∧
    world.hub.find? i = some connection ∧
    connection.state.isClosed = false ∧
    connection.session = none ∧
    connection.verify = .awaitingFinish pending ∧
    VerifyRequest.parse body = .ok (.finish sealed) ∧
    VerifyStage.openProof suite world.accessory.store pending sealed = .ok controller

variable {suite} {world : World}

/-- A controller that is there after a step was there before it, or the step has verified
it. -/
theorem verifiedAs_step {event : Event} {i : Nat} {controller : PairingRecord}
    (after : (world.step suite event).verifiedAs i = some controller) :
    world.verifiedAs i = some controller ∨ world.Verifies suite i controller event := by
  have change := world.change_step suite event
  unfold verifiedAs at after
  generalize (world.step suite event).hub = hub at change after
  cases change with
  | missed _ => exact .inl after
  | connected =>
      rw [Hub.view_connect_blank rfl] at after
      exact .inl after
  | dropped found =>
      have after := (Hub.view_set found none i).symm.trans after
      split at after
      · cases after
      · exact .inl after
  | closed found => exact .inl ((Hub.view_set_same found (by rfl) i).symm.trans after)
  | setup found _ _ _ => exact .inl ((Hub.view_put_same found (by rfl) i).symm.trans after)
  | verifying found _ _ => exact .inl ((Hub.view_put_same found (by rfl) i).symm.trans after)
  | @verified j body connection pending sealed verified found isOpen fresh waiting parsed opened =>
      rw [Hub.view_put found] at after
      split at after
      · next here =>
          cases after
          subst here
          exact .inr ⟨body, connection, pending, sealed, rfl, found, isOpen, fresh, waiting,
            parsed, opened⟩
      · exact .inl after
  | managed found _ _ _ _ => exact .inl ((Hub.view_put_same found (by rfl) i).symm.trans after)
  | carried _ found _ _ => exact .inl ((Hub.view_set_same found (by rfl) i).symm.trans after)

/-- Verifying leaves the records alone, and the verified one is among them. -/
theorem Verifies.filed {i : Nat} {controller : PairingRecord} {event : Event}
    (h : world.Verifies suite i controller event) :
    (∃ id, world.registry.find? id = some controller) ∧
      (world.step suite event).registry = world.registry := by
  obtain ⟨body, _, pending, sealed, rfl, _, _, _, _, _, opened⟩ := h
  refine ⟨VerifyStage.exists_filed_of_openProof opened, ?_⟩
  have filing := world.filing_step suite (.request i .pairVerify body)
  generalize (world.step suite (.request i .pairVerify body)).registry = after at filing
  cases filing with
  | kept _ => rfl

/-- A connection that is verified for a controller has completed a Pair-Verify for it. -/
theorem once_verified (suite : Suite) (accessory : Accessory) (host : Host)
    (events : List Event) {i : Nat} {controller : PairingRecord}
    (verified : ((create accessory host).run suite events).verifiedAs i = some controller) :
    History.Once
      (fun before event =>
        ((create accessory host).run suite before).Verifies suite i controller event)
      events := by
  induction events using List.reverseRecOn with
  | nil => cases verified
  | append_singleton events event ih =>
      rw [run_concat] at verified
      rcases verifiedAs_step verified with before | now
      · exact (ih before).concat event
      · exact History.once_concat.mpr (.inr now)

end HomePairing.World
