import HomePairing.Proofs.Requests.Setup

/-!
# What a Pair-Verify request does

`VerifyStage.Effect` lists what can come of a Pair-Verify request: it is refused, it
starts an agreement, or it verifies a controller. `effect_attempt` says the list is
complete. `signed_of_openProof` says what a verified controller has shown: a signature over
this very agreement, under the key that the store holds at that moment.
-/

namespace HomePairing

namespace VerifyStage

variable (suite : Suite)

/-- What a request leaves behind: the stage and the answer. -/
inductive Effect (stage : VerifyStage) (accessory : Accessory) (host : Host) (body : Bytes) :
    VerifyStage → Except PairingError VerifyStep → Prop
  /-- Refused: back to the first request. -/
  | refused {e} : Effect stage accessory host body awaitingStart (.error e)
  /-- An agreement was started, over a secret that was drawn for it. -/
  | started {secret publicKey} :
      secret = (host.draw 32).1 →
      VerifyRequest.parse body = .ok (.start publicKey) →
      (agreement suite secret publicKey).sharedSecret ≠ Block.zero →
      Effect stage accessory host body (awaitingFinish (agreement suite secret publicKey))
        (.ok (.respond (startReply (suite.agreementPublic secret)
          (sealProof suite accessory.identity (agreement suite secret publicKey)))))
  /-- A controller was verified. -/
  | verified {pending sealed controller} :
      stage = awaitingFinish pending →
      VerifyRequest.parse body = .ok (.finish sealed) →
      openProof suite accessory.store pending sealed = .ok controller →
      Effect stage accessory host body done
        (.ok (.verified finishReply controller
          (SessionKeys.derive suite pending.sharedSecret.bytes)))

/-- Every request has one of these effects. -/
theorem effect_attempt (stage : VerifyStage) (accessory : Accessory) (host : Host)
    (body : Bytes) :
    Effect suite stage accessory host body (stage.attempt suite accessory host body).stage
      (stage.attempt suite accessory host body).answer := by
  unfold attempt
  cases parsed : VerifyRequest.parse body with
  | error e => exact .refused
  | ok request =>
      cases request with
      | start publicKey =>
          -- A first request starts over from every stage.
          have processed : stage.process suite accessory host (.start publicKey) =
              start suite accessory.identity host publicKey := by
            cases stage <;> rfl
          simp only [processed, start]
          by_cases degenerate :
              (agreement suite (host.draw 32).1 publicKey).sharedSecret = Block.zero
          · rw [if_pos degenerate]
            exact .refused
          · rw [if_neg degenerate]
            exact .started rfl parsed degenerate
      | finish sealed =>
          -- A proof is looked at in an agreement under way, and nowhere else.
          cases stage with
          | awaitingFinish pending =>
              cases opened : openProof suite accessory.store pending sealed with
              | error e =>
                  simp only [process, finish, opened]
                  exact .refused
              | ok controller =>
                  simp only [process, finish, opened]
                  exact .verified rfl parsed opened
          | awaitingStart => exact .refused
          | done => exact .refused

/-- Where a proof is waited for, the request has started an agreement. -/
theorem started_of_awaitingFinish {suite : Suite} {stage : VerifyStage} {accessory : Accessory}
    {host : Host} {body : Bytes} {pending : PendingVerify}
    (h : (stage.attempt suite accessory host body).stage = awaitingFinish pending) :
    ∃ publicKey, VerifyRequest.parse body = .ok (.start publicKey) ∧
      (stage.attempt suite accessory host body).answer.isOk = true ∧
      pending = agreement suite (host.draw 32).1 publicKey := by
  have effect := effect_attempt suite stage accessory host body
  rw [h] at effect
  generalize (stage.attempt suite accessory host body).answer = answer at effect
  cases effect with
  | started own parsed _ => exact ⟨_, parsed, rfl, own ▸ rfl⟩

/-- A first request that is accepted starts an agreement over the secret drawn for it, and the
agreed secret is not zero. -/
theorem agreement_of_started {suite : Suite} {stage : VerifyStage} {accessory : Accessory}
    {host : Host} {body : Bytes} {publicKey : Key}
    (parsed : VerifyRequest.parse body = .ok (.start publicKey))
    (accepted : (stage.attempt suite accessory host body).answer.isOk = true) :
    (stage.attempt suite accessory host body).stage =
        awaitingFinish (agreement suite (host.draw 32).1 publicKey) ∧
      suite.agree (host.draw 32).1 publicKey ≠ Block.zero := by
  have effect := effect_attempt suite stage accessory host body
  generalize stage.attempt suite accessory host body = outcome at effect accepted
  obtain ⟨next, after, answer⟩ := outcome
  cases effect with
  | refused => cases accepted
  | started own first nonzero =>
      rw [parsed] at first
      cases first
      rw [own] at nonzero ⊢
      exact ⟨rfl, nonzero⟩
  | verified _ second _ =>
      rw [parsed] at second
      cases second

theorem stage_handle (stage : VerifyStage) (accessory : Accessory) (host : Host)
    (body : Bytes) :
    (stage.handle suite accessory host body).stage =
      (stage.attempt suite accessory host body).stage := by
  simp only [handle]
  split <;> rfl

variable {suite}

/-- A proof that was accepted was sealed under the agreed key, and signed for this
agreement under the key that is filed with the identifier in it. -/
theorem signed_of_openProof {store : Store} {pending : PendingVerify} {sealed : Bytes}
    {controller : PairingRecord} (h : openProof suite store pending sealed = .ok controller) :
    ∃ text payload signature,
      suite.openMessage pending.encryptKey .verify3 sealed = .ok text ∧
      VerifyPayload.decode text = .ok payload ∧
      store.find? payload.id = some controller ∧
      Block.ofBytes? payload.signature = some signature ∧
      suite.verify controller.publicKey
        (VerifyPayload.signed pending.controllerPublic payload.id pending.accessoryPublic)
        signature = true := by
  unfold openProof at h
  obtain ⟨text, opened, h⟩ := exists_of_bind_eq_ok h
  obtain ⟨payload, read, h⟩ := exists_of_bind_eq_ok h
  cases found : store.find? payload.id with
  | none =>
      simp only [found] at h
      cases h
  | some record =>
      simp only [found] at h
      obtain ⟨_, checked, h⟩ := exists_of_bind_eq_ok h
      cases h
      obtain ⟨signature, fits, verified⟩ := Suite.verify_of_checkSignature checked
      exact ⟨text, payload, signature, eq_ok_of_mapError_eq_ok opened, read, found, fits,
        verified⟩

/-- A verified controller is one whose record the store holds. -/
theorem exists_filed_of_openProof {store : Store} {pending : PendingVerify} {sealed : Bytes}
    {controller : PairingRecord} (h : openProof suite store pending sealed = .ok controller) :
    ∃ id, store.registry.find? id = some controller := by
  obtain ⟨_, payload, _, _, _, found, _, _⟩ := signed_of_openProof h
  exact ⟨payload.id, found⟩

/-- Only an answer to a verified controller says so. -/
theorem verified_of_handle {stage : VerifyStage} {accessory : Accessory} {host : Host}
    {body reply : Bytes} {controller : PairingRecord} {keys : SessionKeys}
    (h : (stage.handle suite accessory host body).answer = .verified reply controller keys) :
    (stage.attempt suite accessory host body).answer = .ok (.verified reply controller keys) := by
  simp only [handle] at h
  split at h
  · next step answered => exact answered.trans (congrArg Except.ok h)
  · cases h

/-! ## Replies -/

variable {stage : VerifyStage} {accessory : Accessory} {host : Host} {body : Bytes}

theorem Effect.not_isRefusal {next : VerifyStage} {step : VerifyStep}
    (effect : Effect suite stage accessory host body next (.ok step)) :
    ¬ Pairing.IsRefusal step.body := by
  cases effect with
  | started _ _ _ => exact not_isRefusal_startReply _ _
  | verified _ _ _ => exact not_isRefusal_finishReply

/-- A reply is a refusal exactly if the request was refused. -/
theorem isRefusal_handle_iff :
    Pairing.IsRefusal (stage.handle suite accessory host body).answer.body ↔
      ∃ e, (stage.attempt suite accessory host body).answer = .error e := by
  have effect := effect_attempt suite stage accessory host body
  cases answered : (stage.attempt suite accessory host body).answer with
  | error e =>
      simp only [handle, answered]
      exact iff_of_true (Pairing.isRefusal_errorReply _ e.code) ⟨e, rfl⟩
  | ok step =>
      rw [answered] at effect
      simp only [handle, answered]
      exact iff_of_false effect.not_isRefusal (by simp)

/-- A request is read from a message of its own step. -/
theorem state_of_ofMessage {message : Tlv.Message} {state : UInt8} {request : VerifyRequest}
    (read : VerifyRequest.ofMessage message state = .ok request) : request.state = state := by
  unfold VerifyRequest.ofMessage at read
  split at read
  · next first =>
      obtain ⟨publicKey, _, read⟩ := exists_of_bind_eq_ok read
      cases read
      exact first.symm
  · split at read
    · next second =>
        obtain ⟨sealed, _, read⟩ := exists_of_bind_eq_ok read
        cases read
        exact second.symm
    · cases read

/-- The reply to a request that can be read belongs to the step after the request's. -/
theorem replyState_of_parse {request : VerifyRequest}
    (parsed : VerifyRequest.parse body = .ok request) :
    Pairing.replyState body = Pairing.nextState request.state := by
  obtain ⟨message, state, read, replied⟩ := Pairing.replyState_of_read parsed
  rw [state_of_ofMessage read, replied]

/-- A first request starts an agreement at any stage, unless the secret would be zero. -/
theorem attempt_start (stage : VerifyStage) {publicKey : Key}
    (parsed : VerifyRequest.parse body = .ok (.start publicKey))
    (nonzero : suite.agree (host.draw 32).1 publicKey ≠ Block.zero) :
    let pending := agreement suite (host.draw 32).1 publicKey
    stage.attempt suite accessory host body =
      { stage := awaitingFinish pending
        host := (host.draw 32).2
        answer := .ok (.respond (startReply pending.accessoryPublic
          (sealProof suite accessory.identity pending))) } := by
  intro pending
  have processed : stage.process suite accessory host (.start publicKey) =
      start suite accessory.identity host publicKey := by
    cases stage <;> rfl
  have secret : pending.sharedSecret ≠ Block.zero := nonzero
  simp only [attempt, parsed, processed, start]
  exact if_neg secret

/-- A proof in the agreement that is under way is checked against that agreement. -/
theorem attempt_finish {pending : PendingVerify} {sealed : Bytes} {controller : PairingRecord}
    (parsed : VerifyRequest.parse body = .ok (.finish sealed))
    (opened : openProof suite accessory.store pending sealed = .ok controller) :
    (awaitingFinish pending).attempt suite accessory host body =
      { stage := done
        host := host
        answer := .ok (.verified finishReply controller
          (SessionKeys.derive suite pending.sharedSecret.bytes)) } := by
  simp only [attempt, parsed, process, finish, opened]

/-- It goes through exactly if the proof is accepted. -/
theorem isOk_attempt_finish {pending : PendingVerify} {sealed : Bytes}
    (parsed : VerifyRequest.parse body = .ok (.finish sealed)) :
    ((awaitingFinish pending).attempt suite accessory host body).answer.isOk = true ↔
      ∃ controller, openProof suite accessory.store pending sealed = .ok controller := by
  cases opened : openProof suite accessory.store pending sealed with
  | error e =>
      simp [attempt, parsed, process, finish, opened, refuse, Except.isOk, Except.toBool]
  | ok controller =>
      rw [attempt_finish parsed opened]
      exact iff_of_true rfl ⟨controller, rfl⟩

end VerifyStage

end HomePairing
