import HomePairing.Proofs.Requests.Management

/-!
# What a Pair-Setup request does

`SetupStage.Effect` lists the five things that can come of a Pair-Setup request, each
with what was checked for it: it is refused, for one of the reasons in `Refused`, it starts
an exchange, it proves the setup code, it fails to prove it, or it makes a pairing.
`effect_attempt` says the list is complete. Wrong proofs count for the limit on guesses and
have a name of their own: `provesWrong` is the proof that was looked at and does not hold.
-/

namespace HomePairing

namespace Accessory

variable (accessory : Accessory)

@[simp] theorem registry_release (lease : Lease) :
    (accessory.release lease).registry = accessory.registry := by
  unfold release
  split <;> rfl

@[simp] theorem registry_releaseAll (lease? : Option Lease) :
    (accessory.releaseAll lease?).registry = accessory.registry := by
  cases lease? with
  | none => rfl
  | some lease => exact accessory.registry_release lease

/-- Giving a lease back can only free the slot. -/
theorem releaseAll_eq (lease? : Option Lease) :
    accessory.releaseAll lease? =
      { accessory with
        setupInProgress := (accessory.releaseAll lease?).setupInProgress } := by
  cases lease? with
  | none => rfl
  | some lease =>
      simp only [releaseAll, release]
      split <;> rfl

/-- A lease of this very slot frees it. -/
theorem setupInProgress_release {accessory : Accessory} {lease : Lease}
    (own : lease.slot = accessory.slot) :
    (accessory.release lease).setupInProgress = false := by
  rw [release, if_pos own]

theorem store_releaseAll (lease? : Option Lease) :
    (accessory.releaseAll lease?).store = accessory.store := by
  rw [releaseAll_eq]

theorem config_releaseAll (lease? : Option Lease) :
    (accessory.releaseAll lease?).config = accessory.config := by
  rw [releaseAll_eq]

theorem identity_releaseAll (lease? : Option Lease) :
    (accessory.releaseAll lease?).identity = accessory.identity := by
  rw [releaseAll_eq]

theorem failedAttempts_releaseAll (lease? : Option Lease) :
    (accessory.releaseAll lease?).failedAttempts = accessory.failedAttempts := by
  rw [releaseAll_eq]

theorem isPaired_releaseAll (lease? : Option Lease) :
    (accessory.releaseAll lease?).isPaired = accessory.isPaired := by
  rw [releaseAll_eq]
  rfl

theorem isLockedOut_releaseAll (lease? : Option Lease) :
    (accessory.releaseAll lease?).isLockedOut = accessory.isLockedOut := by
  rw [releaseAll_eq]
  rfl

/-- The slot is taken as it was before the own lease went back. -/
theorem tryBeginSetup_releaseAll {lease? : Option Lease}
    (free : (accessory.releaseAll lease?).setupInProgress = false) :
    (accessory.releaseAll lease?).tryBeginSetup =
      some (⟨accessory.slot⟩, { accessory with setupInProgress := true }) := by
  unfold tryBeginSetup
  rw [if_neg (by simp [free]), releaseAll_eq]

/-- The accessory after a Pair-Setup: the controller is its admin, the count of failed
proofs starts over, and the lease is back. -/
def pairedWith (payload : SetupPayload) (lease : Lease) : Accessory :=
  (accessory.withRegistry (accessory.registry.insert payload.id
    (accessory.recordOf payload.id payload.publicKey .admin))).resetFailures.release lease

@[simp] theorem store_pairedWith (payload : SetupPayload) (lease : Lease) :
    (accessory.pairedWith payload lease).store =
      accessory.store.withRegistry (accessory.registry.insert payload.id
        (accessory.recordOf payload.id payload.publicKey .admin)) := by
  unfold pairedWith release
  split <;> rfl

@[simp] theorem registry_pairedWith (payload : SetupPayload) (lease : Lease) :
    (accessory.pairedWith payload lease).registry =
      accessory.registry.insert payload.id
        (accessory.recordOf payload.id payload.publicKey .admin) :=
  (congrArg Store.registry (accessory.store_pairedWith payload lease)).trans
    (Store.registry_withRegistry _ _)

@[simp] theorem config_pairedWith (payload : SetupPayload) (lease : Lease) :
    (accessory.pairedWith payload lease).config = accessory.config := by
  unfold pairedWith release
  split <;> rfl

@[simp] theorem identity_pairedWith (payload : SetupPayload) (lease : Lease) :
    (accessory.pairedWith payload lease).identity = accessory.identity := by
  unfold pairedWith release
  split <;> rfl

@[simp] theorem failedAttempts_pairedWith (payload : SetupPayload) (lease : Lease) :
    (accessory.pairedWith payload lease).failedAttempts = 0 := by
  unfold pairedWith release
  split <;> rfl

end Accessory

/-! ## Signatures -/

namespace Suite

theorem eq_of_parsePublic {suite : Suite} {key parsed : Key}
    (h : suite.parsePublic key = .ok parsed) : parsed = key := by
  unfold parsePublic at h
  split at h
  · cases h
    rfl
  · cases h

theorem ofBytes?_of_parseBlock {n : Nat} {bytes : Bytes} {block : Block n}
    (h : parseBlock n bytes = .ok block) : Block.ofBytes? bytes = some block := by
  unfold parseBlock at h
  split at h
  · next whole fits =>
      cases h
      exact fits
  · cases h

/-- A signature that was accepted has the right length and holds under the key. -/
theorem verify_of_checkSignature {suite : Suite} {publicKey : Key} {message bytes : Bytes}
    (h : suite.checkSignature publicKey message bytes = .ok ()) :
    ∃ signature, Block.ofBytes? bytes = some signature ∧
      suite.verify publicKey message signature = true := by
  unfold checkSignature at h
  obtain ⟨parsed, isPublic, rest⟩ := exists_of_bind_eq_ok h
  obtain ⟨signature, fits, checked⟩ := exists_of_bind_eq_ok rest
  have same := eq_of_parsePublic (eq_ok_of_mapError_eq_ok isPublic)
  refine ⟨signature, ofBytes?_of_parseBlock (eq_ok_of_mapError_eq_ok fits), ?_⟩
  subst same
  split at checked
  · next holds => exact holds
  · cases checked

end Suite

namespace SetupStage

variable (suite : Suite)

/-- The accessory's side of the password exchange over its own setup code. -/
def serverOf (config : Config) (salt : Block 16) (random : Block 32) : Srp.Server :=
  Srp.Server.start suite.srp
    (suite.srp.verifier setupUser (Bytes.ofString config.setupCode.text) salt.bytes)
    random.bytes

/-- Whether a request is a proof in an exchange under way, and is wrong. -/
def provesWrong (stage : SetupStage) (body : Bytes) : Bool :=
  match stage, SetupRequest.parse body with
  | awaitingProof server salt _, .ok (.prove publicKey proof) =>
    !(server.verifyClient suite.srp setupUser salt.bytes publicKey proof).isOk
  | _, _ => false

/-- Proofs are looked at in an exchange under way, and that holds the lease. -/
theorem exists_lease_of_provesWrong {suite : Suite} {stage : SetupStage} {body : Bytes}
    (wrong : stage.provesWrong suite body = true) : ∃ lease, stage.lease? = some lease := by
  cases stage with
  | awaitingProof server salt lease => exact ⟨lease, rfl⟩
  | awaitingStart => cases wrong
  | awaitingExchange sessionKey lease => exact ⟨lease, rfl⟩
  | done => cases wrong

/-- Why a request is refused, a wrong proof apart: it cannot be read, it is out of turn, the
accessory does not start an exchange, or the identity is not accepted or not filed. -/
inductive Refused (stage : SetupStage) (accessory : Accessory) (host : Host) (body : Bytes) :
    PairingError → Prop
  | malformed {e} :
      SetupRequest.parse body = .error e →
      Refused stage accessory host body e
  | outOfTurn {request} :
      SetupRequest.parse body = .ok request →
      request.state ≠ 1 →
      request.state ≠ stage.expectedState →
      Refused stage accessory host body (.unexpectedState stage.expectedState request.state)
  | unsupported {method} :
      SetupRequest.parse body = .ok (.start method) →
      method ≠ Method.pairSetup →
      Refused stage accessory host body (.unsupportedMethod method)
  | alreadyPaired :
      SetupRequest.parse body = .ok (.start Method.pairSetup) →
      accessory.isPaired = true →
      Refused stage accessory host body .alreadyPaired
  | lockedOut :
      SetupRequest.parse body = .ok (.start Method.pairSetup) →
      accessory.isPaired = false →
      accessory.isLockedOut = true →
      Refused stage accessory host body .maxTries
  | taken :
      SetupRequest.parse body = .ok (.start Method.pairSetup) →
      accessory.isPaired = false →
      accessory.isLockedOut = false →
      (accessory.releaseAll stage.lease?).setupInProgress = true →
      Refused stage accessory host body .busy
  | unaccepted {sessionKey lease sealed e} :
      stage = awaitingExchange sessionKey lease →
      SetupRequest.parse body = .ok (.exchange sealed) →
      openExchange suite sessionKey sealed = .error e →
      Refused stage accessory host body e
  | unfiled {sessionKey lease sealed payload e} :
      stage = awaitingExchange sessionKey lease →
      SetupRequest.parse body = .ok (.exchange sealed) →
      openExchange suite sessionKey sealed = .ok payload →
      (accessory.store.put host.disk
        (accessory.recordOf payload.id payload.publicKey .admin)).result = .error e →
      Refused stage accessory host body (.ofStore e)

/-- What a request leaves behind: the stage, the accessory and the answer. -/
inductive Effect (stage : SetupStage) (accessory : Accessory) (host : Host) (body : Bytes) :
    SetupStage → Accessory → Except PairingError Bytes → Prop
  /-- Refused: back to the first request, and the lease goes back. -/
  | refused {e} : stage.provesWrong suite body = false →
      Refused suite stage accessory host body e →
      Effect stage accessory host body awaitingStart (accessory.releaseAll stage.lease?)
        (.error e)
  /-- An exchange was started, with the lease that was free. -/
  | started {server salt random} :
      server = serverOf suite accessory.config salt random →
      SetupRequest.parse body = .ok (.start Method.pairSetup) →
      accessory.isPaired = false →
      accessory.isLockedOut = false →
      (accessory.releaseAll stage.lease?).setupInProgress = false →
      Effect stage accessory host body (awaitingProof server salt ⟨accessory.slot⟩)
        { accessory with setupInProgress := true }
        (.ok (startReply salt (server.publicKey suite.srp)))
  /-- The setup code was proved. -/
  | proved {server salt lease publicKey proof sessionKey serverProof} :
      stage = awaitingProof server salt lease →
      SetupRequest.parse body = .ok (.prove publicKey proof) →
      server.verifyClient suite.srp setupUser salt.bytes publicKey proof =
        .ok (sessionKey, serverProof) →
      Effect stage accessory host body (awaitingExchange sessionKey lease) accessory
        (.ok (proofReply serverProof))
  /-- The proof was wrong and has been counted; the lease goes back. -/
  | rejected : stage.provesWrong suite body = true →
      Effect stage accessory host body awaitingStart
        (accessory.recordFailure.releaseAll stage.lease?) (.error .authenticationFailed)
  /-- A pairing was made. -/
  | paired {sessionKey lease sealed payload} :
      stage = awaitingExchange sessionKey lease →
      SetupRequest.parse body = .ok (.exchange sealed) →
      openExchange suite sessionKey sealed = .ok payload →
      Effect stage accessory host body done (accessory.pairedWith payload lease)
        (.ok (exchangeReply (sealIdentity suite accessory.identity sessionKey)))

variable (stage : SetupStage) (accessory : Accessory) (host : Host) (body : Bytes)

theorem effect_start {method : UInt8} (parsed : SetupRequest.parse body = .ok (.start method)) :
    let outcome := start suite (accessory.releaseAll stage.lease?) host method
    Effect suite stage accessory host body outcome.stage outcome.accessory outcome.answer := by
  have unproved : stage.provesWrong suite body = false := by
    unfold provesWrong
    rw [parsed]
    cases stage <;> rfl
  simp only [start, Accessory.isPaired_releaseAll, Accessory.isLockedOut_releaseAll]
  by_cases supported : method = Method.pairSetup
  · subst supported
    rw [if_neg (by simp)]
    cases paired : accessory.isPaired with
    | true => exact .refused unproved (.alreadyPaired parsed paired)
    | false =>
        cases locked : accessory.isLockedOut with
        | true => exact .refused unproved (.lockedOut parsed paired locked)
        | false =>
            -- The slot is looked at after the session's own lease has gone back.
            cases busy : (accessory.releaseAll stage.lease?).setupInProgress with
            | true =>
                simp only [Accessory.tryBeginSetup, busy]
                exact .refused unproved (.taken parsed paired locked busy)
            | false =>
                simp only [accessory.tryBeginSetup_releaseAll busy]
                exact .started rfl parsed paired locked busy
  · rw [if_pos supported]
    exact .refused unproved (.unsupported parsed supported)

theorem effect_verifyProof {server : Srp.Server} {salt : Block 16} {lease : Lease}
    {publicKey proof : Bytes} (parsed : SetupRequest.parse body = .ok (.prove publicKey proof)) :
    let outcome := verifyProof suite accessory host server salt lease publicKey proof
    Effect suite (awaitingProof server salt lease) accessory host body
      outcome.stage outcome.accessory outcome.answer := by
  cases checked : server.verifyClient suite.srp setupUser salt.bytes publicKey proof with
  | ok result =>
      obtain ⟨sessionKey, serverProof⟩ := result
      simp only [verifyProof, checked]
      exact .proved rfl parsed checked
  | error refusal =>
      simp only [verifyProof, checked]
      exact .rejected (by simp [provesWrong, parsed, checked, Except.isOk, Except.toBool])

theorem effect_exchange {sessionKey sealed : Bytes} {lease : Lease}
    (parsed : SetupRequest.parse body = .ok (.exchange sealed)) :
    let outcome := exchange suite accessory host sessionKey lease sealed
    Effect suite (awaitingExchange sessionKey lease) accessory host body
      outcome.stage outcome.accessory outcome.answer := by
  have unproved : (awaitingExchange sessionKey lease).provesWrong suite body = false := rfl
  cases opened : openExchange suite sessionKey sealed with
  | error e =>
      simp only [exchange, opened]
      exact .refused unproved (.unaccepted rfl parsed opened)
  | ok payload =>
      have outcome := accessory.store.put_cases host.disk
        (accessory.recordOf payload.id payload.publicKey .admin)
      have record : adminRecord accessory payload =
          accessory.recordOf payload.id payload.publicKey .admin := rfl
      simp only [exchange, opened, Accessory.changeStore, record]
      rcases outcome with ⟨done, stored⟩ | ⟨e, failed, kept⟩
      -- Nothing can fail any more once the record is filed.
      · simp only [done, stored]
        exact .paired rfl parsed opened
      · simp only [failed, kept]
        exact .refused unproved (.unfiled rfl parsed opened failed)

/-- A request that is neither a first one nor the one that is waited for is no proof either. -/
theorem Effect.outOfTurn {suite : Suite} {stage : SetupStage} {accessory : Accessory}
    {host : Host} {body : Bytes} {request : SetupRequest}
    (parsed : SetupRequest.parse body = .ok request) (later : request.state ≠ 1)
    (unexpected : request.state ≠ stage.expectedState) :
    Effect suite stage accessory host body awaitingStart (accessory.releaseAll stage.lease?)
      (.error (.unexpectedState stage.expectedState request.state)) := by
  refine .refused ?_ (.outOfTurn parsed later unexpected)
  unfold provesWrong
  rw [parsed]
  split
  · next same =>
      cases same
      exact absurd rfl unexpected
  · rfl

/-- Every request has one of these effects. -/
theorem effect_attempt :
    Effect suite stage accessory host body (stage.attempt suite accessory host body).stage
      (stage.attempt suite accessory host body).accessory
      (stage.attempt suite accessory host body).answer := by
  unfold attempt
  cases parsed : SetupRequest.parse body with
  | error e =>
      refine .refused ?_ (.malformed parsed)
      unfold provesWrong
      rw [parsed]
      cases stage <;> rfl
  | ok request =>
      cases request with
      | start method =>
          -- A first request starts over from every stage.
          have effect := effect_start suite stage accessory host body parsed
          cases stage <;> exact effect
      | prove publicKey proof =>
          -- The other two are out of turn in every stage but their own.
          have later : (3 : UInt8) ≠ 1 := by decide
          cases stage with
          | awaitingProof server salt lease =>
              exact effect_verifyProof suite accessory host body parsed
          | awaitingStart => exact .outOfTurn parsed later later
          | awaitingExchange sessionKey lease =>
              exact .outOfTurn parsed later (by decide : (3 : UInt8) ≠ 5)
          | done => exact .outOfTurn parsed later later
      | exchange sealed =>
          have later : (5 : UInt8) ≠ 1 := by decide
          cases stage with
          | awaitingExchange sessionKey lease =>
              exact effect_exchange suite accessory host body parsed
          | awaitingProof server salt lease =>
              exact .outOfTurn parsed later (by decide : (5 : UInt8) ≠ 3)
          | awaitingStart => exact .outOfTurn parsed later later
          | done => exact .outOfTurn parsed later later

/-- An identity that was accepted was sealed under the agreed key, and signed under the
key that came with it. -/
theorem signed_of_openExchange {suite : Suite} {sessionKey sealed : Bytes}
    {payload : SetupPayload} (h : openExchange suite sessionKey sealed = .ok payload) :
    ∃ text signature,
      suite.openMessage (suite.derive .setupEncrypt sessionKey) .setup5 sealed = .ok text ∧
      SetupPayload.decode text = .ok payload ∧
      Block.ofBytes? payload.signature = some signature ∧
      suite.verify payload.publicKey
        (SetupPayload.signed suite .setupControllerSign sessionKey payload.id
          payload.publicKey) signature = true := by
  unfold openExchange at h
  obtain ⟨text, opened, rest⟩ := exists_of_bind_eq_ok h
  obtain ⟨decoded, read, rest⟩ := exists_of_bind_eq_ok rest
  obtain ⟨_, checked, done⟩ := exists_of_bind_eq_ok rest
  cases done
  obtain ⟨signature, fits, verified⟩ := Suite.verify_of_checkSignature checked
  exact ⟨text, signature, eq_ok_of_mapError_eq_ok opened, read, fits, verified⟩

/-! ## Replies -/

theorem stage_handle :
    (stage.handle suite accessory host body).stage =
      (stage.attempt suite accessory host body).stage := by
  simp only [handle]
  split <;> rfl

theorem accessory_handle :
    (stage.handle suite accessory host body).accessory =
      (stage.attempt suite accessory host body).accessory := by
  simp only [handle]
  split <;> rfl

variable {suite stage accessory body}

theorem Effect.not_isRefusal {next : SetupStage} {after : Accessory} {reply : Bytes}
    (effect : Effect suite stage accessory host body next after (.ok reply)) :
    ¬ Pairing.IsRefusal reply := by
  cases effect with
  | started _ _ _ _ _ => exact not_isRefusal_startReply _ _
  | proved _ _ _ => exact not_isRefusal_proofReply _
  | paired _ _ _ => exact not_isRefusal_exchangeReply _

/-- A request that went through was no wrong proof. -/
theorem Effect.provesWrong_eq_false {next : SetupStage} {after : Accessory} {reply : Bytes}
    (effect : Effect suite stage accessory host body next after (.ok reply)) :
    stage.provesWrong suite body = false := by
  cases effect with
  | started _ parsed _ _ _ =>
      unfold provesWrong
      rw [parsed]
      cases stage <;> rfl
  | proved waiting parsed checked =>
      subst waiting
      simp [provesWrong, parsed, checked, Except.isOk, Except.toBool]
  | paired waiting _ _ =>
      subst waiting
      rfl

theorem Effect.config_eq {next : SetupStage} {after : Accessory}
    {answer : Except PairingError Bytes}
    (effect : Effect suite stage accessory host body next after answer) :
    after.config = accessory.config := by
  cases effect with
  | refused _ _ => exact accessory.config_releaseAll _
  | started _ _ _ _ _ => rfl
  | proved _ _ _ => rfl
  | rejected _ => exact accessory.recordFailure.config_releaseAll _
  | paired _ _ _ => exact accessory.config_pairedWith _ _

theorem Effect.identity_eq {next : SetupStage} {after : Accessory}
    {answer : Except PairingError Bytes}
    (effect : Effect suite stage accessory host body next after answer) :
    after.identity = accessory.identity := by
  cases effect with
  | refused _ _ => exact accessory.identity_releaseAll _
  | started _ _ _ _ _ => rfl
  | proved _ _ _ => rfl
  | rejected _ => exact accessory.recordFailure.identity_releaseAll _
  | paired _ _ _ => exact accessory.identity_pairedWith _ _

/-- Of the store, a request changes nothing but the records. -/
theorem Effect.store_eq {next : SetupStage} {after : Accessory}
    {answer : Except PairingError Bytes}
    (effect : Effect suite stage accessory host body next after answer) :
    after.store = accessory.store.withRegistry after.registry := by
  have unchanged : accessory.store = accessory.store.withRegistry accessory.registry :=
    accessory.store.withRegistry_registry.symm
  cases effect with
  | refused _ _ =>
      rw [Accessory.registry_releaseAll, Accessory.store_releaseAll]
      exact unchanged
  | started _ _ _ _ _ => exact unchanged
  | proved _ _ _ => exact unchanged
  | rejected _ =>
      rw [Accessory.registry_releaseAll, Accessory.store_releaseAll]
      exact unchanged
  | paired _ _ _ => rw [Accessory.registry_pairedWith, Accessory.store_pairedWith]

theorem answer_handle_of_ok {reply : Bytes}
    (answered : (stage.attempt suite accessory host body).answer = .ok reply) :
    (stage.handle suite accessory host body).answer = reply := by
  simp only [handle, answered]

theorem answer_handle_of_error {e : PairingError}
    (answered : (stage.attempt suite accessory host body).answer = .error e) :
    (stage.handle suite accessory host body).answer =
      Pairing.errorReply (Pairing.replyState body) e.code := by
  simp only [handle, answered]

/-- A reply is a refusal exactly if the request was refused. -/
theorem isRefusal_handle_iff :
    Pairing.IsRefusal (stage.handle suite accessory host body).answer ↔
      ∃ e, (stage.attempt suite accessory host body).answer = .error e := by
  have effect := effect_attempt suite stage accessory host body
  cases answered : (stage.attempt suite accessory host body).answer with
  | error e =>
      rw [answer_handle_of_error host answered]
      exact iff_of_true (Pairing.isRefusal_errorReply _ e.code) ⟨e, rfl⟩
  | ok reply =>
      rw [answered] at effect
      rw [answer_handle_of_ok host answered]
      exact iff_of_false effect.not_isRefusal (by simp)

/-- A controller that pairs was there before, or finds room. -/
theorem room_of_paired {sessionKey sealed : Bytes} {lease : Lease} {payload : SetupPayload}
    (waiting : stage = awaitingExchange sessionKey lease)
    (parsed : SetupRequest.parse body = .ok (.exchange sealed))
    (opened : openExchange suite sessionKey sealed = .ok payload)
    (accepted : (stage.attempt suite accessory host body).answer.isOk = true) :
    (accessory.registry.find? payload.id).isSome = true ∨
      accessory.registry.size < accessory.store.capacity := by
  simp only [waiting, attempt, parsed, process, exchange, opened] at accepted
  split at accepted
  · cases accepted
  · next done => exact Store.room_of_put (congrArg Prod.fst done)

/-- A request is read from a message of its own step. -/
theorem state_of_ofMessage {message : Tlv.Message} {state : UInt8} {request : SetupRequest}
    (read : SetupRequest.ofMessage message state = .ok request) : request.state = state := by
  unfold SetupRequest.ofMessage at read
  -- One case for each step that has requests, and one for all the others.
  split at read
  · next first =>
      cases read
      exact first.symm
  · split at read
    · next second =>
        obtain ⟨publicKey, _, read⟩ := exists_of_bind_eq_ok read
        obtain ⟨proof, _, read⟩ := exists_of_bind_eq_ok read
        cases read
        exact second.symm
    · split at read
      · next third =>
          obtain ⟨sealed, _, read⟩ := exists_of_bind_eq_ok read
          cases read
          exact third.symm
      · cases read

/-- The reply to a request that can be read belongs to the step after the request's. -/
theorem replyState_of_parse {request : SetupRequest}
    (parsed : SetupRequest.parse body = .ok request) :
    Pairing.replyState body = Pairing.nextState request.state := by
  obtain ⟨message, state, read, replied⟩ := Pairing.replyState_of_read parsed
  rw [state_of_ofMessage read, replied]

/-- At a free slot, with nobody paired and not too many proofs failed, a first request
starts an exchange from every stage, over a salt and a secret that are drawn for it. -/
theorem attempt_of_free (stage : SetupStage)
    (parsed : SetupRequest.parse body = .ok (.start Method.pairSetup))
    (unpaired : accessory.isPaired = false) (unlocked : accessory.isLockedOut = false)
    (free : (accessory.releaseAll stage.lease?).setupInProgress = false) :
    let salted := host.draw 16
    let drawn := salted.2.draw 32
    let server := serverOf suite accessory.config salted.1 drawn.1
    stage.attempt suite accessory host body =
      { stage := awaitingProof server salted.1 ⟨accessory.slot⟩
        accessory := { accessory with setupInProgress := true }
        host := drawn.2
        answer := .ok (startReply salted.1 (server.publicKey suite.srp)) } := by
  intro salted drawn server
  have begun := accessory.tryBeginSetup_releaseAll free
  rw [attempt, parsed]
  show process suite stage accessory host (.start Method.pairSetup) = _
  rw [process]
  simp only [start, Accessory.isPaired_releaseAll, Accessory.isLockedOut_releaseAll, unpaired,
    unlocked, begun, ne_eq, not_true_eq_false, if_false, Bool.false_eq_true]
  rfl

/-- While somebody else holds the slot, a first request is answered with just that. -/
theorem answer_handle_of_taken
    (parsed : SetupRequest.parse body = .ok (.start Method.pairSetup))
    (unpaired : accessory.isPaired = false) (unlocked : accessory.isLockedOut = false)
    (taken : (accessory.releaseAll stage.lease?).setupInProgress = true) :
    (stage.handle suite accessory host body).answer =
      Pairing.errorReply 2 ErrorCode.busy := by
  have refused : (stage.attempt suite accessory host body).answer = .error .busy := by
    simp only [attempt, parsed]
    cases stage <;>
      simp [process, start, Accessory.isPaired_releaseAll, Accessory.isLockedOut_releaseAll,
        unpaired, unlocked, Accessory.tryBeginSetup, taken, refuse]
  rw [answer_handle_of_error host refused, replyState_of_parse parsed]
  rfl

/-- Once too many proofs have failed, a first request is answered with just that, unless
somebody is paired. -/
theorem answer_handle_of_locked
    (parsed : SetupRequest.parse body = .ok (.start Method.pairSetup))
    (unpaired : accessory.isPaired = false) (locked : accessory.isLockedOut = true) :
    (stage.handle suite accessory host body).answer =
      Pairing.errorReply 2 ErrorCode.maxTries := by
  have refused : (stage.attempt suite accessory host body).answer = .error .maxTries := by
    simp only [attempt, parsed]
    cases stage <;>
      simp [process, start, Accessory.isPaired_releaseAll, Accessory.isLockedOut_releaseAll,
        unpaired, locked, refuse]
  rw [answer_handle_of_error host refused, replyState_of_parse parsed]
  rfl

end SetupStage

end HomePairing
