import HomePairing.Proofs.Connection.Replies

/-!
# Rejections that look alike

Three requests can be read and still be rejected for what they carry: the proof of the setup
code, the controller's identity, and the controller's proof in Pair-Verify. There are many
things that can be wrong with each (`Connection.Flawed`), and they are all told in the same
bytes (`Connection.answer_of_rejects`). So a reply does not say which check failed, nor
anything about the accessory: not its code, not its identity, not whom it knows.

This needs one fact about whole lives: a connection with a session waits for no proof
(`Connection.settled_run`), so a proof is never answered as a second Pair-Verify.
-/

namespace HomePairing

/-! ## What can be wrong -/

/-- Why a client's proof is not accepted: its public value is a multiple of the modulus, the
scrambling parameter is zero, or it is not the proof of whoever knows the password. -/
inductive Srp.Server.Unproved (scheme : Scheme) (server : Server)
    (user salt clientKey proof : Bytes) : Prop
  | publicValue : Bytes.toNatBE clientKey % scheme.modulus = 0 →
      Unproved scheme server user salt clientKey proof
  | scrambling : scheme.scrambling clientKey (server.publicKey scheme) = 0 →
      Unproved scheme server user salt clientKey proof
  | wrong {u base} : u = scheme.scrambling clientKey (server.publicKey scheme) →
      base = Bytes.toNatBE clientKey * scheme.pow server.verifier u % scheme.modulus →
      scheme.clientProof user salt clientKey (server.publicKey scheme)
        (scheme.sessionKey (scheme.pow base server.exponent)) ≠ proof →
      Unproved scheme server user salt clientKey proof

theorem Srp.Server.verifyClient_eq_error_iff {scheme : Scheme} {server : Server}
    {user salt clientKey proof : Bytes} :
    (∃ refusal, server.verifyClient scheme user salt clientKey proof = .error refusal) ↔
      server.Unproved scheme user salt clientKey proof := by
  constructor
  · rintro ⟨refusal, failed⟩
    simp only [verifyClient] at failed
    split at failed
    · next multiple => exact .publicValue multiple
    · split at failed
      · next zero => exact .scrambling zero
      · split at failed
        · cases failed
        · next wrong => exact .wrong rfl rfl wrong
  · intro flaw
    simp only [verifyClient]
    split
    · exact ⟨_, rfl⟩
    · next proper =>
        split
        · exact ⟨_, rfl⟩
        · next scrambled =>
            cases flaw with
            | publicValue multiple => exact absurd multiple proper
            | scrambling zero => exact absurd zero scrambled
            | wrong parameter secret wrong =>
                subst parameter secret
                rw [if_neg wrong]
                exact ⟨_, rfl⟩

/-- Why a signature does not hold: the key cannot be used, the signature has not the length of
one, or it is not the key owner's. -/
inductive Suite.Unsigned (suite : Suite) (publicKey : Key) (message signature : Bytes) : Prop
  | unusable : suite.isSigningPublic publicKey = false →
      Unsigned suite publicKey message signature
  | misfit : suite.isSigningPublic publicKey = true →
      (Block.ofBytes? signature : Option Signature) = none →
      Unsigned suite publicKey message signature
  | wrong {fitting : Signature} : suite.isSigningPublic publicKey = true →
      Block.ofBytes? signature = some fitting →
      suite.verify publicKey message fitting = false →
      Unsigned suite publicKey message signature

theorem Suite.checkSignature_eq_error_iff {suite : Suite} {publicKey : Key}
    {message signature : Bytes} :
    (∃ e, suite.checkSignature publicKey message signature = .error e) ↔
      suite.Unsigned publicKey message signature := by
  constructor
  · rintro ⟨e, failed⟩
    unfold checkSignature parsePublic parseBlock at failed
    cases usable : suite.isSigningPublic publicKey with
    | false => exact .unusable usable
    | true =>
        rw [usable, if_pos rfl, mapError_ok, ok_bind] at failed
        cases fits : (Block.ofBytes? signature : Option Signature) with
        | none => exact .misfit usable fits
        | some fitting =>
            simp only [fits, mapError_ok, ok_bind] at failed
            split at failed
            · cases failed
            · next wrong => exact .wrong usable fits (Bool.eq_false_iff.mpr wrong)
  · intro flaw
    unfold checkSignature parsePublic parseBlock
    cases flaw with
    | unusable unusable =>
        rw [unusable]
        exact ⟨_, rfl⟩
    | misfit usable misfit =>
        rw [usable, misfit]
        exact ⟨_, rfl⟩
    | wrong usable fits wrong =>
        simp only [usable, if_true, mapError_ok, ok_bind, fits, wrong]
        exact ⟨_, rfl⟩

/-- Why a sealed identity is not accepted: it does not open, it cannot be read, or its
signature does not hold under the key in it. -/
inductive SetupStage.Unaccepted (suite : Suite) (sessionKey sealed : Bytes) : Prop
  | unopened {cause} :
      suite.openMessage (suite.derive .setupEncrypt sessionKey) .setup5 sealed =
        .error cause →
      Unaccepted suite sessionKey sealed
  | malformed {text e} :
      suite.openMessage (suite.derive .setupEncrypt sessionKey) .setup5 sealed = .ok text →
      SetupPayload.decode text = .error e →
      Unaccepted suite sessionKey sealed
  | unsigned {text payload} :
      suite.openMessage (suite.derive .setupEncrypt sessionKey) .setup5 sealed = .ok text →
      SetupPayload.decode text = .ok payload →
      suite.Unsigned payload.publicKey
        (SetupPayload.signed suite .setupControllerSign sessionKey payload.id
          payload.publicKey) payload.signature →
      Unaccepted suite sessionKey sealed

theorem SetupStage.openExchange_eq_error_iff {suite : Suite} {sessionKey sealed : Bytes} :
    (∃ e, openExchange suite sessionKey sealed = .error e) ↔
      Unaccepted suite sessionKey sealed := by
  constructor
  · rintro ⟨e, failed⟩
    unfold openExchange at failed
    rcases eq_error_of_bind_eq_error failed with unopened | ⟨text, opened, failed⟩
    · obtain ⟨cause, unopened, _⟩ := exists_of_mapError_eq_error unopened
      exact .unopened unopened
    · have opened := eq_ok_of_mapError_eq_ok opened
      rcases eq_error_of_bind_eq_error failed with unread | ⟨payload, read, failed⟩
      · exact .malformed opened unread
      · rcases eq_error_of_bind_eq_error failed with unsigned | ⟨_, _, failed⟩
        · exact .unsigned opened read (Suite.checkSignature_eq_error_iff.mp ⟨e, unsigned⟩)
        · cases failed
  · intro flaw
    unfold openExchange
    cases flaw with
    | unopened unopened =>
        simp only [unopened]
        exact ⟨_, rfl⟩
    | malformed opened unread =>
        simp only [opened, mapError_ok, ok_bind, unread]
        exact ⟨_, rfl⟩
    | unsigned opened read unsigned =>
        obtain ⟨e, failed⟩ := Suite.checkSignature_eq_error_iff.mpr unsigned
        simp only [opened, mapError_ok, ok_bind, read, failed]
        exact ⟨e, rfl⟩

/-- Why a controller's proof is not accepted: it does not open, it cannot be read, nobody is
known by the name in it, or its signature does not hold under the key that is filed. -/
inductive VerifyStage.Unproved (suite : Suite) (store : Store) (pending : PendingVerify)
    (sealed : Bytes) : Prop
  | unopened {cause} :
      suite.openMessage pending.encryptKey .verify3 sealed = .error cause →
      Unproved suite store pending sealed
  | malformed {text e} :
      suite.openMessage pending.encryptKey .verify3 sealed = .ok text →
      VerifyPayload.decode text = .error e →
      Unproved suite store pending sealed
  | unknown {text payload} :
      suite.openMessage pending.encryptKey .verify3 sealed = .ok text →
      VerifyPayload.decode text = .ok payload →
      store.find? payload.id = none →
      Unproved suite store pending sealed
  | unsigned {text payload controller} :
      suite.openMessage pending.encryptKey .verify3 sealed = .ok text →
      VerifyPayload.decode text = .ok payload →
      store.find? payload.id = some controller →
      suite.Unsigned controller.publicKey
        (VerifyPayload.signed pending.controllerPublic payload.id pending.accessoryPublic)
        payload.signature →
      Unproved suite store pending sealed

theorem VerifyStage.openProof_eq_error_iff {suite : Suite} {store : Store}
    {pending : PendingVerify} {sealed : Bytes} :
    (∃ e, openProof suite store pending sealed = .error e) ↔
      Unproved suite store pending sealed := by
  constructor
  · rintro ⟨e, failed⟩
    unfold openProof at failed
    rcases eq_error_of_bind_eq_error failed with unopened | ⟨text, opened, failed⟩
    · obtain ⟨cause, unopened, _⟩ := exists_of_mapError_eq_error unopened
      exact .unopened unopened
    · have opened := eq_ok_of_mapError_eq_ok opened
      rcases eq_error_of_bind_eq_error failed with unread | ⟨payload, read, failed⟩
      · exact .malformed opened unread
      · cases found : store.find? payload.id with
        | none => exact .unknown opened read found
        | some controller =>
            simp only [found] at failed
            rcases eq_error_of_bind_eq_error failed with unsigned | ⟨_, _, failed⟩
            · exact .unsigned opened read found
                (Suite.checkSignature_eq_error_iff.mp ⟨e, unsigned⟩)
            · cases failed
  · intro flaw
    unfold openProof
    cases flaw with
    | unopened unopened =>
        simp only [unopened]
        exact ⟨_, rfl⟩
    | malformed opened unread =>
        simp only [opened, mapError_ok, ok_bind, unread]
        exact ⟨_, rfl⟩
    | unknown opened read unknown =>
        simp only [opened, mapError_ok, ok_bind, read, unknown]
        exact ⟨_, rfl⟩
    | unsigned opened read found unsigned =>
        obtain ⟨e, failed⟩ := Suite.checkSignature_eq_error_iff.mpr unsigned
        simp only [opened, mapError_ok, ok_bind, read, found, failed]
        exact ⟨e, rfl⟩

/-! ## What comes of it -/

namespace SetupStage

variable {suite : Suite} {accessory : Accessory} {host : Host} {e : PairingError}

theorem answer_verifyProof_eq_error_iff {server : Srp.Server} {salt : Block 16}
    {lease : Lease} {publicKey proof : Bytes} :
    (verifyProof suite accessory host server salt lease publicKey proof).answer = .error e ↔
      e = .authenticationFailed ∧
        server.Unproved suite.srp setupUser salt.bytes publicKey proof := by
  rw [← Srp.Server.verifyClient_eq_error_iff]
  unfold verifyProof
  cases server.verifyClient suite.srp setupUser salt.bytes publicKey proof with
  | ok result => simp
  | error refusal => simp [refuse, eq_comm]

/-- An exchange fails for the identity that was sent, or at the store. -/
theorem answer_exchange_eq_error {sessionKey sealed : Bytes} {lease : Lease}
    (failed : (exchange suite accessory host sessionKey lease sealed).answer = .error e) :
    openExchange suite sessionKey sealed = .error e ∨ ∃ cause, e = .ofStore cause := by
  unfold exchange at failed
  split at failed
  · next cause unaccepted =>
      cases failed
      exact .inl unaccepted
  · simp only at failed
    split at failed
    · next cause _ _ _ =>
        cases failed
        exact .inr ⟨cause, rfl⟩
    · cases failed

end SetupStage

theorem VerifyStage.answer_finish_eq_error_iff {suite : Suite} {store : Store} {host : Host}
    {pending : PendingVerify} {sealed : Bytes} {e : PairingError} :
    (finish suite store host pending sealed).answer = .error e ↔
      openProof suite store pending sealed = .error e := by
  unfold finish
  cases openProof suite store pending sealed with
  | ok controller => simp
  | error cause => simp [refuse]

/-- No refusal of a store is a cryptographic failure. -/
theorem PairingError.ne_ofStore_of_crypto {e : PairingError} (kind : e.kind = .crypto)
    (cause : StoreError) : e ≠ ofStore cause := by
  rintro rfl
  cases cause <;> cases kind

/-! ## Connections that wait -/

namespace Connection

/-- A connection with a session waits for no proof in Pair-Verify. -/
def Settled (connection : Connection) : Prop :=
  connection.session.isSome = true → ∀ pending, connection.verify ≠ .awaitingFinish pending

theorem Settled.of_same {connection next : Connection} (settled : connection.Settled)
    (session : next.session.isSome = true → connection.session.isSome = true)
    (verify : next.verify = connection.verify) : next.Settled := by
  intro held pending
  rw [verify]
  exact settled (session held) pending

variable {suite : Suite} {connection : Connection}

theorem settled_handleVerify (settled : connection.Settled) (accessory : Accessory)
    (host : Host) (body : Bytes) :
    (connection.handleVerify suite accessory host body).connection.Settled := by
  by_cases encrypted : connection.isEncrypted = true
  · simp only [handleVerify, if_pos encrypted]
    exact settled
  · have clear : connection.session = none := by simpa [isEncrypted] using encrypted
    simp only [handleVerify, if_neg encrypted]
    cases answered : (connection.verify.handle suite accessory host body).answer with
    | respond reply =>
        intro held
        simp [clear] at held
    | verified reply controller keys =>
        -- Whoever is verified has sent the last request of Pair-Verify.
        have effect := VerifyStage.effect_attempt suite connection.verify accessory host body
        rw [VerifyStage.verified_of_handle answered, ← VerifyStage.stage_handle] at effect
        generalize (connection.verify.handle suite accessory host body).stage = next at effect
        cases effect with
        | verified _ _ _ =>
            intro _ pending
            simp

theorem settled_handle (settled : connection.Settled) (accessory : Accessory) (host : Host)
    (endpoint : Endpoint) (body : Bytes) :
    (connection.handle suite accessory host endpoint body).connection.Settled := by
  cases isClosed : connection.state.isClosed with
  | true =>
      cases state : connection.state with
      | plain | encrypted =>
          rw [state] at isClosed
          cases isClosed
      | closed reason =>
          rw [handle_of_closed suite state]
          exact settled
  | false =>
      rw [World.handle_of_open suite isClosed]
      cases endpoint with
      | pairSetup => exact settled
      | pairVerify => exact settled_handleVerify settled accessory host body
      | pairings =>
          obtain ⟨state, kept, _⟩ :=
            connection.connection_handlePairings accessory host body
          simp only [kept]
          exact settled

theorem Settled.after (settled : connection.Settled) (call : Call) :
    (connection.after suite call).Settled := by
  have effect := effect_after suite connection call
  cases call with
  | handle accessory host endpoint body =>
      exact settled_handle settled accessory host endpoint body
  -- Bytes need a session that is there already.
  | encrypt text =>
      generalize connection.after suite (.encrypt text) = next at effect ⊢
      cases effect with
      | unchanged => exact settled
      | sent held => exact settled.of_same (fun _ => by rw [held]; rfl) rfl
  | decrypt data =>
      generalize connection.after suite (.decrypt data) = next at effect ⊢
      cases effect with
      | unchanged => exact settled
      | received _ held _ | failed _ held _ =>
          exact settled.of_same (fun _ => by rw [held]; rfl) rfl
  | close => exact nofun

/-- Whatever a new connection has been asked for, it waits for no proof once it has a
session. -/
theorem settled_run (suite : Suite) (calls : List Call) : (create.run suite calls).Settled := by
  induction calls using List.reverseRecOn with
  | nil => exact nofun
  | append_singleton calls call ih =>
      rw [run_concat]
      exact ih.after call

/-! ## Rejections -/

/-- A request is rejected at a step: it can be read and is the one that the connection waits
for, and it fails; in the last step of Pair-Setup, for another reason than that the store has
refused the record or could not be written. -/
inductive Rejects (suite : Suite) (connection : Connection) (accessory : Accessory)
    (host : Host) (body : Bytes) : Endpoint → UInt8 → Prop
  | proof {server salt lease publicKey proof e} :
      connection.setup = .awaitingProof server salt lease →
      SetupRequest.parse body = .ok (.prove publicKey proof) →
      Fails suite connection accessory host body .pairSetup e →
      Rejects suite connection accessory host body .pairSetup 3
  | identity {sessionKey lease sealed e} :
      connection.setup = .awaitingExchange sessionKey lease →
      SetupRequest.parse body = .ok (.exchange sealed) →
      Fails suite connection accessory host body .pairSetup e →
      (∀ cause, e ≠ .ofStore cause) →
      Rejects suite connection accessory host body .pairSetup 5
  | controller {pending sealed e} :
      connection.verify = .awaitingFinish pending →
      VerifyRequest.parse body = .ok (.finish sealed) →
      Fails suite connection accessory host body .pairVerify e →
      Rejects suite connection accessory host body .pairVerify 3

/-- There is something wrong with the request that a connection waits for. -/
inductive Flawed (suite : Suite) (connection : Connection) (accessory : Accessory)
    (body : Bytes) : Endpoint → UInt8 → Prop
  | proof {server salt lease publicKey proof} :
      connection.setup = .awaitingProof server salt lease →
      SetupRequest.parse body = .ok (.prove publicKey proof) →
      server.Unproved suite.srp setupUser salt.bytes publicKey proof →
      Flawed suite connection accessory body .pairSetup 3
  | identity {sessionKey lease sealed} :
      connection.setup = .awaitingExchange sessionKey lease →
      SetupRequest.parse body = .ok (.exchange sealed) →
      SetupStage.Unaccepted suite sessionKey sealed →
      Flawed suite connection accessory body .pairSetup 5
  | controller {pending sealed} :
      connection.verify = .awaitingFinish pending →
      VerifyRequest.parse body = .ok (.finish sealed) →
      VerifyStage.Unproved suite accessory.store pending sealed →
      Flawed suite connection accessory body .pairVerify 3

variable {accessory : Accessory} {host : Host} {body : Bytes} {endpoint : Endpoint}
  {step : UInt8}

/-- A rejected request has something wrong with it, and fails for want of authentication. -/
theorem Rejects.flawed (settled : connection.Settled)
    (rejected : Rejects suite connection accessory host body endpoint step) :
    Flawed suite connection accessory body endpoint step ∧
      endpoint.replyStep body = step + 1 ∧
      ∃ e, Fails suite connection accessory host body endpoint e ∧
        e.code = ErrorCode.authentication := by
  cases rejected with
  | proof waiting parsed fails =>
      have next := (Pairing.replyState_eq body).symm.trans (SetupStage.replyState_of_parse parsed)
      cases fails with
      | setup failed =>
          have checked := failed
          simp only [waiting, SetupStage.attempt, parsed, SetupStage.process] at checked
          obtain ⟨rfl, unproved⟩ := SetupStage.answer_verifyProof_eq_error_iff.mp checked
          exact ⟨.proof waiting parsed unproved, next, _, .setup failed, rfl⟩
  | identity waiting parsed fails other =>
      have next := (Pairing.replyState_eq body).symm.trans (SetupStage.replyState_of_parse parsed)
      cases fails with
      | setup failed =>
          have checked := failed
          simp only [waiting, SetupStage.attempt, parsed, SetupStage.process] at checked
          rcases SetupStage.answer_exchange_eq_error checked with unaccepted | ⟨cause, stored⟩
          · exact ⟨.identity waiting parsed
                (SetupStage.openExchange_eq_error_iff.mp ⟨_, unaccepted⟩), next, _,
              .setup failed,
              PairingError.code_of_crypto (SetupStage.kind_of_openExchange unaccepted)⟩
          · exact absurd stored (other cause)
  | controller waiting parsed fails =>
      have next := (Pairing.replyState_eq body).symm.trans (VerifyStage.replyState_of_parse parsed)
      cases fails with
      | again encrypted => exact absurd waiting (settled encrypted _)
      | verify clear failed =>
          have checked := failed
          simp only [waiting, VerifyStage.attempt, parsed, VerifyStage.process] at checked
          have unproved := VerifyStage.answer_finish_eq_error_iff.mp checked
          exact ⟨.controller waiting parsed (VerifyStage.openProof_eq_error_iff.mp ⟨_, unproved⟩),
            next, _, .verify clear failed,
            PairingError.code_of_crypto (VerifyStage.kind_of_openProof unproved)⟩

/-- Whatever is wrong with a request, it is rejected. -/
theorem Flawed.rejects (settled : connection.Settled) (host : Host)
    (flawed : Flawed suite connection accessory body endpoint step) :
    Rejects suite connection accessory host body endpoint step := by
  cases flawed with
  | proof waiting parsed unproved =>
      have fails : Fails suite connection accessory host body .pairSetup
          .authenticationFailed := by
        refine .setup ?_
        simp only [waiting, SetupStage.attempt, parsed, SetupStage.process]
        exact SetupStage.answer_verifyProof_eq_error_iff.mpr ⟨rfl, unproved⟩
      exact .proof waiting parsed fails
  | identity waiting parsed unaccepted =>
      obtain ⟨e, failed⟩ := SetupStage.openExchange_eq_error_iff.mpr unaccepted
      have fails : Fails suite connection accessory host body .pairSetup e := by
        refine .setup ?_
        simp only [waiting, SetupStage.attempt, parsed, SetupStage.process, SetupStage.exchange,
          failed]
        rfl
      exact .identity waiting parsed fails
        (PairingError.ne_ofStore_of_crypto (SetupStage.kind_of_openExchange failed))
  | controller waiting parsed unproved =>
      obtain ⟨e, failed⟩ := VerifyStage.openProof_eq_error_iff.mpr unproved
      have clear : connection.isEncrypted = false := by
        apply Bool.eq_false_iff.mpr
        intro encrypted
        exact settled encrypted _ waiting
      have fails : Fails suite connection accessory host body .pairVerify e := by
        refine .verify clear ?_
        simp only [waiting, VerifyStage.attempt, parsed, VerifyStage.process]
        exact VerifyStage.answer_finish_eq_error_iff.mpr failed
      exact .controller waiting parsed fails

/-- A rejected request is answered with the next step and the code for a lack of
authentication. -/
theorem answer_of_rejects (settled : connection.Settled)
    (isOpen : connection.state.isClosed = false)
    (rejected : Rejects suite connection accessory host body endpoint step) :
    (connection.handle suite accessory host endpoint body).answer =
      .ok ⟨Pairing.errorReply (step + 1) ErrorCode.authentication, connection.isEncrypted,
        false⟩ := by
  obtain ⟨_, next, e, fails, code⟩ := rejected.flawed settled
  rw [answer_of_fails isOpen fails, next, code]

/-- On whatever connection and with whatever accessory, a request is rejected exactly if there is
something wrong with it, and the reply is a step and a code in six bytes, whatever it was that is
wrong. So two rejected requests of one kind get the same bytes, even if the accessories have
nothing in common. -/
theorem rejections_alike (suite : Suite) (calls : List Call) (endpoint : Endpoint)
    (step : UInt8) :
    let connection := create.run suite calls
    (∀ accessory host body, Rejects suite connection accessory host body endpoint step ↔
      Flawed suite connection accessory body endpoint step) ∧
    (connection.state.isClosed = false →
      ∀ accessory host body, Rejects suite connection accessory host body endpoint step →
        (connection.handle suite accessory host endpoint body).answer =
          .ok ⟨[6, 1, step + 1, 7, 1, 2], connection.isEncrypted, false⟩) ∧
    ∀ otherCalls, let other := create.run suite otherCalls
      connection.state.isClosed = false → other.state.isClosed = false →
      ∀ accessory host body accessory' host' body',
        Rejects suite connection accessory host body endpoint step →
        Rejects suite other accessory' host' body' endpoint step →
        ∃ reply reply',
          (connection.handle suite accessory host endpoint body).answer = .ok reply ∧
          (other.handle suite accessory' host' endpoint body').answer = .ok reply' ∧
          reply.body = reply'.body := by
  intro connection
  have settled : connection.Settled := settled_run suite calls
  refine ⟨?_, ?_, ?_⟩
  · intro accessory host body
    constructor
    · intro rejected
      exact (rejected.flawed settled).1
    · intro flawed
      exact flawed.rejects settled host
  · intro isOpen accessory host body rejected
    rw [answer_of_rejects settled isOpen rejected, Pairing.errorReply_eq]
    rfl
  · intro otherCalls other isOpen otherOpen accessory host body accessory' host' body'
      rejected otherRejected
    exact ⟨_, _, answer_of_rejects settled isOpen rejected,
      answer_of_rejects (settled_run suite otherCalls) otherOpen otherRejected, rfl⟩

/-- A lamp gets a public value that is zero, another one a proof that is wrong. -/
theorem rejections_alike_proofs :
    let lamp := Accessory.lamp
    let other : Accessory := { lamp with identity := ⟨"11:22:33:44:55:66", Block.zero⟩ }
    let connection := create.run Suite.transparent [.ofEvent lamp .quiet (Event.setupStart 0)]
    let zero := Tlv.encode [Tlv.stateField 3, (.publicKey, [0]), (.proof, [1])]
    let wrong := Tlv.encode [Tlv.stateField 3, (.publicKey, [2]), (.proof, [2])]
    connection.state.isClosed = false ∧
      Rejects Suite.transparent connection lamp .quiet zero .pairSetup 3 ∧
      Rejects Suite.transparent connection other .quiet wrong .pairSetup 3 ∧
      ∃ reply reply',
        (connection.handle Suite.transparent lamp .quiet .pairSetup zero).answer = .ok reply ∧
        (connection.handle Suite.transparent other .quiet .pairSetup wrong).answer =
          .ok reply' ∧
        reply.body = reply'.body := by
  intro lamp other connection zero wrong
  have isOpen : connection.state.isClosed = false := by decide +kernel
  obtain ⟨flaws, _, alike⟩ := rejections_alike Suite.transparent
    [.ofEvent lamp .quiet (Event.setupStart 0)] .pairSetup 3
  have waits : connection.setup.expectedState = 3 := by decide +kernel
  cases waiting : connection.setup with
  | awaitingStart | awaitingExchange _ _ | done =>
      rw [waiting] at waits
      cases waits
  | awaitingProof server salt lease =>
      have zeroParsed : SetupRequest.parse zero = .ok (.prove [0] [1]) := by decide +kernel
      have wrongParsed : SetupRequest.parse wrong = .ok (.prove [2] [2]) := by decide +kernel
      have zeroRejected := (flaws lamp .quiet zero).mpr
        (.proof waiting zeroParsed (.publicValue rfl))
      have wrongRejected := (flaws other .quiet wrong).mpr
        (.proof waiting wrongParsed (.wrong rfl rfl nofun))
      exact ⟨isOpen, zeroRejected, wrongRejected,
        alike _ isOpen isOpen _ _ _ _ _ _ zeroRejected wrongRejected⟩

end Connection

end HomePairing
