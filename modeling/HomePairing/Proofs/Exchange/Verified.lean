import HomePairing.Proofs.Connection.Replies
import HomePairing.Proofs.Exchange.ErrorReplies
import HomePairing.Proofs.Exchange.Verifying

/-!
# What a Pair-Verify that went through has done

A controller takes no refusal for a reply. So if Pair-Verify has come to its end on the
controller's side then every request on the way was carried out: the connection was open and in
clear, and now it is encrypted with the keys of the agreement (`Dialogue.eq_of_verify`).
-/

namespace HomePairing

/-! ## Refusals, read by the controller -/

namespace Controller

variable {suite : Suite} {controller : Controller}

theorem proveIdentity_errorReply (secret : Key) (state code : UInt8) :
    proveIdentity suite controller secret (Pairing.errorReply state code) =
      .error (.peerError code) :=
  proveIdentity_error (Pairing.decode_errorReply state code) rfl suite controller secret

theorem readConfirmation_errorReply (state code : UInt8) :
    readConfirmation (Pairing.errorReply state code) =
      .error (.pairing (.peerError code)) :=
  readConfirmation_error (Pairing.decode_errorReply state code) rfl

/-- Whoever goes on with a proof of its own has accepted the other's, and not a refusal. -/
theorem exists_of_verifyProve {body request : Bytes} {next : Controller}
    (proves : controller.verifyProve suite body = (next, .ok request)) :
    ¬ Pairing.IsRefusal body ∧
      ∃ secret keys, controller.verify = .awaitingKey secret ∧
        controller.proveIdentity suite secret body = .ok (request, keys) ∧
        next = { controller with verify := .awaitingConfirm keys } := by
  rw [verifyProve] at proves
  split at proves
  · next secret waiting =>
      cases proven : controller.proveIdentity suite secret body with
      | error e =>
          simp only [proven] at proves
          cases proves
      | ok answer =>
          obtain ⟨other, keys⟩ := answer
          simp only [proven] at proves
          cases proves
          refine ⟨?_, secret, keys, waiting, proven, rfl⟩
          rintro ⟨state, code, rfl⟩
          rw [proveIdentity_errorReply] at proven
          cases proven
  · cases proves

/-- Whoever opens its end of the session was not refused. -/
theorem not_isRefusal_of_verifyFinish {body : Bytes} {next : Controller} {session : Session}
    (finishes : controller.verifyFinish body = (next, .ok session)) :
    ¬ Pairing.IsRefusal body := by
  rintro ⟨state, code, rfl⟩
  rw [verifyFinish] at finishes
  split at finishes
  · simp only [readConfirmation_errorReply] at finishes
    cases finishes
  · cases finishes

/-- Whatever the accessory has sealed: a controller that accepts it answers with its own proof,
and derives its keys from what it makes of the accessory's value. -/
theorem eq_of_proveIdentity {own accessoryPublic : Key} {sealed request : Bytes}
    {keys : SessionKeys}
    (proves : controller.proveIdentity suite own
      (VerifyStage.startReply accessoryPublic sealed) = .ok (request, keys)) :
    let shared := suite.agree own accessoryPublic
    request = finishRequest suite controller.identity (suite.derive .verifyEncrypt shared.bytes)
        (suite.agreementPublic own) accessoryPublic ∧
      keys = SessionKeys.derive suite shared.bytes := by
  intro shared
  rw [VerifyStage.startReply, proveIdentity,
    Pairing.read_reply (by simp [Tlv.stateField]) (by simp)] at proves
  simp only [Tlv.Message.require, Tlv.Message.get?_ofFields_cons, Tlv.stateField, mapError_ok,
    ok_bind, Suite.parseBlock, Block.ofBytes?_bytes, reduceCtorEq, if_false, if_true] at proves
  obtain ⟨text, _, proves⟩ := exists_of_bind_eq_ok proves
  obtain ⟨payload, _, proves⟩ := exists_of_bind_eq_ok proves
  obtain ⟨_, _, proves⟩ := exists_of_bind_eq_ok proves
  cases proves
  exact ⟨rfl, rfl⟩

end Controller

namespace Dialogue

variable {suite : Suite} {d after : Dialogue}

/-- Over a closed connection nothing comes of a request. -/
theorem ask_of_closed (suite : Suite) {reason : CloseReason}
    (isClosed : d.connection.state = .closed reason) (endpoint : Endpoint) (body : Bytes) :
    d.ask suite endpoint body = (d, .error (.connection (.closed reason))) := by
  simp only [ask, Connection.handle_of_closed suite isClosed]

/-- A Pair-Verify request that was not refused was carried out, over an open connection in
clear. -/
theorem exists_step_of_ask {body reply : Bytes}
    (asked : d.ask suite .pairVerify body = (after, .ok reply))
    (accepted : ¬ Pairing.IsRefusal reply) :
    d.connection.state.isClosed = false ∧ d.connection.session = none ∧
      ∃ step, (d.connection.verify.attempt suite d.accessory d.host body).answer = .ok step := by
  have isOpen : d.connection.state.isClosed = false := by
    cases state : d.connection.state with
    | closed reason =>
        rw [ask_of_closed suite state] at asked
        cases asked
    | plain | encrypted => rfl
  have carried : ∀ e, ¬ Connection.Fails suite d.connection d.accessory d.host body
      .pairVerify e := by
    intro e fails
    have refused := Connection.answer_of_fails isOpen fails
    simp only [ask, refused] at asked
    cases asked
    exact accepted (Pairing.isRefusal_errorReply _ _)
  cases encrypted : d.connection.isEncrypted with
  | true => exact absurd (.again encrypted) (carried _)
  | false =>
      have clear : d.connection.session = none := by
        simpa [Connection.isEncrypted] using encrypted
      refine ⟨isOpen, clear, ?_⟩
      cases answered : (d.connection.verify.attempt suite d.accessory d.host body).answer with
      | error e => exact absurd (.verify encrypted answered) (carried e)
      | ok step => exact ⟨step, rfl⟩

/-- A Pair-Verify that comes to its end has had all of its replies. -/
theorem replies_of_verify {session : Session} (verifies : d.verify suite = (after, .ok session)) :
    ∃ d₁ d₂ d₃ : Dialogue, ∃ second third fourth : Bytes,
      (d.greeting suite).ask suite .pairVerify
          (d.controller.verifyStart suite d.host.entropy).1.2 = (d₁, .ok second) ∧
        d₁.verifyProve suite second = (d₂, .ok third) ∧
        d₂.ask suite .pairVerify third = (d₃, .ok fourth) ∧
        d₃.verifyFinish fourth = (after, .ok session) := by
  rcases first : (d.greeting suite).ask suite .pairVerify
    (d.controller.verifyStart suite d.host.entropy).1.2 with ⟨d₁, e | second⟩
  · rw [greeting] at first
    simp only [verify, first] at verifies
    cases verifies
  · rcases proves : d₁.verifyProve suite second with ⟨d₂, e | third⟩
    · rw [greeting] at first
      simp only [verify, first, proves] at verifies
      cases verifies
    · rcases last : d₂.ask suite .pairVerify third with ⟨d₃, e | fourth⟩
      · rw [greeting] at first
        simp only [verify, first, proves, last] at verifies
        cases verifies
      · exact ⟨d₁, d₂, d₃, second, third, fourth, rfl, proves, last,
          (verify_of_replies first proves last).symm.trans verifies⟩

/-- The first round, if its reply was not refused. -/
theorem first_round_of_ask {reply : Bytes}
    (asked : (d.greeting suite).ask suite .pairVerify
      (d.controller.verifyStart suite d.host.entropy).1.2 = (after, .ok reply))
    (accepted : ¬ Pairing.IsRefusal reply) :
    d.connection.state.isClosed = false ∧ d.connection.session = none ∧
      after = d.agreeing suite ∧ reply = d.offerOf suite := by
  obtain ⟨isOpen, clear, step, attempted⟩ := exists_step_of_ask asked accepted
  have parsed := VerifyRequest.parse_verifyStart suite d.controller d.host.entropy
  have carried : (d.connection.verify.attempt suite d.accessory (d.greeting suite).host
      (d.controller.verifyStart suite d.host.entropy).1.2).answer.isOk = true :=
    congrArg Except.isOk attempted
  have nonzero : suite.agree d.otherSecret (suite.agreementPublic d.ownSecret) ≠ Block.zero :=
    (VerifyStage.agreement_of_started parsed carried).2
  rw [ask_greeting (d := d) isOpen clear nonzero] at asked
  cases asked
  exact ⟨isOpen, clear, rfl, rfl⟩

/-- The second round, if its reply was not refused. -/
theorem second_round_of_ask {reply : Bytes}
    (asked : (d.confirming suite).ask suite .pairVerify (d.proofOf suite) = (after, .ok reply))
    (accepted : ¬ Pairing.IsRefusal reply) :
    ∃ record, after = d.encrypted suite record ∧ reply = VerifyStage.finishReply := by
  obtain ⟨isOpen, clear, step, attempted⟩ := exists_step_of_ask asked accepted
  have parsed := VerifyRequest.parse_finishRequest suite d.controller.identity
    (d.pending suite).encryptKey (d.pending suite).controllerPublic
    (d.pending suite).accessoryPublic
  have carried : ((d.confirming suite).connection.verify.attempt suite d.accessory
      (d.confirming suite).host (d.proofOf suite)).answer.isOk = true :=
    congrArg Except.isOk attempted
  obtain ⟨record, opened⟩ := (VerifyStage.isOk_attempt_finish parsed).mp carried
  have verified := (d.confirming suite).ask_pairVerify_verified isOpen clear
    (VerifyStage.attempt_finish parsed opened)
  rw [show Dialogue.ask suite _ .pairVerify (d.proofOf suite) = _ from verified] at asked
  cases asked
  exact ⟨record, rfl, rfl⟩

/-- A Pair-Verify that has come to its end has left the connection encrypted, and the two ends
of the session with the keys of the agreement. -/
theorem eq_of_verify {session : Session}
    (shared : suite.agree d.ownSecret (suite.agreementPublic d.otherSecret) =
      suite.agree d.otherSecret (suite.agreementPublic d.ownSecret))
    (verifies : d.verify suite = (after, .ok session)) :
    ∃ record, session = Session.controller (d.keys suite) ∧
      after = { d.encrypted suite record with
        controller := { d.controller with verify := .idle } } := by
  obtain ⟨d₁, d₂, d₃, second, third, fourth, first, proves, last, finishes⟩ :=
    replies_of_verify verifies
  -- No reply on the way can have been a refusal.
  rcases proven : d₁.controller.verifyProve suite second with ⟨next, answer⟩
  rw [verifyProve, proven] at proves
  obtain ⟨rfl, answered⟩ := Prod.mk.inj proves
  rw [eq_ok_of_mapError_eq_ok answered] at proven
  obtain ⟨accepted, secret, keys, waiting, proven, rfl⟩ :=
    Controller.exists_of_verifyProve proven
  obtain ⟨_, _, rfl, rfl⟩ := first_round_of_ask first accepted
  rcases finished : d₃.controller.verifyFinish fourth with ⟨last, result⟩
  rw [verifyFinish, finished] at finishes
  cases finishes
  have welcome := Controller.not_isRefusal_of_verifyFinish finished
  -- Both sides have made the same of the other's value.
  cases waiting
  obtain ⟨sent, derived⟩ := Controller.eq_of_proveIdentity proven
  rw [show suite.agree d.ownSecret (d.pending suite).accessoryPublic =
    (d.pending suite).sharedSecret from shared] at sent derived
  subst sent derived
  obtain ⟨record, rfl, rfl⟩ := second_round_of_ask (d := d) last welcome
  rw [Controller.verifyFinish_finishReply rfl] at finished
  cases finished
  exact ⟨record, rfl, rfl⟩

end Dialogue

end HomePairing
