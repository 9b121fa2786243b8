import HomePairing.Controller.Dialogue
import HomePairing.Proofs.Exchange.Messages
import HomePairing.Proofs.Runs.Change
import HomePairing.Proofs.Session.Delivery

/-!
# Pair-Verify comes to its end

A controller that the accessory has filed, and that trusts the accessory, verifies over any
open connection that is not encrypted yet, whatever was left there of another handshake. The
two sides sign the same two values, each its own first, and derive the same keys, which each
reads and writes the other way round (`Dialogue.verifies_filed`).
-/

namespace HomePairing

/-! ## The controller's replies -/

namespace Controller

variable {suite : Suite} {controller : Controller}

theorem verifyProve_startReply {secret : Key} {body request : Bytes} {keys : SessionKeys}
    (waiting : controller.verify = .awaitingKey secret)
    (proves : controller.proveIdentity suite secret body = .ok (request, keys)) :
    controller.verifyProve suite body =
      ({ controller with verify := .awaitingConfirm keys }, .ok request) := by
  simp only [verifyProve, waiting, proves]

theorem verifyFinish_finishReply {keys : SessionKeys}
    (waiting : controller.verify = .awaitingConfirm keys) :
    controller.verifyFinish VerifyStage.finishReply =
      ({ controller with verify := .idle }, .ok (Session.controller keys)) := by
  simp only [verifyFinish, waiting, readConfirmation_finishReply]

end Controller

namespace Dialogue

variable {suite : Suite}

/-! ## Pair-Verify over a connection -/

/-- Over an open connection in clear a request reaches Pair-Verify, and its reply comes
back. -/
theorem ask_pairVerify_respond (d : Dialogue) (isOpen : d.connection.state.isClosed = false)
    (fresh : d.connection.session = none) {body reply : Bytes} {stage : VerifyStage}
    {host : Host}
    (attempted : d.connection.verify.attempt suite d.accessory d.host body =
      ⟨stage, host, .ok (.respond reply)⟩) :
    d.ask suite .pairVerify body =
      ({ d with connection := { d.connection with verify := stage }, host }, .ok reply) := by
  have handled : d.connection.verify.handle suite d.accessory d.host body =
      ⟨stage, host, .respond reply⟩ := by
    rw [VerifyStage.handle, attempted]
  rw [ask, World.handle_of_open suite isOpen]
  simp only [Connection.handleVerify, Connection.isEncrypted, fresh, Option.isSome_none,
    Bool.false_eq_true, if_false, handled]

/-- With the reply to an accepted proof the connection is encrypted. -/
theorem ask_pairVerify_verified (d : Dialogue) (isOpen : d.connection.state.isClosed = false)
    (fresh : d.connection.session = none) {body reply : Bytes} {stage : VerifyStage}
    {host : Host} {controller : PairingRecord} {keys : SessionKeys}
    (attempted : d.connection.verify.attempt suite d.accessory d.host body =
      ⟨stage, host, .ok (.verified reply controller keys)⟩) :
    d.ask suite .pairVerify body =
      ({ d with
          connection := { d.connection with
            verify := stage
            session := some (Session.accessory keys)
            controller := some controller
            state := .encrypted }
          host }, .ok reply) := by
  rw [ask, World.handle_of_open suite isOpen]
  simp only [d.connection.handleVerify_of_verified suite fresh attempted]

theorem verifyProve_of_ok {d : Dialogue} {body request : Bytes} {controller : Controller}
    (answers : d.controller.verifyProve suite body = (controller, .ok request)) :
    d.verifyProve suite body = ({ d with controller }, .ok request) := by
  rw [verifyProve, answers]
  rfl

theorem verifyFinish_of_ok {d : Dialogue} {body : Bytes} {controller : Controller}
    {session : Session}
    (accepts : d.controller.verifyFinish body = (controller, .ok session)) :
    d.verifyFinish body = ({ d with controller }, .ok session) := by
  rw [verifyFinish, accepts]

/-- A controller that has drawn its secret. -/
def greeting (suite : Suite) (d : Dialogue) : Dialogue :=
  { d with
    controller := (d.controller.verifyStart suite d.host.entropy).1.1
    host := { d.host with entropy := (d.controller.verifyStart suite d.host.entropy).2 } }

/-- Four messages that all go through. -/
theorem verify_of_replies {d d₁ d₂ d₃ : Dialogue} {second third fourth : Bytes}
    (started : (d.greeting suite).ask suite .pairVerify
      (d.controller.verifyStart suite d.host.entropy).1.2 = (d₁, .ok second))
    (proves : d₁.verifyProve suite second = (d₂, .ok third))
    (proved : d₂.ask suite .pairVerify third = (d₃, .ok fourth)) :
    d.verify suite = d₃.verifyFinish fourth := by
  rw [greeting] at started
  rw [verify]
  simp only [started, proves, proved]

/-! ## What has to be given -/

/-- The secret that the controller draws for the agreement. -/
def ownSecret (d : Dialogue) : Key :=
  (d.host.entropy.draw 32).1

/-- The secret that the accessory draws for it, after the controller's. -/
def otherSecret (d : Dialogue) : Key :=
  ((d.host.entropy.draw 32).2.draw 32).1

/-- The agreement as the accessory keeps it. -/
def pending (suite : Suite) (d : Dialogue) : PendingVerify :=
  VerifyStage.agreement suite d.otherSecret (suite.agreementPublic d.ownSecret)

/-- The keys that come of the agreement. -/
def keys (suite : Suite) (d : Dialogue) : SessionKeys :=
  SessionKeys.derive suite (d.pending suite).sharedSecret.bytes

/-- What Pair-Verify needs to succeed. Nothing is asked of the stages that either side's
handshakes are in, nor of the record's permissions or the other records. -/
structure CanVerify (suite : Suite) (d : Dialogue) (record : PairingRecord) : Prop where
  isOpen : d.connection.state.isClosed = false
  unencrypted : d.connection.session = none
  filed : d.accessory.store.find? d.controller.pairingId = some record
  sameKey : record.publicKey = d.controller.identity.publicKey suite
  trusts : d.controller.trusted =
    some ⟨d.accessory.pairingId, d.accessory.identity.publicKey suite⟩
  /-- Both sides make the same of the other's value. -/
  shared : suite.agree d.ownSecret (suite.agreementPublic d.otherSecret) =
    suite.agree d.otherSecret (suite.agreementPublic d.ownSecret)
  nonzero : suite.agree d.otherSecret (suite.agreementPublic d.ownSecret) ≠ Block.zero

/-! ## Two rounds -/

/-- After the first round the controller has the accessory's proof to check. -/
def agreeing (suite : Suite) (d : Dialogue) : Dialogue :=
  { d with
    controller := { d.controller with verify := .awaitingKey d.ownSecret }
    connection := { d.connection with verify := .awaitingFinish (d.pending suite) }
    host := { d.host with entropy := ((d.host.entropy.draw 32).2.draw 32).2 } }

/-- A controller that has sent its own proof. -/
def confirming (suite : Suite) (d : Dialogue) : Dialogue :=
  { d.agreeing suite with
    controller := { d.controller with verify := .awaitingConfirm (d.keys suite) } }

/-- After the second round the connection is encrypted. -/
def encrypted (suite : Suite) (d : Dialogue) (record : PairingRecord) : Dialogue :=
  { d.confirming suite with
    connection := { d.connection with
      verify := .done
      session := some (Session.accessory (d.keys suite))
      controller := some record
      state := .encrypted } }

/-- The controller's proof. -/
def proofOf (suite : Suite) (d : Dialogue) : Bytes :=
  Controller.finishRequest suite d.controller.identity (d.pending suite).encryptKey
    (d.pending suite).controllerPublic (d.pending suite).accessoryPublic

/-- The accessory's first reply. -/
def offerOf (suite : Suite) (d : Dialogue) : Bytes :=
  VerifyStage.startReply (d.pending suite).accessoryPublic
    (VerifyStage.sealProof suite d.accessory.identity (d.pending suite))

/-- Over an open connection in clear the first round goes through, unless the secret would be
zero. -/
theorem ask_greeting {d : Dialogue} (isOpen : d.connection.state.isClosed = false)
    (unencrypted : d.connection.session = none)
    (nonzero : suite.agree d.otherSecret (suite.agreementPublic d.ownSecret) ≠ Block.zero) :
    (d.greeting suite).ask suite .pairVerify
        (d.controller.verifyStart suite d.host.entropy).1.2 =
      (d.agreeing suite, .ok (d.offerOf suite)) :=
  (d.greeting suite).ask_pairVerify_respond isOpen unencrypted
    (VerifyStage.attempt_start d.connection.verify
      (VerifyRequest.parse_verifyStart suite d.controller d.host.entropy) nonzero)

namespace CanVerify

variable {d : Dialogue} {record : PairingRecord} (can : CanVerify suite d record)
include can

theorem first_round :
    (d.greeting suite).ask suite .pairVerify
        (d.controller.verifyStart suite d.host.entropy).1.2 =
      (d.agreeing suite, .ok (d.offerOf suite)) :=
  ask_greeting can.isOpen can.unencrypted can.nonzero

theorem proves (seals : suite.Seals) (signs : suite.Signs) :
    (d.agreeing suite).verifyProve suite (d.offerOf suite) =
      (d.confirming suite, .ok (d.proofOf suite)) :=
  verifyProve_of_ok (Controller.verifyProve_startReply rfl
    (Controller.proveIdentity_startReply seals signs can.trusts can.shared))

theorem second_round (seals : suite.Seals) (signs : suite.Signs) :
    (d.confirming suite).ask suite .pairVerify (d.proofOf suite) =
      (d.encrypted suite record, .ok VerifyStage.finishReply) :=
  (d.confirming suite).ask_pairVerify_verified can.isOpen can.unencrypted
    (VerifyStage.attempt_finish (VerifyRequest.parse_finishRequest suite _ _ _ _)
      (VerifyStage.openProof_verifyPayload seals signs can.filed can.sameKey))

/-- All four messages go through, and the controller opens its end of the session. -/
theorem verify_eq (seals : suite.Seals) (signs : suite.Signs) :
    d.verify suite =
      ({ d.encrypted suite record with controller := { d.controller with verify := .idle } },
        .ok (Session.controller (d.keys suite))) := by
  rw [verify_of_replies can.first_round (can.proves seals signs)
    (can.second_round seals signs)]
  exact verifyFinish_of_ok (Controller.verifyFinish_finishReply rfl)

end CanVerify

/-- If the accessory has filed a controller's key and the controller trusts the accessory,
then the controller verifies over any open connection that is not encrypted yet: afterwards
the connection is encrypted for the controller's record, the accessory and the disk are as
they were, and the two ends of the session decrypt what the other sends. -/
theorem verifies_filed (seals : suite.Seals) (signs : suite.Signs) (d : Dialogue)
    {record : PairingRecord} (can : CanVerify suite d record) :
    let outcome := d.verify suite
    let after := outcome.1
    ∃ own other, outcome.2 = .ok own ∧
      after.connection.state = .encrypted ∧
      after.connection.controller = some record ∧
      after.connection.session = some other ∧
      after.accessory = d.accessory ∧
      after.host.disk = d.host.disk ∧
      (Link.between own other).Delivers suite := by
  have verified := can.verify_eq seals signs
  intro outcome after
  have here : outcome = _ := verified
  simp only [after, here]
  exact ⟨_, _, rfl, rfl, rfl, rfl, rfl, rfl, Link.delivers_between seals (d.keys suite)⟩

/-- A controller. -/
def visitor : Controller :=
  .create ⟨"11:22:33:44:55:66", Block.fit 32 [7]⟩

/-- The record under which the lamp knows it. -/
def visitorRecord (suite : Suite) : PairingRecord :=
  Accessory.lamp.recordOf visitor.pairingId (visitor.identity.publicKey suite) .user

/-- The two of them, already paired, and a machine whose bytes count up. -/
def acquainted (suite : Suite) : Dialogue where
  controller :=
    visitor.trust Accessory.lamp.pairingId (Accessory.lamp.identity.publicKey suite)
  connection := { Connection.create with setup := .done }
  accessory :=
    Accessory.lamp.withRegistry (Registry.empty.insert visitor.pairingId (visitorRecord suite))
  host := { Host.quiet with entropy := ⟨UInt8.ofNat, 0⟩ }

/-- They verify with the standard primitives, if only signatures are taken on trust. -/
theorem verifies_filed_acquainted :
    let suite : Suite :=
      { Suite.standard with isSigningPublic := fun _ => true, verify := fun _ _ _ => true }
    suite.Seals ∧ suite.Signs ∧ CanVerify suite (acquainted suite) (visitorRecord suite) ∧
      ((acquainted suite).verify suite).1.connection.controller = some (visitorRecord suite) := by
  intro suite
  have seals : suite.Seals := ⟨Aead.decrypt?_encrypt, Aead.length_encrypt⟩
  have signs : suite.Signs := ⟨fun _ _ => rfl, fun _ => rfl⟩
  have can : CanVerify suite (acquainted suite) (visitorRecord suite) := {
    isOpen := rfl
    unencrypted := rfl
    filed := Registry.find?_insert_self ..
    sameKey := rfl
    trusts := rfl
    shared := by decide +kernel
    nonzero := by decide +kernel }
  obtain ⟨_, _, _, _, known, _⟩ := verifies_filed seals signs (acquainted suite) can
  exact ⟨seals, signs, can, known⟩

end Dialogue

end HomePairing
