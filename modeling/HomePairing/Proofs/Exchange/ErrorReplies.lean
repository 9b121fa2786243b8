import HomePairing.Proofs.Exchange.Messages

/-!
# Replies with an error item

A controller looks for an error before it looks at anything else, but it looks at the first
byte of the first error item only. A reply whose first error item has a byte is refused with
that code wherever a controller reads a reply (`Pairing.read_error`, `Controller.Refuses`).
A first error item without any byte is overlooked: such a reply is taken for what its step
says (`expectState_eq_ok_iff`), and at the end of Pair-Verify nothing else is asked of it.
-/

namespace HomePairing

namespace Tlv.Message

/-- Some item has this tag, with whatever value. -/
def Carries (message : Message) (tag : Tag) : Prop :=
  ∃ item ∈ message.items, item.tag = tag.byte

instance (message : Message) (tag : Tag) : Decidable (message.Carries tag) :=
  inferInstanceAs (Decidable (∃ item ∈ message.items, item.tag = tag.byte))

theorem isSome_get?_iff {message : Message} {tag : Tag} :
    (message.get? tag).isSome = true ↔ message.Carries tag := by
  simp [get?, Carries]

/-- Only an error item without any byte reports nothing. -/
theorem errorCode?_eq_none_iff {message : Message} (carries : message.Carries .error) :
    message.errorCode? = none ↔ message.get? .error = some [] := by
  obtain ⟨value, found⟩ := Option.isSome_iff_exists.mp (isSome_get?_iff.mpr carries)
  rw [errorCode?, firstByte?, found]
  cases value with
  | nil => simp
  | cons code rest => simp

end Tlv.Message

namespace Pairing

variable {message : Tlv.Message} {code : UInt8}

theorem expectState_of_errorCode? (reported : message.errorCode? = some code)
    (expected : UInt8) : expectState message expected = .error (.peerError code) := by
  rw [expectState, reported]

/-- What is taken for the reply of a step reports no error and is of that step. -/
theorem expectState_eq_ok_iff {expected : UInt8} :
    expectState message expected = .ok () ↔
      message.errorCode? = none ∧ message.state = .ok expected := by
  rw [expectState]
  cases message.errorCode? with
  | some code => simp
  | none =>
      cases message.state with
      | error e => simp
      | ok actual =>
          by_cases same : actual = expected
          · simp [same]
          · simp [same]

/-- Whoever waits for a step and reads an error code has nothing else to read. -/
theorem read_error {Value : Type} {body : Bytes} (decoded : Tlv.decode body = .ok message)
    (reported : message.errorCode? = some code) (expected : UInt8)
    (next : Tlv.Message → Except PairingError Value) :
    (do let reply ← decode body
        expectState reply expected
        next reply) = .error (.peerError code) := by
  rw [decode, decoded, mapError_ok, ok_bind, expectState_of_errorCode? reported]
  rfl

end Pairing

/-! ## The readers -/

section Readers

variable {body : Bytes} {message : Tlv.Message} {code : UInt8}
  (decoded : Tlv.decode body = .ok message) (reported : message.errorCode? = some code)

include decoded reported

theorem Management.parseList_error (accessoryId : String) :
    parseList accessoryId body = .error (.peerError code) :=
  Pairing.read_error decoded reported 2 _

namespace Controller

theorem readChallenge_error : readChallenge body = .error (.peerError code) :=
  Pairing.read_error decoded reported 2 _

theorem readProof_error (suite : Suite) (pending : Srp.Pending) :
    readProof suite pending body = .error (.peerError code) :=
  Pairing.read_error decoded reported 4 _

theorem readIdentity_error (suite : Suite) (sessionKey : Bytes) :
    readIdentity suite sessionKey body = .error (.peerError code) :=
  Pairing.read_error decoded reported 6 _

theorem proveIdentity_error (suite : Suite) (controller : Controller) (secret : Key) :
    controller.proveIdentity suite secret body = .error (.peerError code) :=
  Pairing.read_error decoded reported 2 _

theorem readConfirmation_error :
    readConfirmation body = .error (.pairing (.peerError code)) := by
  rw [readConfirmation, decoded, mapError_ok, ok_bind,
    Pairing.expectState_of_errorCode? reported]
  rfl

end Controller

end Readers

namespace Controller

/-! ## The steps -/

/-- In every step that waits for a reply this one fails with its code. The handshake is back
at its beginning, nothing is drawn, no session opens and the same accessory is trusted. -/
structure Refuses (suite : Suite) (controller : Controller) (body : Bytes) (code : UInt8) :
    Prop where
  setupProve : controller.setup = .awaitingSalt → ∀ (setupCode : String) (entropy : Entropy),
    controller.setupProve suite body setupCode entropy =
      (({ controller with setup := .idle }, .error (.peerError code)), entropy)
  setupExchange : ∀ pending, controller.setup = .awaitingProof pending →
    controller.setupExchange suite body =
      ({ controller with setup := .idle }, .error (.peerError code))
  setupFinish : ∀ sessionKey, controller.setup = .awaitingKeys sessionKey →
    controller.setupFinish suite body =
      ({ controller with setup := .idle }, .error (.peerError code))
  verifyProve : ∀ secret, controller.verify = .awaitingKey secret →
    controller.verifyProve suite body =
      ({ controller with verify := .idle }, .error (.peerError code))
  verifyFinish : ∀ keys, controller.verify = .awaitingConfirm keys →
    controller.verifyFinish body =
      ({ controller with verify := .idle }, .error (.pairing (.peerError code)))

theorem refuses_of_errorCode? {body : Bytes} {message : Tlv.Message} {code : UInt8}
    (decoded : Tlv.decode body = .ok message) (reported : message.errorCode? = some code)
    (suite : Suite) (controller : Controller) : Refuses suite controller body code where
  setupProve waiting setupCode entropy := by
    simp only [Controller.setupProve, waiting, readChallenge_error decoded reported]
  setupExchange pending waiting := by
    simp only [Controller.setupExchange, waiting, readProof_error decoded reported]
  setupFinish sessionKey waiting := by
    simp only [Controller.setupFinish, waiting, readIdentity_error decoded reported]
  verifyProve secret waiting := by
    simp only [Controller.verifyProve, waiting, proveIdentity_error decoded reported]
  verifyFinish keys waiting := by
    simp only [Controller.verifyFinish, waiting, readConfirmation_error decoded reported]

/-- The end of Pair-Verify asks of a reply that it reports no error and is of its step. -/
theorem verifyFinish_eq_ok_iff {controller next : Controller} {keys : SessionKeys}
    {session : Session} {body : Bytes} {message : Tlv.Message}
    (waiting : controller.verify = .awaitingConfirm keys)
    (decoded : Tlv.decode body = .ok message) :
    controller.verifyFinish body = (next, .ok session) ↔
      (message.errorCode? = none ∧ message.state = .ok 4) ∧
        next = { controller with verify := .idle } ∧ session = .controller keys := by
  have read : readConfirmation body = (Pairing.expectState message 4).mapError .pairing := by
    rw [readConfirmation, decoded, mapError_ok, ok_bind]
  rw [← Pairing.expectState_eq_ok_iff, Controller.verifyFinish, waiting]
  simp only [read]
  cases Pairing.expectState message 4 with
  | error e => simp [Except.mapError]
  | ok =>
      simp only [mapError_ok, Prod.mk.injEq, Except.ok.injEq, true_and, eq_comm]

/-- **Error replies.** A reply with an error item passes for the reply of a step only if its
first error item has no byte and the step is right. With any byte there it is refused with
that code, by the readers and by every step of both handshakes; without one it opens a
session at the end of Pair-Verify. -/
theorem error_replies_refused {body : Bytes} {message : Tlv.Message}
    (decoded : Tlv.decode body = .ok message) (carries : message.Carries .error) :
    (∀ expected, Pairing.expectState message expected = .ok () ↔
        message.get? .error = some [] ∧ message.state = .ok expected) ∧
      (message.get? .error ≠ some [] →
        ∃ code, message.firstByte? .error = some code ∧
          (∀ expected, Pairing.expectState message expected = .error (.peerError code)) ∧
          (∀ accessoryId, Management.parseList accessoryId body = .error (.peerError code)) ∧
          ∀ suite controller, Refuses suite controller body code) ∧
      ∀ (controller next : Controller) (keys : SessionKeys) (session : Session),
        controller.verify = .awaitingConfirm keys →
        (controller.verifyFinish body = (next, .ok session) ↔
          (message.get? .error = some [] ∧ message.state = .ok 4) ∧
            next = { controller with verify := .idle } ∧ session = .controller keys) := by
  have blank := Tlv.Message.errorCode?_eq_none_iff carries
  refine ⟨fun expected => ?_, fun named => ?_, fun controller next keys session waiting => ?_⟩
  · rw [Pairing.expectState_eq_ok_iff, blank]
  · have reports : message.errorCode? ≠ none := fun silent => named (blank.mp silent)
    obtain ⟨code, reported⟩ := Option.ne_none_iff_exists'.mp reports
    exact ⟨code, reported, Pairing.expectState_of_errorCode? reported,
      Management.parseList_error decoded reported, refuses_of_errorCode? decoded reported⟩
  · rw [verifyFinish_eq_ok_iff waiting decoded, blank]

/-- An error item after others, of two bytes, is as good as any. -/
theorem error_replies_refused_longer :
    let body : Bytes := [6, 1, 4, 7, 2, 2, 9]
    let message : Tlv.Message := ⟨[⟨6, [4]⟩, ⟨7, [2, 9]⟩]⟩
    Tlv.decode body = .ok message ∧ message.Carries .error ∧
      ∀ suite controller, Refuses suite controller body 2 := by
  intro body message
  have decoded : Tlv.decode body = .ok message := by decide +kernel
  have carries : message.Carries .error := by decide
  obtain ⟨-, refused, -⟩ := error_replies_refused decoded carries
  obtain ⟨code, first, -, -, refuses⟩ := refused (by decide)
  have same : code = 2 := Option.some.inj (first.symm.trans (by decide))
  exact ⟨decoded, carries, same ▸ refuses⟩

/-- A controller that waits for the end of Pair-Verify opens its session on a reply with an
error item, if this has no byte; and a list that is such a reply is read as an empty one. -/
theorem exists_blank_error_accepted :
    let confirmation : Bytes := [6, 1, 4, 7, 0]
    let list : Bytes := [6, 1, 2, 7, 0]
    let keys : SessionKeys := ⟨Block.zero, Block.zero⟩
    let controller : Controller :=
      { Controller.create ⟨"CC:01", Block.zero⟩ with verify := .awaitingConfirm keys }
    (∃ message, Tlv.decode confirmation = .ok message ∧ message.Carries .error ∧
      Pairing.expectState message 4 = .ok () ∧
      (controller.verifyFinish confirmation).2 = .ok (.controller keys)) ∧
    ∃ message, Tlv.decode list = .ok message ∧ message.Carries .error ∧
      Pairing.expectState message 2 = .ok () ∧ Management.parseList "AA:00" list = .ok [] := by
  refine ⟨⟨⟨[⟨6, [4]⟩, ⟨7, []⟩]⟩, ?_⟩, ⟨⟨[⟨6, [2]⟩, ⟨7, []⟩]⟩, ?_⟩⟩ <;> decide +kernel

end Controller

end HomePairing
