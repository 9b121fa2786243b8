import HomePairing.Proofs.Connection.Lifecycle
import HomePairing.Proofs.Exchange.Messages
import HomePairing.Proofs.Requests.Codes
import HomePairing.Proofs.Tlv.Records
import HomePairing.Proofs.Tlv.Runs

/-!
# What every reply looks like

An open connection answers every request, whatever its bytes are. `Connection.Fails` says
what it is for a request to fail. A request that fails is answered with the step that its
bytes call for and one of six codes (`Connection.answer_of_fails`). A request that does not
fail has its step written out where it is carried out, and that is the step its bytes call
for (`Connection.acceptance_of_not_fails`). So from the step of a reply nobody can tell what
became of the request, and from the error item everybody can.
-/

namespace HomePairing

/-! ## Replies as messages -/

namespace Tlv

/-- All the values under a tag, in order. -/
def Message.values (message : Message) (tag : Tag) : List Bytes :=
  (message.items.filter fun item => item.tag == tag.byte).map Item.value

/-- A step in front of fields that are no steps is read apart from them. -/
theorem decode_encode_stateField (state : UInt8) {fields : List (Tag × Bytes)}
    (stateless : ∀ field ∈ fields, field.1 ≠ .state) :
    ∃ items, decode (encode (stateField state :: fields)) =
        .ok ⟨⟨Tag.state.byte, [state]⟩ :: items⟩ ∧
      ∀ item ∈ items, ∃ field ∈ fields, field.1.byte = item.tag := by
  have tags : ∀ item ∈ join (fields.map itemOf), ∃ field ∈ fields, field.1.byte = item.tag := by
    intro item listed
    obtain ⟨piece, written, same⟩ := exists_tag_of_mem_join listed
    obtain ⟨field, among, rfl⟩ := List.mem_map.mp written
    exact ⟨field, among, same⟩
  refine ⟨join (fields.map itemOf), ?_, tags⟩
  rw [decode_encode]
  have apart : ∀ item ∈ (join (fields.map itemOf)).head?, Tag.state.byte ≠ item.tag := by
    intro item first same
    obtain ⟨field, among, tag⟩ := tags item (List.mem_of_mem_head? first)
    exact stateless field among (Tag.byte_injective (tag.trans same.symm))
  exact congrArg (fun items => Except.ok (Message.mk items)) (joinStep_of_ne apart)

end Tlv

namespace Pairing

open Tlv

/-- A reply to a request that was carried out: its step, and then fields that are neither
steps nor errors. -/
def IsAcceptance (state : UInt8) (body : Bytes) : Prop :=
  ∃ fields, body = encode (stateField state :: fields) ∧
    ∀ field ∈ fields, field.1 ≠ .state ∧ field.1 ≠ .error

/-- It is read as a message with one step and no error. -/
theorem IsAcceptance.decode_eq {state : UInt8} {body : Bytes}
    (acceptance : IsAcceptance state body) :
    ∃ message, Tlv.decode body = .ok message ∧ message.values .state = [[state]] ∧
      ∀ item ∈ message.items, item.tag ≠ Tag.error.byte := by
  obtain ⟨fields, rfl, plain⟩ := acceptance
  obtain ⟨items, decoded, tags⟩ :=
    decode_encode_stateField state fun field listed => (plain field listed).1
  have others : ∀ item ∈ items, item.tag ≠ Tag.state.byte ∧ item.tag ≠ Tag.error.byte := by
    intro item listed
    obtain ⟨field, among, tag⟩ := tags item listed
    obtain ⟨noState, noError⟩ := plain field among
    rw [← tag]
    constructor
    · intro same
      exact noState (Tag.byte_injective same)
    · intro same
      exact noError (Tag.byte_injective same)
  refine ⟨_, decoded, ?_, ?_⟩
  · have none : items.filter (fun item => item.tag == Tag.state.byte) = [] := by
      apply List.filter_eq_nil_iff.mpr
      intro item listed
      simp [(others item listed).1]
    simp [Message.values, none]
  · intro item listed
    rcases List.mem_cons.mp listed with rfl | later
    · exact (by decide : Tag.state.byte ≠ Tag.error.byte)
    · exact (others item later).2

/-- An error reply is read as its two items. -/
theorem decode_errorReply (state code : UInt8) :
    Tlv.decode (errorReply state code) =
      .ok ⟨[⟨Tag.state.byte, [state]⟩, ⟨Tag.error.byte, [code]⟩]⟩ := by
  rw [errorReply, Tlv.decode_encode_of_distinct (by simp [stateField, errorField])]
  rfl

/-! ## The step that a request calls for -/

/-- The step that a request says it belongs to: its first State item, if that is one byte. -/
def step? (body : Bytes) : Option UInt8 :=
  match Tlv.decode body with
  | .ok message =>
    match message.get? .state with
    | some [state] => some state
    | _ => none
  | .error _ => none

theorem nextState_eq (state : UInt8) :
    nextState state = UInt8.ofNat (min 255 (state.toNat + 1)) := by
  unfold nextState
  by_cases last : state = 255
  · subst last
    rfl
  · rw [if_neg last]
    have below : state.toNat < 255 := by
      have bound := state.toNat_lt
      have other : state.toNat ≠ 255 := by
        intro same
        exact last (UInt8.toNat_inj.mp same)
      omega
    rw [Nat.min_eq_right (by omega)]
    apply UInt8.toNat_inj.mp
    simp

theorem replyState_eq (body : Bytes) :
    replyState body =
      match step? body with
      | some state => UInt8.ofNat (min 255 (state.toNat + 1))
      | none => 2 := by
  unfold replyState step?
  cases Tlv.decode body with
  | error e => rfl
  | ok message =>
      simp only [Message.state, Message.requireByte, Message.require]
      rcases message.get? .state with _ | (_ | ⟨state, _ | ⟨next, rest⟩⟩)
      · rfl
      · rfl
      · exact nextState_eq state
      · rfl

end Pairing

/-- The step that the reply to a request is of. -/
def Endpoint.replyStep (body : Bytes) : Endpoint → UInt8
  | pairings => 2
  | pairSetup | pairVerify =>
    match Pairing.step? body with
    | some state => UInt8.ofNat (min 255 (state.toNat + 1))
    | none => 2

/-! ## Requests that are carried out -/

open Pairing

namespace SetupStage

variable {suite : Suite} {stage next : SetupStage} {accessory after : Accessory} {host : Host}
  {body reply : Bytes}

theorem isAcceptance_startReply (salt : Block 16) (publicKey : Bytes) :
    IsAcceptance 2 (startReply salt publicKey) :=
  ⟨_, rfl, by simp⟩

theorem isAcceptance_proofReply (proof : Bytes) : IsAcceptance 4 (proofReply proof) :=
  ⟨_, rfl, by simp⟩

theorem isAcceptance_exchangeReply (sealed : Bytes) : IsAcceptance 6 (exchangeReply sealed) :=
  ⟨_, rfl, by simp⟩

/-- The step that is written out is the one that the request calls for. -/
theorem Effect.isAcceptance
    (effect : Effect suite stage accessory host body next after (.ok reply)) :
    IsAcceptance (replyState body) reply := by
  cases effect with
  | started _ parsed _ _ _ =>
      rw [replyState_of_parse parsed]
      exact isAcceptance_startReply _ _
  | proved _ parsed _ =>
      rw [replyState_of_parse parsed]
      exact isAcceptance_proofReply _
  | paired _ parsed _ =>
      rw [replyState_of_parse parsed]
      exact isAcceptance_exchangeReply _

end SetupStage

namespace VerifyStage

variable {suite : Suite} {stage next : VerifyStage} {accessory : Accessory} {host : Host}
  {body : Bytes} {step : VerifyStep}

theorem isAcceptance_startReply (publicKey : Key) (sealed : Bytes) :
    IsAcceptance 2 (startReply publicKey sealed) :=
  ⟨_, rfl, by simp⟩

theorem isAcceptance_finishReply : IsAcceptance 4 finishReply :=
  ⟨[], rfl, by simp⟩

theorem Effect.isAcceptance (effect : Effect suite stage accessory host body next (.ok step)) :
    IsAcceptance (replyState body) step.body := by
  cases effect with
  | started _ parsed _ =>
      rw [replyState_of_parse parsed]
      exact isAcceptance_startReply _ _
  | verified _ parsed _ =>
      rw [replyState_of_parse parsed]
      exact isAcceptance_finishReply

end VerifyStage

namespace Management

theorem isAcceptance_doneReply : IsAcceptance 2 doneReply :=
  ⟨[], rfl, by simp⟩

/-- A list has identifiers, keys, permissions and separators in it. -/
theorem plain_list (records : List PairingRecord) :
    ∀ field ∈ Tlv.separated (records.map recordFields), field.1 ≠ .state ∧ field.1 ≠ .error := by
  intro field listed
  rcases Tlv.mem_separated listed with rfl | ⟨row, among, here⟩
  · simp [Tlv.separatorField]
  · obtain ⟨record, _, rfl⟩ := List.mem_map.mp among
    simp only [recordFields, List.mem_cons, List.not_mem_nil, or_false] at here
    rcases here with rfl | rfl | rfl <;> simp

theorem isAcceptance_listReply (records : List PairingRecord) :
    IsAcceptance 2 (listReply records) :=
  ⟨_, rfl, plain_list records⟩

theorem Effect.isAcceptance {accessory after : Accessory} {requester : Option String}
    {body : Bytes} {reply : PairingsReply}
    (effect : Effect accessory requester body after (.ok reply)) :
    IsAcceptance 2 reply.body := by
  cases effect with
  | added _ _ _ => exact isAcceptance_doneReply
  | removed _ _ => exact isAcceptance_doneReply
  | listed _ _ => exact isAcceptance_listReply _

end Management

/-! ## Requests that fail -/

namespace Connection

variable (suite : Suite)

/-- A request fails, for a reason: at its handshake, because there is a session already, or
at the management of pairings. -/
inductive Fails (connection : Connection) (accessory : Accessory) (host : Host)
    (body : Bytes) : Endpoint → PairingError → Prop
  | setup {e} :
      (connection.setup.attempt suite accessory host body).answer = .error e →
      Fails connection accessory host body .pairSetup e
  | again :
      connection.isEncrypted = true →
      Fails connection accessory host body .pairVerify .sessionActive
  | verify {e} :
      connection.isEncrypted = false →
      (connection.verify.attempt suite accessory host body).answer = .error e →
      Fails connection accessory host body .pairVerify e
  | management {e} :
      (Management.attempt accessory host connection.controllerId? body).answer = .error e →
      Fails connection accessory host body .pairings e

variable {suite} {connection : Connection} {accessory : Accessory} {host : Host} {body : Bytes}
  {endpoint : Endpoint} {e : PairingError}

/-- A failure has one of six codes. -/
theorem Fails.code_mem (fails : Fails suite connection accessory host body endpoint e) :
    e.code ∈ ErrorCode.all := by
  cases fails with
  | setup failed =>
      have effect := SetupStage.effect_attempt suite connection.setup accessory host body
      rw [failed] at effect
      generalize (connection.setup.attempt suite accessory host body).stage = next at effect
      generalize (connection.setup.attempt suite accessory host body).accessory = after at effect
      cases effect with
      | refused _ reason => exact reason.code_mem
      | rejected _ => exact PairingError.code_mem nofun
  | again _ => exact PairingError.code_mem nofun
  | verify _ failed => exact (VerifyStage.refused_of_attempt failed).code_mem
  | management failed => exact Management.code_mem_of_attempt failed

/-- A failure is answered with the step that the request calls for and the code of the
failure. -/
theorem answer_of_fails (isOpen : connection.state.isClosed = false)
    (fails : Fails suite connection accessory host body endpoint e) :
    (connection.handle suite accessory host endpoint body).answer =
      .ok ⟨errorReply (endpoint.replyStep body) e.code, connection.isEncrypted, false⟩ := by
  rw [World.handle_of_open suite isOpen]
  cases fails with
  | setup failed =>
      simp only [handleSetup, SetupStage.answer_handle_of_error host failed, replyState_eq]
      rfl
  | again encrypted =>
      simp only [handleVerify, refuseVerify, replyState_eq, encrypted]
      rfl
  | verify clear failed =>
      simp only [handleVerify, VerifyStage.handle, failed, replyState_eq, clear]
      rfl
  | management failed =>
      -- Nobody is taken out by a request that fails.
      simp only [handlePairings, Management.handle, failed, connection.isAmong_nil]
      rfl

/-- A request that does not fail is answered as one that was carried out, in the step that it
calls for. -/
theorem acceptance_of_not_fails (isOpen : connection.state.isClosed = false)
    (carried : ∀ e, ¬ Fails suite connection accessory host body endpoint e) :
    ∃ reply, (connection.handle suite accessory host endpoint body).answer = .ok reply ∧
      IsAcceptance (endpoint.replyStep body) reply.body := by
  rw [World.handle_of_open suite isOpen]
  refine ⟨_, rfl, ?_⟩
  cases endpoint with
  | pairSetup =>
      have effect := SetupStage.effect_attempt suite connection.setup accessory host body
      cases answered : (connection.setup.attempt suite accessory host body).answer with
      | error e => exact absurd (.setup answered) (carried e)
      | ok reply =>
          rw [answered] at effect
          have acceptance := effect.isAcceptance
          rw [replyState_eq] at acceptance
          simp only [handleSetup, SetupStage.answer_handle_of_ok host answered]
          exact acceptance
  | pairVerify =>
      cases encrypted : connection.isEncrypted with
      | true => exact absurd (.again encrypted) (carried _)
      | false =>
          have clear : connection.session = none := by simpa [isEncrypted] using encrypted
          have effect := VerifyStage.effect_attempt suite connection.verify accessory host body
          cases answered : (connection.verify.attempt suite accessory host body).answer with
          | error e => exact absurd (.verify encrypted answered) (carried e)
          | ok step =>
              rw [answered] at effect
              have acceptance := effect.isAcceptance
              rw [replyState_eq] at acceptance
              simp only [connection.body_handleVerify suite clear, VerifyStage.handle, answered]
              exact acceptance
  | pairings =>
      have effect := Management.effect_attempt accessory host connection.controllerId? body
      cases answered :
          (Management.attempt accessory host connection.controllerId? body).answer with
      | error e => exact absurd (.management answered) (carried e)
      | ok reply =>
          rw [answered] at effect
          have acceptance := effect.isAcceptance
          simp only [handlePairings, Management.handle, answered]
          exact acceptance

/-- An open connection answers every request, to whatever endpoint and of whatever bytes, with
a message that has one step: the second on the endpoint for pairings, and elsewhere the step
after the one that the request says, or again the second where it says none. There is an error
item in it exactly if the request has failed, and then the message is the step and one byte of
an error, which is one of six. -/
theorem reply_of_open (suite : Suite) {connection : Connection}
    (isOpen : connection.state.isClosed = false) (accessory : Accessory) (host : Host)
    (endpoint : Endpoint) (body : Bytes) :
    ∃ reply message,
      (connection.handle suite accessory host endpoint body).answer = .ok reply ∧
      Tlv.decode reply.body = .ok message ∧
      message.values .state = [[endpoint.replyStep body]] ∧
      ((∃ item ∈ message.items, item.tag = Tlv.Tag.error.byte) ↔
        ∃ e, Fails suite connection accessory host body endpoint e) ∧
      ((∃ item ∈ message.items, item.tag = Tlv.Tag.error.byte) →
        ∃ code ∈ ([1, 2, 4, 5, 6, 7] : List UInt8),
          message.items = [⟨Tlv.Tag.state.byte, [endpoint.replyStep body]⟩,
            ⟨Tlv.Tag.error.byte, [code]⟩]) := by
  by_cases failed : ∃ e, Fails suite connection accessory host body endpoint e
  · obtain ⟨e, fails⟩ := failed
    refine ⟨_, _, answer_of_fails isOpen fails, decode_errorReply _ _, rfl, ?_, ?_⟩
    · exact iff_of_true ⟨_, List.mem_cons_of_mem _ List.mem_cons_self, rfl⟩ ⟨e, fails⟩
    · intro _
      exact ⟨e.code, fails.code_mem, rfl⟩
  · have carried : ∀ e, ¬ Fails suite connection accessory host body endpoint e := by
      intro e fails
      exact failed ⟨e, fails⟩
    obtain ⟨reply, answered, acceptance⟩ := acceptance_of_not_fails isOpen carried
    obtain ⟨message, decoded, state, faultless⟩ := acceptance.decode_eq
    have none : ¬ ∃ item ∈ message.items, item.tag = Tlv.Tag.error.byte := by
      rintro ⟨item, listed, tag⟩
      exact faultless item listed tag
    refine ⟨reply, message, answered, decoded, state, iff_of_false none failed, ?_⟩
    intro error
    exact absurd error none

/-- A controller that has verified asks to verify again, in the last step there is. -/
theorem reply_of_open_again :
    let lamp := ((World.create .lamp .quiet).run .transparent
      (.connect :: Event.pairing 0 "CC:01" Block.zero)).accessory
    let connection := create.run Suite.transparent
      ((Event.verification 0 "CC:01").map (Call.ofEvent lamp .quiet))
    let body := Tlv.encode [Tlv.stateField 255]
    connection.state.isClosed = false ∧ connection.isEncrypted = true ∧
      ∃ reply message,
        (connection.handle Suite.transparent lamp .quiet .pairVerify body).answer = .ok reply ∧
        Tlv.decode reply.body = .ok message ∧
        ∃ code ∈ ([1, 2, 4, 5, 6, 7] : List UInt8),
          message.items = [⟨Tlv.Tag.state.byte, [255]⟩, ⟨Tlv.Tag.error.byte, [code]⟩] := by
  intro lamp connection body
  have isOpen : connection.state.isClosed = false := by decide +kernel
  have encrypted : connection.isEncrypted = true := by decide +kernel
  have last : Endpoint.replyStep body .pairVerify = 255 := by decide +kernel
  obtain ⟨reply, message, answered, decoded, _, failing, refused⟩ :=
    reply_of_open Suite.transparent isOpen lamp .quiet .pairVerify body
  obtain ⟨code, among, items⟩ := refused (failing.mpr ⟨_, .again encrypted⟩)
  rw [last] at items
  exact ⟨isOpen, encrypted, reply, message, answered, decoded, code, among, items⟩

end Connection

end HomePairing
