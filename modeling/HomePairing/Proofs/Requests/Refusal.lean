import HomePairing.Management
import HomePairing.Handshake.Setup
import HomePairing.Handshake.Verify

/-!
# Refusals on the wire

A refused request is answered with a step and an error code and nothing else. Such a
reply cannot be taken for any other: after the step, every reply to a request that was
carried out ends or goes on with another tag.
-/

namespace HomePairing

/-! ## Going through -/

theorem exists_of_bind_eq_ok {Failure First Second : Type} {first : Except Failure First}
    {next : First → Except Failure Second} {result : Second}
    (h : (first >>= next) = .ok result) :
    ∃ value, first = .ok value ∧ next value = .ok result := by
  cases first with
  | error e => cases h
  | ok value => exact ⟨value, rfl, h⟩

/-- Putting an error in other words lets nothing else through. -/
theorem eq_ok_of_mapError_eq_ok {Failure Wording Value : Type} {result : Except Failure Value}
    {wording : Failure → Wording} {value : Value}
    (h : result.mapError wording = .ok value) : result = .ok value := by
  cases result with
  | error e => cases h
  | ok other =>
      cases h
      rfl

/-- What comes to a failure has failed at the first part, or at the second after it. -/
theorem eq_error_of_bind_eq_error {Failure First Second : Type}
    {first : Except Failure First} {next : First → Except Failure Second} {e : Failure}
    (h : (first >>= next) = .error e) :
    first = .error e ∨ ∃ value, first = .ok value ∧ next value = .error e := by
  cases first with
  | error other =>
      cases h
      exact .inl rfl
  | ok value => exact .inr ⟨value, rfl, h⟩

theorem exists_of_mapError_eq_error {Failure Wording Value : Type}
    {result : Except Failure Value} {wording : Failure → Wording} {e : Wording}
    (h : result.mapError wording = .error e) :
    ∃ cause, result = .error cause ∧ wording cause = e := by
  cases result with
  | error cause => exact ⟨cause, rfl, Except.error.inj h⟩
  | ok value => cases h

/-- A request that is read by its step is answered in the step after it. -/
theorem Pairing.replyState_of_read {Request : Type}
    {ofMessage : Tlv.Message → UInt8 → Except PairingError Request} {body : Bytes}
    {request : Request}
    (read : (do let message ← decode body
                let state ← message.state.mapError .tlv
                ofMessage message state) = .ok request) :
    ∃ message state, ofMessage message state = .ok request ∧
      replyState body = nextState state := by
  obtain ⟨message, decoded, read⟩ := exists_of_bind_eq_ok read
  obtain ⟨state, found, read⟩ := exists_of_bind_eq_ok read
  unfold decode at decoded
  refine ⟨message, state, read, ?_⟩
  simp only [replyState, eq_ok_of_mapError_eq_ok decoded, eq_ok_of_mapError_eq_ok found]

/-! ## Written fields -/

namespace Tlv

theorem encodeValue_short {tag : UInt8} {value : Bytes} (h : value.length < pieceSize) :
    encodeValue tag value = encodePiece tag value := by
  rw [encodeValue]
  have whole : value.take pieceSize = value := List.take_of_length_le (Nat.le_of_lt h)
  simp only [whole, if_pos h]

theorem head?_encodeValue (tag : UInt8) (value : Bytes) :
    (encodeValue tag value).head? = some tag := by
  rw [encodeValue]
  by_cases short : (value.take pieceSize).length < pieceSize
  · simp only [if_pos short]
    rfl
  · simp only [if_neg short]
    rfl

theorem encode_stateField (state : UInt8) (fields : List (Tag × Bytes)) :
    encode (stateField state :: fields) = Tag.state.byte :: 1 :: state :: encode fields := by
  unfold stateField
  rw [encode_cons, encodeValue_short (by simp [pieceSize])]
  rfl

end Tlv

namespace Pairing

/-- A reply that is a step and an error code and nothing else. -/
def IsRefusal (body : Bytes) : Prop :=
  ∃ state code, body = errorReply state code

theorem errorReply_eq (state code : UInt8) :
    errorReply state code =
      [Tlv.Tag.state.byte, 1, state, Tlv.Tag.error.byte, 1, code] := by
  rw [errorReply, Tlv.encode_stateField, Tlv.errorField, Tlv.encode_cons,
    Tlv.encodeValue_short (by simp [Tlv.pieceSize])]
  rfl

/-- An error reply says one thing only. -/
theorem errorReply_injective {state code other otherCode : UInt8}
    (same : errorReply state code = errorReply other otherCode) :
    state = other ∧ code = otherCode := by
  rw [errorReply_eq, errorReply_eq] at same
  simpa using same

theorem isRefusal_errorReply (state code : UInt8) : IsRefusal (errorReply state code) :=
  ⟨state, code, rfl⟩

theorem not_isRefusal_state (state : UInt8) : ¬ IsRefusal (Tlv.encode [Tlv.stateField state]) := by
  rintro ⟨_, code, h⟩
  unfold errorReply at h
  rw [Tlv.encode_stateField, Tlv.encode_stateField] at h
  have h := congrArg (fun bytes => (bytes.drop 3).head?) h
  simp [Tlv.errorField, Tlv.head?_encodeValue] at h

/-- A step with a field after it that is no error is no refusal. -/
theorem not_isRefusal_field {state : UInt8} {tag : Tlv.Tag} {value : Bytes}
    {fields : List (Tlv.Tag × Bytes)} (h : tag ≠ .error) :
    ¬ IsRefusal (Tlv.encode (Tlv.stateField state :: (tag, value) :: fields)) := by
  rintro ⟨_, code, same⟩
  unfold errorReply at same
  rw [Tlv.encode_stateField, Tlv.encode_stateField] at same
  have same := congrArg (fun bytes => (bytes.drop 3).head?) same
  simp only [Tlv.errorField, Tlv.encode_cons, List.drop_succ_cons, List.drop_zero,
    List.head?_append, Tlv.head?_encodeValue, Option.some_or, Option.some.injEq] at same
  exact h (Tlv.Tag.byte_injective same)

end Pairing

open Pairing

/-! ## Replies to requests that were carried out -/

theorem SetupStage.not_isRefusal_startReply (salt : Block 16) (publicKey : Bytes) :
    ¬ IsRefusal (startReply salt publicKey) :=
  not_isRefusal_field (by decide)

theorem SetupStage.not_isRefusal_proofReply (proof : Bytes) : ¬ IsRefusal (proofReply proof) :=
  not_isRefusal_field (by decide)

theorem SetupStage.not_isRefusal_exchangeReply (sealed : Bytes) :
    ¬ IsRefusal (exchangeReply sealed) :=
  not_isRefusal_field (by decide)

theorem VerifyStage.not_isRefusal_startReply (publicKey : Key) (sealed : Bytes) :
    ¬ IsRefusal (startReply publicKey sealed) :=
  not_isRefusal_field (by decide)

theorem VerifyStage.not_isRefusal_finishReply : ¬ IsRefusal finishReply :=
  not_isRefusal_state 4

theorem Management.not_isRefusal_doneReply : ¬ IsRefusal doneReply :=
  not_isRefusal_state 2

/-- A list starts with the first identifier, or ends with the step. -/
theorem Management.not_isRefusal_listReply (records : List PairingRecord) :
    ¬ IsRefusal (listReply records) := by
  unfold listReply
  match records with
  | [] => exact not_isRefusal_state 2
  | [record] => exact not_isRefusal_field (by decide)
  | record :: next :: rest =>
      simp only [List.map_cons, List.intersperse_cons_cons, List.flatten_cons, recordFields,
        List.cons_append]
      exact not_isRefusal_field (by decide)

end HomePairing
