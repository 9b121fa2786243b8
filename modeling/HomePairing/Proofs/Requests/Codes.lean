import HomePairing.Proofs.Requests.Verify

/-!
# What a refused request is told

A refusal carries one byte that says why, and not much can be read from it. A request that
cannot be read has one code, and a sealed identity that is not accepted has another,
whatever was wrong with it. A lack of room has a code of its own, and is told only to a
controller whose identity has been accepted, by a store that is full
(`SetupStage.full_of_answer`). Altogether there are six codes
(`SetupStage.Refused.code_mem` and its like for the other requests).
-/

namespace HomePairing

/-- The codes that an accessory answers with. -/
def ErrorCode.all : List UInt8 :=
  [unknown, authentication, maxPeers, maxTries, unavailable, busy]

/-- All failures of a cryptographic kind look the same. -/
theorem PairingError.code_of_crypto {e : PairingError} (h : e.kind = .crypto) :
    e.code = ErrorCode.authentication := by
  cases e with
  | tlv _ => cases h
  | unexpectedState _ _ => cases h
  | unsupportedMethod _ => cases h
  | alreadyPaired => cases h
  | busy => cases h
  | maxTries => cases h
  | maxPeers => cases h
  | identifierConflict _ => cases h
  | sessionActive => cases h
  | peerError _ => cases h
  | storage _ => cases h
  | _ => rfl

/-! ## Requests that cannot be read -/

theorem code_of_tlv {Value : Type} {result : Except Tlv.Error Value} {e : PairingError}
    (failed : result.mapError PairingError.tlv = .error e) : e.code = ErrorCode.unknown := by
  obtain ⟨cause, _, rfl⟩ := exists_of_mapError_eq_error failed
  rfl

/-- A request that is read by its step cannot be read for what is wrong with the message. -/
theorem Pairing.code_of_read {Request : Type}
    {ofMessage : Tlv.Message → UInt8 → Except PairingError Request} {body : Bytes}
    {e : PairingError}
    (told : ∀ {message state e}, ofMessage message state = .error e →
      e.code = ErrorCode.unknown)
    (failed : (do let message ← Pairing.decode body
                  let state ← message.state.mapError .tlv
                  ofMessage message state) = .error e) : e.code = ErrorCode.unknown := by
  rcases eq_error_of_bind_eq_error failed with unread | ⟨message, _, failed⟩
  · exact code_of_tlv unread
  · rcases eq_error_of_bind_eq_error failed with stateless | ⟨state, _, failed⟩
    · exact code_of_tlv stateless
    · exact told failed

namespace SetupRequest

theorem code_of_ofMessage {message : Tlv.Message} {state : UInt8} {e : PairingError}
    (failed : ofMessage message state = .error e) : e.code = ErrorCode.unknown := by
  unfold ofMessage at failed
  -- One case for each step that has requests, and one for all the others.
  split at failed
  · cases failed
  · split at failed
    · rcases eq_error_of_bind_eq_error failed with absent | ⟨publicKey, _, failed⟩
      · exact code_of_tlv absent
      · rcases eq_error_of_bind_eq_error failed with absent | ⟨proof, _, failed⟩
        · exact code_of_tlv absent
        · cases failed
    · split at failed
      · rcases eq_error_of_bind_eq_error failed with absent | ⟨sealed, _, failed⟩
        · exact code_of_tlv absent
        · cases failed
      · cases failed
        rfl

/-- A request that cannot be read is told nothing more. -/
theorem code_of_parse {body : Bytes} {e : PairingError} (failed : parse body = .error e) :
    e.code = ErrorCode.unknown :=
  Pairing.code_of_read code_of_ofMessage failed

end SetupRequest

namespace VerifyRequest

theorem code_of_ofMessage {message : Tlv.Message} {state : UInt8} {e : PairingError}
    (failed : ofMessage message state = .error e) : e.code = ErrorCode.unknown := by
  unfold ofMessage at failed
  split at failed
  · rcases eq_error_of_bind_eq_error failed with absent | ⟨publicKey, _, failed⟩
    · exact code_of_tlv absent
    · cases failed
  · split at failed
    · rcases eq_error_of_bind_eq_error failed with absent | ⟨sealed, _, failed⟩
      · exact code_of_tlv absent
      · cases failed
    · cases failed
      rfl

theorem code_of_parse {body : Bytes} {e : PairingError} (failed : parse body = .error e) :
    e.code = ErrorCode.unknown :=
  Pairing.code_of_read code_of_ofMessage failed

end VerifyRequest

namespace PairingsRequest

theorem code_of_readController {message : Tlv.Message} {e : PairingError}
    (failed : readController message = .error e) : e.code = ErrorCode.unknown := by
  rcases eq_error_of_bind_eq_error failed with absent | ⟨raw, _, failed⟩
  · exact code_of_tlv absent
  · rcases eq_error_of_bind_eq_error failed with nameless | ⟨id, _, failed⟩
    · exact code_of_tlv nameless
    · rcases eq_error_of_bind_eq_error failed with keyless | ⟨publicKey, _, failed⟩
      · exact code_of_tlv keyless
      · rcases eq_error_of_bind_eq_error failed with unknown | ⟨permissions, _, failed⟩
        · unfold requirePermissions at unknown
          split at unknown
          · cases unknown
          · cases unknown
            rfl
        · cases failed

theorem code_of_ofMessage {message : Tlv.Message} {method : UInt8} {e : PairingError}
    (failed : ofMessage message method = .error e) : e.code = ErrorCode.unknown := by
  unfold ofMessage at failed
  -- One case for each method that there is, and one for all the others.
  split at failed
  · rcases eq_error_of_bind_eq_error failed with unread | ⟨_, _, failed⟩
    · exact code_of_readController unread
    · cases failed
  · split at failed
    · rcases eq_error_of_bind_eq_error failed with nameless | ⟨id, _, failed⟩
      · exact code_of_tlv nameless
      · cases failed
    · split at failed
      · cases failed
      · cases failed
        rfl

theorem code_of_parse {body : Bytes} {e : PairingError} (failed : parse body = .error e) :
    e.code = ErrorCode.unknown := by
  refine Pairing.code_of_read (fun {message state e} failed => ?_) failed
  split at failed
  · cases failed
    rfl
  · rcases eq_error_of_bind_eq_error failed with absent | ⟨method, _, failed⟩
    · exact code_of_tlv absent
    · exact code_of_ofMessage failed

end PairingsRequest

/-! ## Identities that are not accepted -/

theorem kind_of_crypto {Value : Type} {result : Except CryptoError Value} {e : PairingError}
    (failed : result.mapError PairingError.crypto = .error e) : e.kind = .crypto := by
  obtain ⟨cause, _, rfl⟩ := exists_of_mapError_eq_error failed
  rfl

theorem kind_of_invalidSubTlv {Value : Type} {result : Except Tlv.Error Value}
    {e : PairingError} (failed : result.mapError PairingError.invalidSubTlv = .error e) :
    e.kind = .crypto := by
  obtain ⟨cause, _, rfl⟩ := exists_of_mapError_eq_error failed
  rfl

theorem Suite.kind_of_checkSignature {suite : Suite} {publicKey : Key}
    {message signature : Bytes} {e : PairingError}
    (failed : suite.checkSignature publicKey message signature = .error e) :
    e.kind = .crypto := by
  rcases eq_error_of_bind_eq_error failed with unusable | ⟨parsed, _, failed⟩
  · exact kind_of_crypto unusable
  · rcases eq_error_of_bind_eq_error failed with misfit | ⟨fitting, _, failed⟩
    · exact kind_of_crypto misfit
    · split at failed
      · cases failed
      · cases failed
        rfl

theorem SetupPayload.kind_of_decode {bytes : Bytes} {e : PairingError}
    (failed : decode bytes = .error e) : e.kind = .crypto := by
  rcases eq_error_of_bind_eq_error failed with unread | ⟨message, _, failed⟩
  · exact kind_of_invalidSubTlv unread
  · rcases eq_error_of_bind_eq_error failed with nameless | ⟨id, _, failed⟩
    · exact kind_of_invalidSubTlv nameless
    · rcases eq_error_of_bind_eq_error failed with keyless | ⟨publicKey, _, failed⟩
      · exact kind_of_invalidSubTlv keyless
      · rcases eq_error_of_bind_eq_error failed with unsigned | ⟨signature, _, failed⟩
        · exact kind_of_invalidSubTlv unsigned
        · cases failed

theorem VerifyPayload.kind_of_decode {bytes : Bytes} {e : PairingError}
    (failed : decode bytes = .error e) : e.kind = .crypto := by
  rcases eq_error_of_bind_eq_error failed with unread | ⟨message, _, failed⟩
  · exact kind_of_invalidSubTlv unread
  · rcases eq_error_of_bind_eq_error failed with nameless | ⟨id, _, failed⟩
    · exact kind_of_invalidSubTlv nameless
    · rcases eq_error_of_bind_eq_error failed with unsigned | ⟨signature, _, failed⟩
      · exact kind_of_invalidSubTlv unsigned
      · cases failed

/-- A proof fails as a cryptographic failure, also for want of a record. -/
theorem VerifyStage.kind_of_openProof {suite : Suite} {store : Store} {pending : PendingVerify}
    {sealed : Bytes} {e : PairingError}
    (failed : openProof suite store pending sealed = .error e) : e.kind = .crypto := by
  unfold openProof at failed
  rcases eq_error_of_bind_eq_error failed with unopened | ⟨text, _, failed⟩
  · exact kind_of_crypto unopened
  · rcases eq_error_of_bind_eq_error failed with unread | ⟨payload, _, failed⟩
    · exact VerifyPayload.kind_of_decode unread
    · cases found : store.find? payload.id with
      | none =>
          simp only [found] at failed
          cases failed
          rfl
      | some controller =>
          simp only [found] at failed
          rcases eq_error_of_bind_eq_error failed with unproved | ⟨_, _, failed⟩
          · exact Suite.kind_of_checkSignature unproved
          · cases failed

namespace SetupStage

variable {suite : Suite} {stage : SetupStage} {accessory : Accessory} {host : Host}
  {body : Bytes}

theorem kind_of_openExchange {sessionKey sealed : Bytes} {e : PairingError}
    (failed : openExchange suite sessionKey sealed = .error e) : e.kind = .crypto := by
  rcases eq_error_of_bind_eq_error failed with unopened | ⟨text, _, failed⟩
  · exact kind_of_crypto unopened
  · rcases eq_error_of_bind_eq_error failed with unread | ⟨payload, _, failed⟩
    · exact SetupPayload.kind_of_decode unread
    · rcases eq_error_of_bind_eq_error failed with unproved | ⟨_, _, failed⟩
      · exact Suite.kind_of_checkSignature unproved
      · cases failed

/-! ## A lack of room -/

/-- Only a store that is full refuses for lack of room, and only at the end of an
exchange. -/
theorem Refused.full_of_code {e : PairingError}
    (refused : Refused suite stage accessory host body e)
    (code : e.code = ErrorCode.maxPeers) :
    (∃ sessionKey lease, stage = awaitingExchange sessionKey lease) ∧
      accessory.store.capacity ≤ accessory.store.registry.size := by
  cases refused with
  | malformed unread =>
      rw [SetupRequest.code_of_parse unread] at code
      cases code
  | outOfTurn _ _ _ => cases code
  | unsupported _ _ => cases code
  | alreadyPaired _ _ => cases code
  | lockedOut _ _ _ => cases code
  | taken _ _ _ _ => cases code
  | unaccepted _ _ failed =>
      rw [PairingError.code_of_crypto (kind_of_openExchange failed)] at code
      cases code
  | @unfiled sessionKey lease sealed payload e waiting _ _ failed =>
      refine ⟨⟨sessionKey, lease, waiting⟩, ?_⟩
      rcases Store.eq_error_of_put failed with ⟨kind, rfl⟩ | ⟨_, _, full⟩
      · cases code
      · exact full

theorem full_of_answer {state : UInt8}
    (answered : (stage.handle suite accessory host body).answer =
      Pairing.errorReply state ErrorCode.maxPeers) :
    (∃ sessionKey lease, stage = awaitingExchange sessionKey lease) ∧
      accessory.store.capacity ≤ accessory.store.registry.size := by
  have refusal := Pairing.isRefusal_errorReply state ErrorCode.maxPeers
  obtain ⟨e, refused⟩ := (isRefusal_handle_iff host).mp (answered ▸ refusal)
  rw [answer_handle_of_error host refused] at answered
  have code := (Pairing.errorReply_injective answered).2
  have effect := effect_attempt suite stage accessory host body
  rw [refused] at effect
  generalize (stage.attempt suite accessory host body).stage = next at effect
  generalize (stage.attempt suite accessory host body).accessory = after at effect
  cases effect with
  | refused _ reason => exact reason.full_of_code code
  | rejected _ => cases code

end SetupStage

/-! ## All the codes -/

theorem ErrorCode.mem_all_of_unknown {code : UInt8} (same : code = unknown) : code ∈ all := by
  rw [same]
  decide

/-- Only what the other side has answered could have another code. -/
theorem PairingError.code_mem {e : PairingError} (own : ∀ code, e ≠ .peerError code) :
    e.code ∈ ErrorCode.all := by
  cases e with
  | peerError code => exact absurd rfl (own code)
  | _ => simp [code, kind, ErrorCode.all]

theorem ErrorCode.mem_all_of_crypto {e : PairingError} (kind : e.kind = .crypto) :
    e.code ∈ all := by
  rw [PairingError.code_of_crypto kind]
  decide

theorem StoreError.code_mem (cause : StoreError) :
    (PairingError.ofStore cause).code ∈ ErrorCode.all := by
  cases cause with
  | full capacity => exact PairingError.code_mem nofun
  | keyMismatch id => exact PairingError.code_mem nofun
  | _ => exact PairingError.code_mem nofun

theorem SetupStage.Refused.code_mem {suite : Suite} {stage : SetupStage}
    {accessory : Accessory} {host : Host} {body : Bytes} {e : PairingError}
    (refused : Refused suite stage accessory host body e) : e.code ∈ ErrorCode.all := by
  cases refused with
  | malformed unread => exact ErrorCode.mem_all_of_unknown (SetupRequest.code_of_parse unread)
  | outOfTurn _ _ _ => exact PairingError.code_mem nofun
  | unsupported _ _ => exact PairingError.code_mem nofun
  | alreadyPaired _ _ => exact PairingError.code_mem nofun
  | lockedOut _ _ _ => exact PairingError.code_mem nofun
  | taken _ _ _ _ => exact PairingError.code_mem nofun
  | unaccepted _ _ failed => exact ErrorCode.mem_all_of_crypto (kind_of_openExchange failed)
  | @unfiled _ _ _ _ cause _ _ _ _ => exact cause.code_mem

namespace VerifyStage

/-- Why a request to Pair-Verify is refused: it cannot be read, the agreement would be
worthless, it is out of turn, or the proof is not accepted. -/
inductive Refused (suite : Suite) (stage : VerifyStage) (accessory : Accessory) (host : Host)
    (body : Bytes) : PairingError → Prop
  | malformed {e} :
      VerifyRequest.parse body = .error e →
      Refused suite stage accessory host body e
  | degenerate {publicKey} :
      VerifyRequest.parse body = .ok (.start publicKey) →
      (agreement suite (host.draw 32).1 publicKey).sharedSecret = Block.zero →
      Refused suite stage accessory host body (.crypto .invalidPublicKey)
  | outOfTurn {sealed} :
      VerifyRequest.parse body = .ok (.finish sealed) →
      (∀ pending, stage ≠ awaitingFinish pending) →
      Refused suite stage accessory host body (.unexpectedState 1 3)
  | unproved {pending sealed e} :
      stage = awaitingFinish pending →
      VerifyRequest.parse body = .ok (.finish sealed) →
      openProof suite accessory.store pending sealed = .error e →
      Refused suite stage accessory host body e

variable {suite : Suite} {stage : VerifyStage} {accessory : Accessory} {host : Host}
  {body : Bytes} {e : PairingError}

theorem refused_of_attempt
    (failed : (stage.attempt suite accessory host body).answer = .error e) :
    Refused suite stage accessory host body e := by
  unfold attempt at failed
  cases parsed : VerifyRequest.parse body with
  | error cause =>
      simp only [parsed] at failed
      cases failed
      exact .malformed parsed
  | ok request =>
      simp only [parsed] at failed
      cases request with
      | start publicKey =>
          have processed : stage.process suite accessory host (.start publicKey) =
              start suite accessory.identity host publicKey := by
            cases stage <;> rfl
          rw [processed] at failed
          simp only [start] at failed
          split at failed
          · next worthless =>
              cases failed
              exact .degenerate parsed worthless
          · cases failed
      | finish sealed =>
          cases stage with
          | awaitingFinish pending =>
              simp only [process, finish] at failed
              split at failed
              · next cause unproved =>
                  cases failed
                  exact .unproved rfl parsed unproved
              · cases failed
          | awaitingStart | done =>
              cases failed
              refine .outOfTurn parsed ?_
              intro pending same
              cases same

theorem Refused.code_mem (refused : Refused suite stage accessory host body e) :
    e.code ∈ ErrorCode.all := by
  cases refused with
  | malformed unread => exact ErrorCode.mem_all_of_unknown (VerifyRequest.code_of_parse unread)
  | degenerate _ _ => exact PairingError.code_mem nofun
  | outOfTurn _ _ => exact PairingError.code_mem nofun
  | unproved _ _ failed => exact ErrorCode.mem_all_of_crypto (kind_of_openProof failed)

end VerifyStage

theorem Management.code_mem_of_attempt {accessory : Accessory} {host : Host}
    {requester : Option String} {body : Bytes} {e : PairingError}
    (failed : (attempt accessory host requester body).answer = .error e) :
    e.code ∈ ErrorCode.all := by
  unfold attempt at failed
  cases parsed : PairingsRequest.parse body with
  | error cause =>
      simp only [parsed] at failed
      cases failed
      exact ErrorCode.mem_all_of_unknown (PairingsRequest.code_of_parse parsed)
  | ok request =>
      simp only [parsed, process] at failed
      split at failed
      · cases request with
        -- An admin is refused by the store, or not at all.
        | add id publicKey permissions =>
            simp only [perform] at failed
            split at failed
            · cases failed
            · next cause _ _ _ =>
                cases failed
                exact cause.code_mem
        | remove id =>
            simp only [perform] at failed
            split at failed
            · cases failed
            · next cause _ _ _ =>
                cases failed
                exact cause.code_mem
        | list => cases failed
      · cases failed
        refine PairingError.code_mem ?_
        intro code same
        cases same

end HomePairing
