import HomePairing.Controller
import HomePairing.Proofs.Crypto.Laws
import HomePairing.Proofs.Tlv.RoundTrip

/-!
# Messages, read by the other side

The six messages of Pair-Setup, the four of Pair-Verify and the payloads sealed in some of
them are written by one side and read by the other. Each is read as what it was written
from, whatever the lengths of its values, and a signature made by an identity is accepted by
the other side. The requests to manage pairings are read back in the same way.
-/

namespace HomePairing

/-! ## Going on -/

theorem ok_bind {Failure First Second : Type} (value : First)
    (next : First → Except Failure Second) : (.ok value >>= next) = next value := rfl

theorem mapError_ok {Failure Wording Value : Type} (value : Value)
    (wording : Failure → Wording) :
    (.ok value : Except Failure Value).mapError wording = .ok value := rfl

/-! ## Messages in general -/

namespace Pairing

theorem decode_encode_of_distinct {fields : List (Tlv.Tag × Bytes)}
    (distinct : (fields.map Prod.fst).IsChain (· ≠ ·)) :
    decode (Tlv.encode fields) = .ok (.ofFields fields) := by
  rw [decode, Tlv.decode_encode_of_distinct distinct]
  rfl

theorem decodeSealed_encode_of_distinct {fields : List (Tlv.Tag × Bytes)}
    (distinct : (fields.map Prod.fst).IsChain (· ≠ ·)) :
    decodeSealed (Tlv.encode fields) = .ok (.ofFields fields) := by
  rw [decodeSealed, Tlv.decode_encode_of_distinct distinct]
  rfl

end Pairing

namespace Tlv.Message

theorem require_of_get? {message : Message} {tag : Tag} {value : Bytes}
    (found : message.get? tag = some value) : message.require tag = .ok value := by
  rw [require, found]

/-- A message that starts with its step is of that step. -/
@[simp] theorem state_ofFields (state : UInt8) (fields : List (Tag × Bytes)) :
    (ofFields (stateField state :: fields)).state = .ok state := by
  simp [Message.state, requireByte, require, stateField]

end Tlv.Message

namespace Pairing

/-- A reply that starts with its step and has no error is of that step. -/
theorem expectState_ofFields {state : UInt8} {fields : List (Tlv.Tag × Bytes)}
    (faultless : (Tlv.Message.ofFields fields).get? .error = none) :
    expectState (.ofFields (Tlv.stateField state :: fields)) state = .ok () := by
  have none : (Tlv.Message.ofFields (Tlv.stateField state :: fields)).errorCode? = none := by
    simp [Tlv.Message.errorCode?, Tlv.Message.firstByte?, Tlv.stateField, faultless]
  simp [expectState, none]

/-- Whoever waits for a step reads the reply of that step from its fields. -/
theorem read_reply {Value : Type} {state : UInt8} {fields : List (Tlv.Tag × Bytes)}
    (distinct : ((Tlv.stateField state :: fields).map Prod.fst).IsChain (· ≠ ·))
    (faultless : (Tlv.Message.ofFields fields).get? .error = none)
    (next : Tlv.Message → Except PairingError Value) :
    (do let reply ← decode (Tlv.encode (Tlv.stateField state :: fields))
        expectState reply state
        next reply) = next (.ofFields (Tlv.stateField state :: fields)) := by
  rw [decode_encode_of_distinct distinct, ok_bind, expectState_ofFields faultless, ok_bind]

/-- A request that starts with its step is read from its fields. -/
theorem read_request {Value : Type} {state : UInt8} {fields : List (Tlv.Tag × Bytes)}
    (distinct : ((Tlv.stateField state :: fields).map Prod.fst).IsChain (· ≠ ·))
    (next : Tlv.Message → UInt8 → Except PairingError Value) :
    (do let message ← decode (Tlv.encode (Tlv.stateField state :: fields))
        let state ← message.state.mapError .tlv
        next message state) = next (.ofFields (Tlv.stateField state :: fields)) state := by
  rw [decode_encode_of_distinct distinct, ok_bind, Tlv.Message.state_ofFields, mapError_ok,
    ok_bind]

end Pairing

/-! ## Requests -/

namespace SetupRequest

/-- A request is read from its fields once its step is known. -/
theorem parse_encode {state : UInt8} {fields : List (Tlv.Tag × Bytes)}
    (distinct : ((Tlv.stateField state :: fields).map Prod.fst).IsChain (· ≠ ·)) :
    parse (Tlv.encode (Tlv.stateField state :: fields)) =
      ofMessage (.ofFields (Tlv.stateField state :: fields)) state :=
  Pairing.read_request distinct ofMessage

theorem parse_setupStart (controller : Controller) :
    parse controller.setupStart.2 = .ok (.start Method.pairSetup) := by
  rw [Controller.setupStart, parse_encode (by simp [Tlv.stateField, Tlv.methodField])]
  simp [ofMessage, Tlv.Message.firstByte?, Tlv.stateField, Tlv.methodField]

theorem parse_proofRequest (pending : Srp.Pending) :
    parse (Controller.proofRequest pending) =
      .ok (.prove pending.publicKey pending.proof) := by
  rw [Controller.proofRequest, parse_encode (by simp [Tlv.stateField])]
  simp [ofMessage, Tlv.Message.require, Tlv.stateField, mapError_ok, ok_bind]

end SetupRequest

/-! ## Replies -/

namespace Controller

variable {suite : Suite}

theorem readChallenge_startReply (salt : Block 16) (publicKey : Bytes) :
    readChallenge (SetupStage.startReply salt publicKey) = .ok (salt.bytes, publicKey) := by
  rw [SetupStage.startReply, readChallenge,
    Pairing.read_reply (by simp [Tlv.stateField]) (by simp)]
  simp [Tlv.Message.require, Tlv.stateField, mapError_ok, ok_bind]

/-- A proof that holds releases the key. -/
theorem readProof_proofReply {pending : Srp.Pending} {proof key : Bytes}
    (holds : pending.verifyServer suite.srp proof = .ok key) :
    readProof suite pending (SetupStage.proofReply proof) = .ok key := by
  rw [SetupStage.proofReply, readProof,
    Pairing.read_reply (by simp [Tlv.stateField]) (by simp)]
  simp [Tlv.Message.require, Tlv.stateField, mapError_ok, ok_bind, holds]
  rfl

end Controller

/-! ## Identities -/

/-- Signing and checking under the signer's own key. -/
theorem Suite.Signs.checkSignature {suite : Suite} (signs : suite.Signs) (identity : Identity)
    (message : Bytes) :
    suite.checkSignature (identity.publicKey suite) message
      (identity.sign suite message).bytes = .ok () := by
  rw [Suite.checkSignature, Suite.parsePublic, Identity.publicKey, if_pos (signs.isPublic _),
    mapError_ok, ok_bind, Suite.parseBlock, Block.ofBytes?_bytes, mapError_ok, ok_bind,
    Identity.sign, if_pos (signs.verifies _ _)]
  rfl

theorem SetupPayload.decode_encode (payload : SetupPayload) :
    decode payload.encode = .ok payload := by
  rw [decode, encode, Pairing.decodeSealed_encode_of_distinct (by simp)]
  simp [Tlv.Message.requireIdentifier, Tlv.Message.requireBlock, Tlv.Message.require,
    mapError_ok, ok_bind]

namespace Identity

variable (suite : Suite)

/-- The payload that brings an identity. Each side has a label of its own to sign under. -/
def setupPayload (identity : Identity) (label : KeyLabel) (sessionKey : Bytes) :
    SetupPayload where
  id := identity.pairingId
  publicKey := identity.publicKey suite
  signature := (identity.sign suite (SetupPayload.signed suite label sessionKey
    identity.pairingId (identity.publicKey suite))).bytes

/-- The payload, sealed under the agreed key for one of the messages. -/
def sealedPayload (identity : Identity) (label : KeyLabel) (message : SealedMessage)
    (sessionKey : Bytes) : Bytes :=
  suite.sealMessage (suite.derive .setupEncrypt sessionKey) message
    (identity.setupPayload suite label sessionKey).encode

end Identity

section

variable {suite : Suite} (seals : suite.Seals) (signs : suite.Signs)
include seals signs

theorem SetupStage.openExchange_sealedPayload (identity : Identity) (sessionKey : Bytes) :
    openExchange suite sessionKey
        (identity.sealedPayload suite .setupControllerSign .setup5 sessionKey) =
      .ok (identity.setupPayload suite .setupControllerSign sessionKey) := by
  rw [openExchange, Identity.sealedPayload]
  simp only [seals.openMessage_sealMessage, SetupPayload.decode_encode, mapError_ok, ok_bind,
    Identity.setupPayload, signs.checkSignature]
  rfl

theorem Controller.readIdentity_exchangeReply (identity : Identity) (sessionKey : Bytes) :
    readIdentity suite sessionKey
        (SetupStage.exchangeReply (SetupStage.sealIdentity suite identity sessionKey)) =
      .ok ⟨identity.pairingId, identity.publicKey suite⟩ := by
  have found : (Tlv.Message.ofFields [Tlv.stateField 6,
      (.encryptedData, SetupStage.sealIdentity suite identity sessionKey)]).get?
        .encryptedData =
      some (identity.sealedPayload suite .setupAccessorySign .setup6 sessionKey) := by
    simp [Tlv.stateField]
    rfl
  rw [SetupStage.exchangeReply, readIdentity,
    Pairing.read_reply (by simp [Tlv.stateField]) (by simp),
    Tlv.Message.require_of_get? found, mapError_ok, ok_bind, Identity.sealedPayload]
  simp only [seals.openMessage_sealMessage, SetupPayload.decode_encode, mapError_ok, ok_bind,
    Identity.setupPayload, signs.checkSignature]
  rfl

end

theorem SetupRequest.parse_identityRequest (suite : Suite) (identity : Identity)
    (sessionKey : Bytes) :
    parse (Controller.identityRequest suite identity sessionKey) =
      .ok (.exchange (identity.sealedPayload suite .setupControllerSign .setup5 sessionKey)) := by
  have written : Controller.identityRequest suite identity sessionKey =
      Tlv.encode [Tlv.stateField 5, (.encryptedData,
        identity.sealedPayload suite .setupControllerSign .setup5 sessionKey)] := rfl
  rw [written, parse_encode (by simp [Tlv.stateField])]
  simp [ofMessage, Tlv.Message.require, Tlv.stateField, mapError_ok]

/-! ## Pair-Verify -/

namespace VerifyRequest

/-- A request is read from its fields once its step is known. -/
theorem parse_encode {state : UInt8} {fields : List (Tlv.Tag × Bytes)}
    (distinct : ((Tlv.stateField state :: fields).map Prod.fst).IsChain (· ≠ ·)) :
    parse (Tlv.encode (Tlv.stateField state :: fields)) =
      ofMessage (.ofFields (Tlv.stateField state :: fields)) state :=
  Pairing.read_request distinct ofMessage

theorem parse_verifyStart (suite : Suite) (controller : Controller) (entropy : Entropy) :
    parse (controller.verifyStart suite entropy).1.2 =
      .ok (.start (suite.agreementPublic (entropy.draw 32).1)) := by
  rw [Controller.verifyStart, parse_encode (by simp [Tlv.stateField])]
  simp [ofMessage, Tlv.Message.requireBlock, Tlv.Message.require, Tlv.stateField, mapError_ok]

end VerifyRequest

theorem VerifyPayload.decode_encode (payload : VerifyPayload) :
    decode payload.encode = .ok payload := by
  rw [decode, encode, Pairing.decodeSealed_encode_of_distinct (by simp)]
  simp [Tlv.Message.requireIdentifier, Tlv.Message.require, mapError_ok, ok_bind]

/-- The payload that proves an identity in an agreement. Each side signs its own value
first. -/
def Identity.verifyPayload (suite : Suite) (identity : Identity) (own other : Key) :
    VerifyPayload where
  id := identity.pairingId
  signature := (identity.sign suite (VerifyPayload.signed own identity.pairingId other)).bytes

theorem VerifyRequest.parse_finishRequest (suite : Suite) (identity : Identity)
    (encryptKey own other : Key) :
    parse (Controller.finishRequest suite identity encryptKey own other) =
      .ok (.finish (suite.sealMessage encryptKey .verify3
        (identity.verifyPayload suite own other).encode)) := by
  have written : Controller.finishRequest suite identity encryptKey own other =
      Tlv.encode [Tlv.stateField 3, (.encryptedData, suite.sealMessage encryptKey .verify3
        (identity.verifyPayload suite own other).encode)] := rfl
  rw [written, parse_encode (by simp [Tlv.stateField])]
  simp [ofMessage, Tlv.Message.require, Tlv.stateField, mapError_ok]

theorem Controller.readConfirmation_finishReply :
    readConfirmation VerifyStage.finishReply = .ok () := by
  rw [readConfirmation, VerifyStage.finishReply,
    Tlv.decode_encode_of_distinct (by simp [Tlv.stateField]), mapError_ok, ok_bind,
    Pairing.expectState_ofFields (by simp)]
  rfl

/-- The proof of the accessory that is trusted is accepted. -/
theorem Controller.checkAccessory_verifyPayload {suite : Suite} (signs : suite.Signs)
    (identity : Identity) (own other : Key) :
    checkAccessory suite (some ⟨identity.pairingId, identity.publicKey suite⟩)
      (identity.verifyPayload suite own other) own other = .ok () := by
  have holds := signs.verifies identity.seed
    (VerifyPayload.signed own identity.pairingId other)
  simp only [checkAccessory, Identity.verifyPayload, if_true, Suite.parseBlock,
    Block.ofBytes?_bytes, mapError_ok, ok_bind, Identity.sign, Identity.publicKey, holds]
  rfl

section

variable {suite : Suite} (seals : suite.Seals) (signs : suite.Signs)
include seals signs

/-- A proof of the identity whose key is filed is accepted, and gets the record. -/
theorem VerifyStage.openProof_verifyPayload {store : Store} {pending : PendingVerify}
    {identity : Identity} {record : PairingRecord}
    (filed : store.find? identity.pairingId = some record)
    (sameKey : record.publicKey = identity.publicKey suite) :
    openProof suite store pending (suite.sealMessage pending.encryptKey .verify3
      (identity.verifyPayload suite pending.controllerPublic pending.accessoryPublic).encode) =
        .ok record := by
  rw [openProof, seals.openMessage_sealMessage, mapError_ok, ok_bind,
    VerifyPayload.decode_encode, ok_bind]
  simp only [Identity.verifyPayload, filed, sameKey, signs.checkSignature, ok_bind]
  rfl

/-- The controller of the same agreement accepts the accessory's proof, and answers with its
own. -/
theorem Controller.proveIdentity_startReply {controller : Controller} {identity : Identity}
    {secret own : Key}
    (trusts : controller.trusted = some ⟨identity.pairingId, identity.publicKey suite⟩)
    (shared : suite.agree own (suite.agreementPublic secret) =
      suite.agree secret (suite.agreementPublic own)) :
    let pending := VerifyStage.agreement suite secret (suite.agreementPublic own)
    controller.proveIdentity suite own (VerifyStage.startReply pending.accessoryPublic
        (VerifyStage.sealProof suite identity pending)) =
      .ok (finishRequest suite controller.identity pending.encryptKey
          pending.controllerPublic pending.accessoryPublic,
        SessionKeys.derive suite pending.sharedSecret.bytes) := by
  intro pending
  have sealed : VerifyStage.sealProof suite identity pending =
      suite.sealMessage pending.encryptKey .verify2 (identity.verifyPayload suite
        pending.accessoryPublic pending.controllerPublic).encode := rfl
  rw [VerifyStage.startReply, sealed, proveIdentity,
    Pairing.read_reply (by simp [Tlv.stateField]) (by simp)]
  -- What the controller agrees on is what the accessory has agreed on, and so is the key.
  have secrets : suite.agree own pending.accessoryPublic = pending.sharedSecret := shared
  have key : suite.derive .verifyEncrypt pending.sharedSecret.bytes = pending.encryptKey := rfl
  have value : suite.agreementPublic own = pending.controllerPublic := rfl
  simp only [Tlv.Message.require, Tlv.Message.get?_ofFields_cons, Tlv.stateField, mapError_ok,
    ok_bind, Suite.parseBlock, Block.ofBytes?_bytes, secrets, key, value, reduceCtorEq, if_false,
    if_true, seals.openMessage_sealMessage, VerifyPayload.decode_encode, trusts,
    checkAccessory_verifyPayload signs]
  rfl

end

/-! ## Managing pairings -/

namespace PairingsRequest

/-- A request is read from its fields once its step and its method are known. -/
theorem parse_fields {method : UInt8} {fields : List (Tlv.Tag × Bytes)}
    (distinct : ((Tlv.stateField 1 :: Tlv.methodField method :: fields).map
      Prod.fst).IsChain (· ≠ ·)) :
    parse (Tlv.encode (Tlv.stateField 1 :: Tlv.methodField method :: fields)) =
      ofMessage (.ofFields (Tlv.stateField 1 :: Tlv.methodField method :: fields)) method := by
  have named : (Tlv.Message.ofFields
      (Tlv.stateField 1 :: Tlv.methodField method :: fields)).requireByte .method =
        .ok method := by
    simp [Tlv.Message.requireByte, Tlv.Message.require, Tlv.stateField, Tlv.methodField]
  rw [parse, Pairing.decode_encode_of_distinct distinct, ok_bind,
    Tlv.Message.state_ofFields, mapError_ok, ok_bind, if_neg (by decide), named]
  rfl

theorem parse_encode (request : PairingsRequest) : parse request.encode = .ok request := by
  cases request with
  | add id publicKey permissions =>
      rw [encode, parse_fields (by simp [Tlv.stateField, Tlv.methodField])]
      simp [ofMessage, readController, requirePermissions, Tlv.Message.requireByte,
        Tlv.Message.requireIdentifier, Tlv.Message.requireBlock, Tlv.Message.require,
        Tlv.stateField, Tlv.methodField, mapError_ok, ok_bind]
  | remove id =>
      have other : Method.removePairing ≠ Method.addPairing := by decide
      rw [encode, parse_fields (by simp [Tlv.stateField, Tlv.methodField])]
      simp [ofMessage, other, Tlv.Message.requireIdentifier, Tlv.Message.require,
        Tlv.stateField, Tlv.methodField, mapError_ok]
  | list =>
      rw [encode, parse_fields (by simp [Tlv.stateField, Tlv.methodField])]
      rfl

end PairingsRequest

end HomePairing
