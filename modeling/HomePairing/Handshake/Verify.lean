import HomePairing.Accessory
import HomePairing.Handshake.Payload
import HomePairing.Handshake.SessionKeys

/-!
# Pair-Verify

A paired controller proves who it is over a fresh key agreement, and both sides
derive the keys of a session from it. Pair-Verify reads the store and changes
nothing but its own stage.
-/

namespace HomePairing

inductive VerifyRequest where
  /-- The controller's agreement value. -/
  | start (publicKey : Key)
  /-- The controller's sealed proof. -/
  | finish (sealed : Bytes)
deriving DecidableEq

namespace VerifyRequest

def state : VerifyRequest → UInt8
  | start _ => 1
  | finish _ => 3

/-- The request that a message with a given step is. -/
def ofMessage (message : Tlv.Message) (state : UInt8) : Except PairingError VerifyRequest :=
  if state = 1 then do
    let publicKey ← (message.requireBlock 32 .publicKey).mapError .tlv
    return .start publicKey
  else if state = 3 then do
    let sealed ← (message.require .encryptedData).mapError .tlv
    return .finish sealed
  else
    .error (.unexpectedState 1 state)

def parse (body : Bytes) : Except PairingError VerifyRequest := do
  let message ← Pairing.decode body
  let state ← message.state.mapError .tlv
  ofMessage message state

end VerifyRequest

/-- What the accessory keeps between the two requests. -/
structure PendingVerify where
  accessoryPublic : Key
  controllerPublic : Key
  sharedSecret : Key
  /-- The key that the controller's proof is sealed under. -/
  encryptKey : Key
deriving DecidableEq

/-- What a Pair-Verify waits for. -/
inductive VerifyStage where
  /-- The first request. -/
  | awaitingStart
  /-- The controller's proof, in an agreement under way. -/
  | awaitingFinish (pending : PendingVerify)
  /-- Nothing more: the controller is verified. -/
  | done
deriving DecidableEq

/-- The answer to a Pair-Verify request. -/
inductive VerifyStep where
  /-- A reply, with more to come. -/
  | respond (body : Bytes)
  /-- The reply to a verified controller, its record, and the session's keys. -/
  | verified (body : Bytes) (controller : PairingRecord) (keys : SessionKeys)
deriving DecidableEq

def VerifyStep.body : VerifyStep → Bytes
  | respond body => body
  | verified body _ _ => body

structure VerifyOutcome (Answer : Type) where
  stage : VerifyStage
  host : Host
  answer : Answer

namespace VerifyStage

def isComplete (stage : VerifyStage) : Bool :=
  stage == done

def name : VerifyStage → String
  | awaitingStart => "AwaitingStart"
  | awaitingFinish _ => "AwaitingFinish"
  | done => "Done"

def describe (stage : VerifyStage) : String :=
  "PairVerify \x7b stage: " ++ Text.quote stage.name ++ " \x7d"

def refuse (host : Host) (e : PairingError) : VerifyOutcome (Except PairingError VerifyStep) :=
  { stage := awaitingStart, host, answer := .error e }

variable (suite : Suite)

/-! ## The first request -/

/-- The accessory's identifier and signature, sealed. -/
def sealProof (identity : Identity) (pending : PendingVerify) : Bytes :=
  let signed := VerifyPayload.signed pending.accessoryPublic identity.pairingId
    pending.controllerPublic
  let payload : VerifyPayload :=
    { id := identity.pairingId, signature := (identity.sign suite signed).bytes }
  suite.sealMessage pending.encryptKey .verify2 payload.encode

def startReply (publicKey : Key) (sealed : Bytes) : Bytes :=
  Tlv.encode [Tlv.stateField 2, (.publicKey, publicKey.bytes), (.encryptedData, sealed)]

/-- What an agreement secret and the controller's value come to. -/
def agreement (secret controllerPublic : Key) : PendingVerify :=
  let sharedSecret := suite.agree secret controllerPublic
  { accessoryPublic := suite.agreementPublic secret
    controllerPublic := controllerPublic
    sharedSecret := sharedSecret
    encryptKey := suite.derive .verifyEncrypt sharedSecret.bytes }

/-- Agree on a key and prove who the accessory is. A value that makes the secret
zero is refused. -/
def start (identity : Identity) (host : Host) (controllerPublic : Key) :
    VerifyOutcome (Except PairingError VerifyStep) :=
  -- The secret is spent even if nothing comes of it.
  let (secret, host) := host.draw 32
  let pending := agreement suite secret controllerPublic
  if pending.sharedSecret = Block.zero then
    refuse host (.crypto .invalidPublicKey)
  else
    { stage := awaitingFinish pending
      host := host
      answer := .ok (.respond
        (startReply pending.accessoryPublic (sealProof suite identity pending))) }

/-! ## The proof -/

def finishReply : Bytes :=
  Tlv.encode [Tlv.stateField 4]

/-- The record of the controller whose proof was sealed, if the proof holds. -/
def openProof (store : Store) (pending : PendingVerify) (sealed : Bytes) :
    Except PairingError PairingRecord := do
  let text ← (suite.openMessage pending.encryptKey .verify3 sealed).mapError .crypto
  let payload ← VerifyPayload.decode text
  match store.find? payload.id with
  | none => throw (.unknownController payload.id)
  | some controller =>
    -- The stored key decides, not one that came with the payload.
    let signed := VerifyPayload.signed pending.controllerPublic payload.id
      pending.accessoryPublic
    suite.checkSignature controller.publicKey signed payload.signature
    return controller

/-- Check the controller's proof and derive the session's keys. -/
def finish (store : Store) (host : Host) (pending : PendingVerify) (sealed : Bytes) :
    VerifyOutcome (Except PairingError VerifyStep) :=
  match openProof suite store pending sealed with
  | .error e => refuse host e
  | .ok controller =>
    let keys := SessionKeys.derive suite pending.sharedSecret.bytes
    { stage := done, host, answer := .ok (.verified finishReply controller keys) }

/-! ## All requests -/

/-- Run one request. A first request always starts over. -/
def process (stage : VerifyStage) (accessory : Accessory) (host : Host)
    (request : VerifyRequest) : VerifyOutcome (Except PairingError VerifyStep) :=
  match stage, request with
  | _, .start publicKey => start suite accessory.identity host publicKey
  | awaitingFinish pending, .finish sealed => finish suite accessory.store host pending sealed
  | _, request => refuse host (.unexpectedState 1 request.state)

/-- Read a request and run it. One that cannot be read changes nothing. -/
def submit (stage : VerifyStage) (accessory : Accessory) (host : Host) (body : Bytes) :
    VerifyOutcome (Except PairingError VerifyStep) :=
  match VerifyRequest.parse body with
  | .ok request => stage.process suite accessory host request
  | .error e => { stage, host, answer := .error e }

/-- Read a request and run it. One that cannot be read is refused as well. -/
def attempt (stage : VerifyStage) (accessory : Accessory) (host : Host) (body : Bytes) :
    VerifyOutcome (Except PairingError VerifyStep) :=
  match VerifyRequest.parse body with
  | .ok request => stage.process suite accessory host request
  | .error e => refuse host e

/-- Answer a request. A refusal is a reply like any other, and a warning. -/
def handle (stage : VerifyStage) (accessory : Accessory) (host : Host) (body : Bytes) :
    VerifyOutcome VerifyStep :=
  let outcome := stage.attempt suite accessory host body
  match outcome.answer with
  | .ok step => { outcome with answer := step }
  | .error e =>
    let state := Pairing.replyState body
    { outcome with
      host := outcome.host.warn (.verifyFailed accessory.pairingId (state - 1) e)
      answer := .respond (Pairing.errorReply state e.code) }

end VerifyStage

end HomePairing
