import HomePairing.Accessory
import HomePairing.Handshake.Payload

/-!
# Pair-Setup

Three requests turn the knowledge of a setup code into an admin pairing. The
first gets a salt and a public value, the second proves the code, the third
brings the controller's long-term key, sealed under what both sides now share.

The accessory remembers between requests which one it waits for. A request that
fails in any way takes it back to the first, and gives back the right to run
Pair-Setup.
-/

namespace HomePairing

/-- The user name in every password exchange. -/
def setupUser : Bytes := Bytes.ofString "Pair-Setup"

inductive SetupRequest where
  | start (method : UInt8)
  /-- The controller's public value and the proof that it knows the code. -/
  | prove (publicKey proof : Bytes)
  /-- The controller's sealed identity. -/
  | exchange (sealed : Bytes)
deriving DecidableEq

namespace SetupRequest

def state : SetupRequest → UInt8
  | start _ => 1
  | prove _ _ => 3
  | exchange _ => 5

/-- The request that a message with a given step is. -/
def ofMessage (message : Tlv.Message) (state : UInt8) : Except PairingError SetupRequest :=
  if state = 1 then
    .ok (.start ((message.firstByte? .method).getD Method.pairSetup))
  else if state = 3 then do
    let publicKey ← (message.require .publicKey).mapError .tlv
    let proof ← (message.require .proof).mapError .tlv
    return .prove publicKey proof
  else if state = 5 then do
    let sealed ← (message.require .encryptedData).mapError .tlv
    return .exchange sealed
  else
    .error (.unexpectedState 1 state)

def parse (body : Bytes) : Except PairingError SetupRequest := do
  let message ← Pairing.decode body
  let state ← message.state.mapError .tlv
  ofMessage message state

end SetupRequest

/-- What a Pair-Setup waits for. -/
inductive SetupStage where
  /-- The first request. -/
  | awaitingStart
  /-- The proof, in an exchange under way. -/
  | awaitingProof (server : Srp.Server) (salt : Block 16) (lease : Lease)
  /-- The controller's identity, under an agreed key. -/
  | awaitingExchange (sessionKey : Bytes) (lease : Lease)
  /-- Nothing more: a pairing was made. A new first request starts over. -/
  | done
deriving DecidableEq

structure SetupOutcome (Answer : Type) where
  stage : SetupStage
  accessory : Accessory
  host : Host
  answer : Answer

namespace SetupStage

/-- The step of the request that is waited for. -/
def expectedState : SetupStage → UInt8
  | awaitingStart | done => 1
  | awaitingProof .. => 3
  | awaitingExchange .. => 5

/-- The right to run Pair-Setup, while it is held. -/
def lease? : SetupStage → Option Lease
  | awaitingProof _ _ lease => some lease
  | awaitingExchange _ lease => some lease
  | awaitingStart | done => none

def isComplete (stage : SetupStage) : Bool :=
  stage == done

def name : SetupStage → String
  | awaitingStart => "AwaitingStart"
  | awaitingProof .. => "AwaitingProof"
  | awaitingExchange .. => "AwaitingKeyExchange"
  | done => "Done"

def describe (stage : SetupStage) : String :=
  "PairSetup \x7b stage: " ++ Text.quote stage.name ++ " \x7d"

/-- Refuse a request: back to the first, and without the lease. -/
def refuse (lease? : Option Lease) (accessory : Accessory) (host : Host) (e : PairingError) :
    SetupOutcome (Except PairingError Bytes) :=
  { stage := awaitingStart
    accessory := accessory.releaseAll lease?
    host := host
    answer := .error e }

variable (suite : Suite)

/-! ## The first request -/

def startReply (salt : Block 16) (publicKey : Bytes) : Bytes :=
  Tlv.encode [Tlv.stateField 2, (.salt, salt.bytes), (.publicKey, publicKey)]

/-- Start, if the accessory is unpaired, not locked, and nobody else is pairing. -/
def start (accessory : Accessory) (host : Host) (method : UInt8) :
    SetupOutcome (Except PairingError Bytes) :=
  if method ≠ Method.pairSetup then
    refuse none accessory host (.unsupportedMethod method)
  else if accessory.isPaired then
    refuse none accessory host .alreadyPaired
  else if accessory.isLockedOut then
    refuse none accessory host .maxTries
  else
    -- The lease is asked for last, so every refusal above has none to give back.
    match accessory.tryBeginSetup with
    | none => refuse none accessory host .busy
    | some (lease, accessory) =>
      let (salt, host) := host.draw 16
      let (random, host) := host.draw 32
      let password := Bytes.ofString accessory.config.setupCode.text
      let verifier := suite.srp.verifier setupUser password salt.bytes
      let server := Srp.Server.start suite.srp verifier random.bytes
      { stage := awaitingProof server salt lease
        accessory := accessory
        host := host
        answer := .ok (startReply salt (server.publicKey suite.srp)) }

/-! ## The proof -/

/-- The reply to a proof that holds. -/
def proofReply (proof : Bytes) : Bytes :=
  Tlv.encode [Tlv.stateField 4, (.proof, proof)]

/-- Check the proof. One that does not hold is counted. -/
def verifyProof (accessory : Accessory) (host : Host) (server : Srp.Server) (salt : Block 16)
    (lease : Lease) (publicKey proof : Bytes) : SetupOutcome (Except PairingError Bytes) :=
  match server.verifyClient suite.srp setupUser salt.bytes publicKey proof with
  | .ok (sessionKey, serverProof) =>
    { stage := awaitingExchange sessionKey lease
      accessory := accessory
      host := host
      answer := .ok (proofReply serverProof) }
  | .error _ =>
    let accessory := accessory.recordFailure
    let host := host.warn (.proofRejected accessory.pairingId accessory.failedAttempts)
    refuse (some lease) accessory host .authenticationFailed

/-! ## The exchange of identities -/

/-- The controller's identity, opened and checked. -/
def openExchange (sessionKey sealed : Bytes) : Except PairingError SetupPayload := do
  let key := suite.derive .setupEncrypt sessionKey
  let text ← (suite.openMessage key .setup5 sealed).mapError .crypto
  let payload ← SetupPayload.decode text
  let signed :=
    SetupPayload.signed suite .setupControllerSign sessionKey payload.id payload.publicKey
  suite.checkSignature payload.publicKey signed payload.signature
  return payload

/-- The accessory's identity, signed and sealed. -/
def sealIdentity (identity : Identity) (sessionKey : Bytes) : Bytes :=
  let publicKey := identity.publicKey suite
  let signed :=
    SetupPayload.signed suite .setupAccessorySign sessionKey identity.pairingId publicKey
  let payload : SetupPayload :=
    { id := identity.pairingId, publicKey, signature := (identity.sign suite signed).bytes }
  suite.sealMessage (suite.derive .setupEncrypt sessionKey) .setup6 payload.encode

def exchangeReply (sealed : Bytes) : Bytes :=
  Tlv.encode [Tlv.stateField 6, (.encryptedData, sealed)]

/-- The record of a controller that has just paired. -/
def adminRecord (accessory : Accessory) (payload : SetupPayload) : PairingRecord :=
  { accessoryId := accessory.pairingId
    controllerId := payload.id
    publicKey := payload.publicKey
    permissions := .admin }

/-- Check the controller's identity and store it. Nothing can fail once it is
stored. -/
def exchange (accessory : Accessory) (host : Host) (sessionKey : Bytes) (lease : Lease)
    (sealed : Bytes) : SetupOutcome (Except PairingError Bytes) :=
  match openExchange suite sessionKey sealed with
  | .error e => refuse (some lease) accessory host e
  | .ok payload =>
    let record := adminRecord accessory payload
    match accessory.changeStore host fun store disk => store.put disk record with
    | (.error e, accessory, host) => refuse (some lease) accessory host (.ofStore e)
    | (.ok (), accessory, host) =>
      { stage := done
        accessory := accessory.resetFailures.release lease
        host := host
        answer := .ok (exchangeReply (sealIdentity suite accessory.identity sessionKey)) }

/-! ## All requests -/

/-- Run one request. A first request always starts over. -/
def process (stage : SetupStage) (accessory : Accessory) (host : Host) (request : SetupRequest) :
    SetupOutcome (Except PairingError Bytes) :=
  match stage, request with
  -- The lease goes back first: a session that starts over is not in its own way.
  | stage, .start method => start suite (accessory.releaseAll stage.lease?) host method
  | awaitingProof server salt lease, .prove publicKey proof =>
    verifyProof suite accessory host server salt lease publicKey proof
  | awaitingExchange sessionKey lease, .exchange sealed =>
    exchange suite accessory host sessionKey lease sealed
  | stage, request =>
    refuse stage.lease? accessory host (.unexpectedState stage.expectedState request.state)

/-- Read a request and run it. One that cannot be read changes nothing. -/
def submit (stage : SetupStage) (accessory : Accessory) (host : Host) (body : Bytes) :
    SetupOutcome (Except PairingError Bytes) :=
  match SetupRequest.parse body with
  | .ok request => stage.process suite accessory host request
  | .error e => { stage, accessory, host, answer := .error e }

/-- Read a request and run it. One that cannot be read is refused as well. -/
def attempt (stage : SetupStage) (accessory : Accessory) (host : Host) (body : Bytes) :
    SetupOutcome (Except PairingError Bytes) :=
  match SetupRequest.parse body with
  | .ok request => stage.process suite accessory host request
  | .error e => refuse stage.lease? accessory host e

/-- Answer a request. A refusal is a reply like any other, and a warning. -/
def handle (stage : SetupStage) (accessory : Accessory) (host : Host) (body : Bytes) :
    SetupOutcome Bytes :=
  let outcome := stage.attempt suite accessory host body
  match outcome.answer with
  | .ok reply => { outcome with answer := reply }
  | .error e =>
    let state := Pairing.replyState body
    { outcome with
      host := outcome.host.warn (.setupFailed accessory.pairingId (state - 1) e)
      answer := Pairing.errorReply state e.code }

end SetupStage

end HomePairing
