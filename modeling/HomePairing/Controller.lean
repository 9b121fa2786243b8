import HomePairing.Connection
import HomePairing.ServiceError

/-!
# Controllers

The other side of both handshakes. A controller has an identity of its own and
trusts at most one accessory, by the identifier and the key it learned at the
end of Pair-Setup. The two handshakes advance independently; whatever fails
takes its handshake back to the beginning.
-/

namespace HomePairing

/-- How far a controller's Pair-Setup has come. -/
inductive SetupProgress where
  | idle
  /-- Has asked for salt and public value. -/
  | awaitingSalt
  /-- Has sent its proof. -/
  | awaitingProof (pending : Srp.Pending)
  /-- Has sent its identity, under the agreed key. -/
  | awaitingKeys (sessionKey : Bytes)
deriving DecidableEq

/-- How far a controller's Pair-Verify has come. -/
inductive VerifyProgress where
  | idle
  /-- Has sent the agreement value of a secret. -/
  | awaitingKey (secret : Key)
  /-- Has sent its proof; the keys wait for the accessory's word. -/
  | awaitingConfirm (keys : SessionKeys)
deriving DecidableEq

structure TrustedAccessory where
  id : String
  publicKey : Key
deriving DecidableEq

structure Controller where
  identity : Identity
  trusted : Option TrustedAccessory
  setup : SetupProgress
  verify : VerifyProgress
deriving DecidableEq

namespace Controller

def create (identity : Identity) : Controller :=
  { identity, trusted := none, setup := .idle, verify := .idle }

def pairingId (controller : Controller) : String :=
  controller.identity.pairingId

def trust (controller : Controller) (id : String) (publicKey : Key) : Controller :=
  { controller with trusted := some ⟨id, publicKey⟩ }

variable (suite : Suite)

/-! ## Pair-Setup -/

def setupStart (controller : Controller) : Controller × Bytes :=
  ({ controller with setup := .awaitingSalt },
    Tlv.encode [Tlv.stateField 1, Tlv.methodField Method.pairSetup])

/-- The salt and the public value in the accessory's first reply. -/
def readChallenge (body : Bytes) : Except PairingError (Bytes × Bytes) := do
  let reply ← Pairing.decode body
  Pairing.expectState reply 2
  let salt ← (reply.require .salt).mapError .tlv
  let serverKey ← (reply.require .publicKey).mapError .tlv
  return (salt, serverKey)

def proofRequest (pending : Srp.Pending) : Bytes :=
  Tlv.encode [Tlv.stateField 3, (.publicKey, pending.publicKey), (.proof, pending.proof)]

/-- Answer a challenge with a proof of the setup code. -/
def answerChallenge (client : Srp.Client) (code : String) (salt serverKey : Bytes) :
    Except PairingError Srp.Pending :=
  (client.answer suite.srp setupUser (Bytes.ofString code) salt serverKey).mapError
    fun refusal => .crypto (.ofRefusal refusal)

/-- Answer the accessory's first reply with a proof of the setup code. -/
def setupProve (controller : Controller) (body : Bytes) (code : String) (entropy : Entropy) :
    (Controller × Except PairingError Bytes) × Entropy :=
  let idle := { controller with setup := .idle }
  match controller.setup with
  | .awaitingSalt =>
    match readChallenge body with
    | .error e => ((idle, .error e), entropy)
    | .ok (salt, serverKey) =>
      -- Nothing is drawn for a reply that cannot be read.
      let (random, entropy) := entropy.draw 32
      let client := Srp.Client.start suite.srp random.bytes
      match answerChallenge suite client code salt serverKey with
      | .error e => ((idle, .error e), entropy)
      | .ok pending =>
        (({ controller with setup := .awaitingProof pending }, .ok (proofRequest pending)),
          entropy)
  | _ => ((idle, .error (.unexpectedState 1 2)), entropy)

/-- Check the accessory's proof and release the agreed key. -/
def readProof (pending : Srp.Pending) (body : Bytes) : Except PairingError Bytes := do
  let reply ← Pairing.decode body
  Pairing.expectState reply 4
  let proof ← (reply.require .proof).mapError .tlv
  match pending.verifyServer suite.srp proof with
  | .ok sessionKey => return sessionKey
  | .error _ => throw .authenticationFailed

/-- The request that brings the controller's identity, signed and sealed. -/
def identityRequest (identity : Identity) (sessionKey : Bytes) : Bytes :=
  let publicKey := identity.publicKey suite
  let signed :=
    SetupPayload.signed suite .setupControllerSign sessionKey identity.pairingId publicKey
  let payload : SetupPayload :=
    { id := identity.pairingId, publicKey, signature := (identity.sign suite signed).bytes }
  let sealed := suite.sealMessage (suite.derive .setupEncrypt sessionKey) .setup5 payload.encode
  Tlv.encode [Tlv.stateField 5, (.encryptedData, sealed)]

/-- Answer the accessory's proof with the controller's identity. -/
def setupExchange (controller : Controller) (body : Bytes) :
    Controller × Except PairingError Bytes :=
  let idle := { controller with setup := .idle }
  match controller.setup with
  | .awaitingProof pending =>
    match readProof suite pending body with
    | .error e => (idle, .error e)
    | .ok sessionKey =>
      ({ controller with setup := .awaitingKeys sessionKey },
        .ok (identityRequest suite controller.identity sessionKey))
  | _ => (idle, .error (.unexpectedState 3 4))

/-- Check the accessory's identity. -/
def readIdentity (sessionKey body : Bytes) : Except PairingError TrustedAccessory := do
  let reply ← Pairing.decode body
  Pairing.expectState reply 6
  let sealed ← (reply.require .encryptedData).mapError .tlv
  let key := suite.derive .setupEncrypt sessionKey
  let text ← (suite.openMessage key .setup6 sealed).mapError .crypto
  let payload ← SetupPayload.decode text
  let signed :=
    SetupPayload.signed suite .setupAccessorySign sessionKey payload.id payload.publicKey
  suite.checkSignature payload.publicKey signed payload.signature
  return ⟨payload.id, payload.publicKey⟩

/-- Take in the accessory's identity and trust it from now on. -/
def setupFinish (controller : Controller) (body : Bytes) : Controller × Except PairingError Unit :=
  let idle := { controller with setup := .idle }
  match controller.setup with
  | .awaitingKeys sessionKey =>
    match readIdentity suite sessionKey body with
    | .error e => (idle, .error e)
    | .ok accessory => ({ idle with trusted := some accessory }, .ok ())
  | _ => (idle, .error (.unexpectedState 5 6))

/-! ## Pair-Verify -/

def verifyStart (controller : Controller) (entropy : Entropy) : (Controller × Bytes) × Entropy :=
  let (secret, entropy) := entropy.draw 32
  (({ controller with verify := .awaitingKey secret },
    Tlv.encode [Tlv.stateField 1, (.publicKey, (suite.agreementPublic secret).bytes)]), entropy)

/-- Check that the trusted accessory signed both agreement values. -/
def checkAccessory (trusted : Option TrustedAccessory) (payload : VerifyPayload)
    (accessoryPublic controllerPublic : Key) : Except PairingError Unit :=
  match trusted with
  | some accessory =>
    if accessory.id = payload.id then do
      let signed := VerifyPayload.signed accessoryPublic payload.id controllerPublic
      let signature ← (Suite.parseBlock 64 payload.signature).mapError .crypto
      if suite.verify accessory.publicKey signed signature then
        return ()
      else
        throw .signatureVerificationFailed
    else
      .error (.unknownController payload.id)
  | none => .error (.unknownController payload.id)

/-- The request that brings the controller's proof. -/
def finishRequest (identity : Identity) (encryptKey : Key)
    (controllerPublic accessoryPublic : Key) : Bytes :=
  let signed := VerifyPayload.signed controllerPublic identity.pairingId accessoryPublic
  let payload : VerifyPayload :=
    { id := identity.pairingId, signature := (identity.sign suite signed).bytes }
  Tlv.encode
    [Tlv.stateField 3, (.encryptedData, suite.sealMessage encryptKey .verify3 payload.encode)]

/-- Check the accessory's proof. The result is the controller's own proof and the
keys of the session to come. -/
def proveIdentity (controller : Controller) (secret : Key) (body : Bytes) :
    Except PairingError (Bytes × SessionKeys) := do
  let reply ← Pairing.decode body
  Pairing.expectState reply 2
  let publicKey ← (reply.require .publicKey).mapError .tlv
  let accessoryPublic ← (Suite.parseBlock 32 publicKey).mapError .crypto
  let controllerPublic := suite.agreementPublic secret
  let shared := suite.agree secret accessoryPublic
  let encryptKey := suite.derive .verifyEncrypt shared.bytes
  let sealed ← (reply.require .encryptedData).mapError .tlv
  let text ← (suite.openMessage encryptKey .verify2 sealed).mapError .crypto
  let payload ← VerifyPayload.decode text
  checkAccessory suite controller.trusted payload accessoryPublic controllerPublic
  return (finishRequest suite controller.identity encryptKey controllerPublic accessoryPublic,
    SessionKeys.derive suite shared.bytes)

/-- Answer the accessory's proof with the controller's. -/
def verifyProve (controller : Controller) (body : Bytes) :
    Controller × Except PairingError Bytes :=
  let idle := { controller with verify := .idle }
  match controller.verify with
  | .awaitingKey secret =>
    match proveIdentity suite controller secret body with
    | .error e => (idle, .error e)
    | .ok (request, keys) => ({ controller with verify := .awaitingConfirm keys }, .ok request)
  | _ => (idle, .error (.unexpectedState 1 2))

/-- Check that the accessory accepts. A reply that cannot be read is a failure of its
own here, not one of pairing. -/
def readConfirmation (body : Bytes) : Except ServiceError Unit := do
  let reply ← (Tlv.decode body).mapError .tlv
  (Pairing.expectState reply 4).mapError .pairing

/-- Take in the accessory's word and open the controller's end of the session. -/
def verifyFinish (controller : Controller) (body : Bytes) :
    Controller × Except ServiceError Session :=
  let idle := { controller with verify := .idle }
  match controller.verify with
  | .awaitingConfirm keys =>
    match readConfirmation body with
    | .error e => (idle, .error e)
    | .ok () => (idle, .ok (Session.controller keys))
  | _ => (idle, .error (.pairing (.unexpectedState 3 4)))

/-! ## Lists -/

/-- Read the reply to a list request. The records are those of the trusted
accessory. -/
def parseList (controller : Controller) (body : Bytes) :
    Except PairingError (List PairingRecord) :=
  Management.parseList ((controller.trusted.map (·.id)).getD "") body

def describe (controller : Controller) : String :=
  let accessory :=
    match controller.trusted with
    | some accessory => "Some(" ++ Text.quote accessory.id ++ ")"
    | none => "None"
  "MockController \x7b pairing_id: " ++ Text.quote controller.pairingId ++
    ", accessory_id: " ++ accessory ++ ", .. \x7d"

end Controller

end HomePairing
