import HomePairing.Controller.Dialogue
import HomePairing.Proofs.Exchange.Messages
import HomePairing.Proofs.Requests.Setup
import HomePairing.Proofs.Runs.World
import HomePairing.Proofs.Srp.Agreement

/-!
# Pair-Setup comes to its end

A controller that has the setup code pairs with an accessory that nobody has paired with,
that is not locked and whose slot nobody else holds. The accessory goes through its three
requests (`attempt_setupStart`, `attempt_proofRequest`, `attempt_identityRequest`), the
controller reads each reply as it was meant, and in between the password exchange agrees
on a key. At the end either side knows the other (`Dialogue.pairs`).
-/

namespace HomePairing

/-! ## The accessory's three requests -/

namespace SetupStage

variable {suite : Suite} {accessory : Accessory} {host : Host}

/-- The first request gets a challenge, at any stage. -/
theorem attempt_setupStart (stage : SetupStage) (controller : Controller)
    (unpaired : accessory.isPaired = false) (unlocked : accessory.isLockedOut = false)
    (free : (accessory.releaseAll stage.lease?).setupInProgress = false) :
    let salted := host.draw 16
    let drawn := salted.2.draw 32
    let server := serverOf suite accessory.config salted.1 drawn.1
    stage.attempt suite accessory host controller.setupStart.2 =
      { stage := awaitingProof server salted.1 ⟨accessory.slot⟩
        accessory := { accessory with setupInProgress := true }
        host := drawn.2
        answer := .ok (startReply salted.1 (server.publicKey suite.srp)) } :=
  stage.attempt_of_free host (SetupRequest.parse_setupStart controller) unpaired unlocked free

/-- A proof that holds is answered with the accessory's. -/
theorem attempt_proofRequest {server : Srp.Server} {salt : Block 16} {lease : Lease}
    {pending : Srp.Pending} {sessionKey proof : Bytes}
    (holds : server.verifyClient suite.srp setupUser salt.bytes pending.publicKey
      pending.proof = .ok (sessionKey, proof)) :
    (awaitingProof server salt lease).attempt suite accessory host
        (Controller.proofRequest pending) =
      { stage := awaitingExchange sessionKey lease
        accessory
        host
        answer := .ok (proofReply proof) } := by
  rw [attempt, SetupRequest.parse_proofRequest]
  simp only [process, verifyProof, holds]

/-- A controller's identity is filed, and answered with the accessory's. -/
theorem attempt_identityRequest (seals : suite.Seals) (signs : suite.Signs)
    {identity : Identity} (lease : Lease) (sessionKey : Bytes)
    (stored : (accessory.store.put host.disk (accessory.recordOf identity.pairingId
      (identity.publicKey suite) .admin)).result = .ok ()) :
    ∃ disk, (awaitingExchange sessionKey lease).attempt suite accessory host
        (Controller.identityRequest suite identity sessionKey) =
      { stage := done
        accessory := accessory.pairedWith
          (identity.setupPayload suite .setupControllerSign sessionKey) lease
        host := { host with disk }
        answer := .ok (exchangeReply (sealIdentity suite accessory.identity sessionKey)) } := by
  have record : adminRecord accessory
      (identity.setupPayload suite .setupControllerSign sessionKey) =
        accessory.recordOf identity.pairingId (identity.publicKey suite) .admin := rfl
  rw [attempt, SetupRequest.parse_identityRequest]
  simp only [process, exchange, openExchange_sealedPayload seals signs,
    Accessory.changeStore, record]
  rcases accessory.store.put_cases host.disk (accessory.recordOf identity.pairingId
      (identity.publicKey suite) .admin) with ⟨_, filed⟩ | ⟨e, failed, _⟩
  · rw [stored, filed]
    exact ⟨_, rfl⟩
  · rw [stored] at failed
    cases failed

end SetupStage

/-! ## The controller's replies -/

namespace Controller

variable {suite : Suite} {controller : Controller} {entropy : Entropy}

theorem setupProve_startReply {salt : Block 16} {publicKey : Bytes} {code : String}
    {pending : Srp.Pending} (waiting : controller.setup = .awaitingSalt)
    (answers : (Srp.Client.start suite.srp (entropy.draw 32).1.bytes).answer suite.srp
      setupUser (Bytes.ofString code) salt.bytes publicKey = .ok pending) :
    controller.setupProve suite (SetupStage.startReply salt publicKey) code entropy =
      (({ controller with setup := .awaitingProof pending }, .ok (proofRequest pending)),
        (entropy.draw 32).2) := by
  simp only [setupProve, waiting, readChallenge_startReply, answerChallenge, answers,
    mapError_ok]

theorem setupExchange_proofReply {pending : Srp.Pending} {proof key : Bytes}
    (waiting : controller.setup = .awaitingProof pending)
    (holds : pending.verifyServer suite.srp proof = .ok key) :
    controller.setupExchange suite (SetupStage.proofReply proof) =
      ({ controller with setup := .awaitingKeys key },
        .ok (identityRequest suite controller.identity key)) := by
  simp only [setupExchange, waiting, readProof_proofReply holds]

theorem setupFinish_exchangeReply (seals : suite.Seals) (signs : suite.Signs)
    {identity : Identity} {key : Bytes} (waiting : controller.setup = .awaitingKeys key) :
    controller.setupFinish suite
        (SetupStage.exchangeReply (SetupStage.sealIdentity suite identity key)) =
      ({ controller with
          setup := .idle
          trusted := some ⟨identity.pairingId, identity.publicKey suite⟩ }, .ok ()) := by
  simp only [setupFinish, waiting, readIdentity_exchangeReply seals signs]

end Controller

/-! ## All six messages -/

namespace Dialogue

variable {suite : Suite}

/-- Over an open connection a request reaches Pair-Setup, and its reply comes back. -/
theorem ask_pairSetup (d : Dialogue) (isOpen : d.connection.state.isClosed = false)
    {body reply : Bytes} {stage : SetupStage} {accessory : Accessory} {host : Host}
    (attempted : d.connection.setup.attempt suite d.accessory d.host body =
      ⟨stage, accessory, host, .ok reply⟩) :
    d.ask suite .pairSetup body =
      ({ d with connection := { d.connection with setup := stage }, accessory, host },
        .ok reply) := by
  have handled : d.connection.setup.handle suite d.accessory d.host body =
      ⟨stage, accessory, host, reply⟩ := by
    rw [SetupStage.handle, attempted]
  rw [ask, Connection.handle]
  cases state : d.connection.state with
  | closed reason =>
      rw [state] at isOpen
      cases isOpen
  | plain | encrypted => simp only [Connection.handleSetup, handled, state]

/-! What the controller makes of a reply, the dialogue does. -/

theorem setupProve_of_ok {d : Dialogue} {body request : Bytes} {code : String}
    {controller : Controller} {entropy : Entropy}
    (answers : d.controller.setupProve suite body code d.host.entropy =
      ((controller, .ok request), entropy)) :
    d.setupProve suite body code =
      ({ d with controller, host := { d.host with entropy } }, .ok request) := by
  rw [setupProve, answers]
  rfl

theorem setupExchange_of_ok {d : Dialogue} {body request : Bytes} {controller : Controller}
    (answers : d.controller.setupExchange suite body = (controller, .ok request)) :
    d.setupExchange suite body = ({ d with controller }, .ok request) := by
  rw [setupExchange, answers]
  rfl

theorem setupFinish_of_ok {d : Dialogue} {body : Bytes} {controller : Controller}
    (accepts : d.controller.setupFinish suite body = (controller, .ok ())) :
    d.setupFinish suite body = ({ d with controller }, .ok ()) := by
  rw [setupFinish, accepts]
  rfl

/-- Six messages that all go through. -/
theorem pair_of_replies {d d₁ d₂ d₃ d₄ d₅ : Dialogue} {code : String}
    {second third fourth fifth sixth : Bytes}
    (started : ({ d with controller := d.controller.setupStart.1 } : Dialogue).ask suite
      .pairSetup d.controller.setupStart.2 = (d₁, .ok second))
    (proves : d₁.setupProve suite second code = (d₂, .ok third))
    (proved : d₂.ask suite .pairSetup third = (d₃, .ok fourth))
    (exchanges : d₃.setupExchange suite fourth = (d₄, .ok fifth))
    (exchanged : d₄.ask suite .pairSetup fifth = (d₅, .ok sixth)) :
    d.pair suite code = d₅.setupFinish suite sixth := by
  rw [pair]
  simp only [started, proves, proved, exchanges, exchanged]

/-! ## What has to be given -/

/-- The salt that the accessory draws for a Pair-Setup. -/
def salt (d : Dialogue) : Block 16 :=
  (d.host.draw 16).1

/-- The machine after the accessory's draws. -/
def drawn (d : Dialogue) : Host :=
  ((d.host.draw 16).2.draw 32).2

/-- The accessory's side of the password exchange. -/
def server (suite : Suite) (d : Dialogue) : Srp.Server :=
  SetupStage.serverOf suite d.accessory.config d.salt ((d.host.draw 16).2.draw 32).1

/-- The controller's side of the password exchange. -/
def client (suite : Suite) (d : Dialogue) : Srp.Client :=
  .start suite.srp (d.drawn.entropy.draw 32).1.bytes

/-- What the controller makes of the accessory's challenge, with the accessory's own code. -/
def response (suite : Suite) (d : Dialogue) : Except Srp.Refusal Srp.Pending :=
  (d.client suite).answer suite.srp setupUser
    (Bytes.ofString d.accessory.config.setupCode.text) d.salt.bytes
    ((d.server suite).publicKey suite.srp)

/-- The record under which the accessory will know the controller. -/
def adminRecord (suite : Suite) (d : Dialogue) : PairingRecord :=
  d.accessory.recordOf d.controller.pairingId (d.controller.identity.publicKey suite) .admin

/-- What Pair-Setup needs to succeed. -/
structure CanPair (suite : Suite) (d : Dialogue) : Prop where
  isOpen : d.connection.state.isClosed = false
  unpaired : d.accessory.isPaired = false
  unlocked : d.accessory.isLockedOut = false
  /-- Nobody else holds the slot. -/
  free : (d.accessory.releaseAll d.connection.setup.lease?).setupInProgress = false
  /-- The accessory's public value is not zero modulo the modulus. -/
  nonzero : Bytes.toNatBE ((d.server suite).publicKey suite.srp) % suite.srp.modulus ≠ 0
  /-- The scrambling parameter is not zero. -/
  scrambled : suite.srp.scrambling ((d.client suite).publicKey suite.srp)
    ((d.server suite).publicKey suite.srp) ≠ 0
  /-- The store takes the record. -/
  stored : (d.accessory.store.put d.host.disk (d.adminRecord suite)).result = .ok ()

/-! ## Three rounds -/

/-- The accessory with its slot taken by this connection. -/
def busy (d : Dialogue) : Accessory :=
  { d.accessory with setupInProgress := true }

/-- A controller that has asked for a challenge. -/
def asking (d : Dialogue) : Dialogue :=
  { d with controller := d.controller.setupStart.1 }

/-- After the first round the controller has a challenge. -/
def challenged (suite : Suite) (d : Dialogue) : Dialogue where
  controller := { d.controller with setup := .awaitingSalt }
  connection :=
    { d.connection with setup := .awaitingProof (d.server suite) d.salt ⟨d.accessory.slot⟩ }
  accessory := d.busy
  host := d.drawn

/-- A controller that has answered the challenge. -/
def proving (suite : Suite) (d : Dialogue) (pending : Srp.Pending) : Dialogue :=
  { d.challenged suite with
    controller := { d.controller with setup := .awaitingProof pending }
    host := { d.drawn with entropy := (d.drawn.entropy.draw 32).2 } }

/-- After the second round both have the key. -/
def agreed (suite : Suite) (d : Dialogue) (pending : Srp.Pending) : Dialogue :=
  { d.proving suite pending with
    connection :=
      { d.connection with setup := .awaitingExchange pending.key ⟨d.accessory.slot⟩ } }

/-- A controller that has sent its identity. -/
def identifying (suite : Suite) (d : Dialogue) (pending : Srp.Pending) : Dialogue :=
  { d.agreed suite pending with
    controller := { d.controller with setup := .awaitingKeys pending.key } }

/-- After the third round the accessory knows the controller. -/
def filed (suite : Suite) (d : Dialogue) (pending : Srp.Pending) (disk : Disk) : Dialogue :=
  { d.identifying suite pending with
    connection := { d.connection with setup := .done }
    accessory := d.busy.pairedWith
      (d.controller.identity.setupPayload suite .setupControllerSign pending.key)
      ⟨d.accessory.slot⟩
    host := { (d.proving suite pending).host with disk } }

namespace CanPair

variable {d : Dialogue} (can : CanPair suite d)
include can

/-- Both sides of the password exchange get the same key. -/
theorem key_agreed (sound : suite.srp.Sound) :
    ∃ pending proof, d.response suite = .ok pending ∧
      (d.server suite).verifyClient suite.srp setupUser d.salt.bytes pending.publicKey
        pending.proof = .ok (pending.key, proof) ∧
      pending.verifyServer suite.srp proof = .ok pending.key := by
  obtain ⟨pending, proof, answers, same, accepted, released⟩ :=
    Srp.agreement_of_sound sound setupUser (Bytes.ofString d.accessory.config.setupCode.text)
      d.salt.bytes (d.client suite).exponent (d.server suite).exponent can.nonzero can.scrambled
  exact ⟨pending, proof, answers, same ▸ accepted, released⟩

theorem first_round :
    d.asking.ask suite .pairSetup d.controller.setupStart.2 =
      (d.challenged suite,
        .ok (SetupStage.startReply d.salt ((d.server suite).publicKey suite.srp))) :=
  d.asking.ask_pairSetup can.isOpen (SetupStage.attempt_setupStart d.connection.setup
    d.controller can.unpaired can.unlocked can.free)

theorem second_round {pending : Srp.Pending} {proof : Bytes}
    (accepted : (d.server suite).verifyClient suite.srp setupUser d.salt.bytes
      pending.publicKey pending.proof = .ok (pending.key, proof)) :
    (d.proving suite pending).ask suite .pairSetup (Controller.proofRequest pending) =
      (d.agreed suite pending, .ok (SetupStage.proofReply proof)) :=
  (d.proving suite pending).ask_pairSetup can.isOpen (SetupStage.attempt_proofRequest accepted)

/-- The record is filed on the disk that Pair-Setup began with. -/
theorem third_round (seals : suite.Seals) (signs : suite.Signs) (pending : Srp.Pending) :
    ∃ disk, (d.identifying suite pending).ask suite .pairSetup
        (Controller.identityRequest suite d.controller.identity pending.key) =
      (d.filed suite pending disk, .ok (SetupStage.exchangeReply
        (SetupStage.sealIdentity suite d.accessory.identity pending.key))) := by
  have stored : (d.busy.store.put (d.proving suite pending).host.disk
      (d.busy.recordOf d.controller.identity.pairingId
        (d.controller.identity.publicKey suite) .admin)).result = .ok () := can.stored
  obtain ⟨disk, exchanged⟩ := SetupStage.attempt_identityRequest seals signs
    ⟨d.accessory.slot⟩ pending.key stored
  exact ⟨disk, (d.identifying suite pending).ask_pairSetup can.isOpen exchanged⟩

/-- All six messages go through, and the controller takes the accessory's identity in. -/
theorem pair_eq (sound : suite.srp.Sound) (seals : suite.Seals) (signs : suite.Signs) :
    ∃ pending disk, d.pair suite d.accessory.config.setupCode.text =
      ({ d.filed suite pending disk with
          controller := { d.controller with
            setup := .idle
            trusted :=
              some ⟨d.accessory.pairingId, d.accessory.identity.publicKey suite⟩ } },
        .ok ()) := by
  obtain ⟨pending, proof, answers, accepted, released⟩ := can.key_agreed sound
  obtain ⟨disk, filed⟩ := can.third_round seals signs pending
  have proves : (d.challenged suite).setupProve suite
      (SetupStage.startReply d.salt ((d.server suite).publicKey suite.srp))
      d.accessory.config.setupCode.text =
        (d.proving suite pending, .ok (Controller.proofRequest pending)) :=
    setupProve_of_ok (Controller.setupProve_startReply rfl answers)
  have exchanges : (d.agreed suite pending).setupExchange suite
      (SetupStage.proofReply proof) = (d.identifying suite pending,
        .ok (Controller.identityRequest suite d.controller.identity pending.key)) :=
    setupExchange_of_ok (Controller.setupExchange_proofReply rfl released)
  refine ⟨pending, disk, ?_⟩
  rw [pair_of_replies can.first_round proves (can.second_round accepted) exchanges filed]
  exact setupFinish_of_ok (Controller.setupFinish_exchangeReply seals signs rfl)

end CanPair

/-- If an accessory is unpaired, not locked and free, then a controller with its setup code
pairs with it over any open connection: afterwards the store has the controller's admin
record and no other, no proof counts as failed, the slot is free, and the controller trusts
the accessory by its identifier and key. -/
theorem pairs (sound : suite.srp.Sound) (seals : suite.Seals) (signs : suite.Signs)
    (d : Dialogue) (can : CanPair suite d) :
    let outcome := d.pair suite d.accessory.config.setupCode.text
    let after := outcome.1
    outcome.2 = .ok () ∧
      after.accessory.registry.entries = [(d.controller.pairingId, d.adminRecord suite)] ∧
      after.accessory.failedAttempts = 0 ∧
      after.accessory.setupInProgress = false ∧
      after.connection.setup.lease? = none ∧
      after.controller.trusted =
        some ⟨d.accessory.pairingId, d.accessory.identity.publicKey suite⟩ := by
  obtain ⟨pending, disk, pairs⟩ := can.pair_eq sound seals signs
  intro outcome after
  have here : outcome = _ := pairs
  simp only [after, here]
  refine ⟨trivial, ?_, ?_, ?_, rfl, trivial⟩
  · show (d.busy.pairedWith _ _).registry.entries = _
    rw [Accessory.registry_pairedWith]
    exact Registry.entries_insert_of_isEmpty
      (Accessory.isPaired_eq_false_iff.mp can.unpaired) _ _
  · exact Accessory.failedAttempts_pairedWith _ _ _
  · exact congrArg Accessory.setupInProgress (if_pos rfl)

/-- A controller and a lamp fresh from the factory. -/
def fresh : Dialogue where
  controller := .create ⟨"11:22:33:44:55:66", Block.fit 32 [7]⟩
  connection := .create
  accessory := .lamp
  host := .quiet

/-- They pair with the standard primitives, if only signatures are taken on trust. -/
theorem pairs_fresh :
    let suite : Suite :=
      { Suite.standard with isSigningPublic := fun _ => true, verify := fun _ _ _ => true }
    suite.srp.Sound ∧ suite.Seals ∧ suite.Signs ∧ CanPair suite fresh ∧
      (fresh.pair suite Accessory.lamp.config.setupCode.text).2 = .ok () ∧
      (fresh.pair suite Accessory.lamp.config.setupCode.text).1.accessory.registry.entries =
        [("11:22:33:44:55:66", fresh.adminRecord suite)] := by
  intro suite
  have sound : suite.srp.Sound := Srp.Scheme.sound_standard
  have seals : suite.Seals := ⟨Aead.decrypt?_encrypt, Aead.length_encrypt⟩
  have signs : suite.Signs := ⟨fun _ _ => rfl, fun _ => rfl⟩
  have can : CanPair suite fresh := {
    isOpen := rfl
    unpaired := rfl
    unlocked := by decide
    free := rfl
    nonzero := by decide +kernel
    scrambled := by decide +kernel
    stored := rfl }
  obtain ⟨done, filed, _⟩ := pairs sound seals signs fresh can
  exact ⟨sound, seals, signs, can, done, filed⟩

end Dialogue

end HomePairing
