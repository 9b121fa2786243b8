import HomePairing.Controller
import HomePairing.Proofs.Requests.Setup
import Mathlib.Data.List.Induction

/-!
# Calls of a controller

A controller is driven from outside: a `Call` starts a handshake over, or goes on with it
on some reply, whoever sent that. `Controller.perform` is what one call does, and
`Controller.run` what a list of them makes of a controller, with any random numbers.

`effect_perform` says once what a call can do: it fails and abandons its handshake, or the
handshake was waiting for it and moves on with what the reply has brought. From that come
the frame lemmas at the end. That a call does not look at the other handshake either
(`Alike.perform`) is about two controllers, so no single effect tells it.
-/

namespace HomePairing.Controller

/-! ## Calls and outcomes -/

inductive Handshake where
  | setup
  | verify
deriving DecidableEq

/-- Something that a controller is told to do. -/
inductive Call where
  /-- Trust an accessory without a Pair-Setup. -/
  | trust (id : String) (publicKey : Key)
  | setupStart
  | setupProve (body : Bytes) (code : String) (entropy : Entropy)
  | setupExchange (body : Bytes)
  | setupFinish (body : Bytes)
  | verifyStart (entropy : Entropy)
  | verifyProve (body : Bytes)
  | verifyFinish (body : Bytes)

/-- What comes of a call. -/
inductive Outcome where
  | trusted
  /-- There is a request to send. -/
  | sent (request : Bytes)
  | paired
  | opened (session : Session)
  | failed (cause : ServiceError)
deriving DecidableEq

def Outcome.of {Failure Value : Type} (done : Value → Outcome) (cause : Failure → ServiceError) :
    Except Failure Value → Outcome
  | .ok value => done value
  | .error e => .failed (cause e)

namespace Call

/-- The handshake that a call starts over, whatever has come before. -/
def starts? : Call → Option Handshake
  | setupStart => some .setup
  | verifyStart _ => some .verify
  | _ => none

/-- The handshake that a call goes on with. -/
def processes? : Call → Option Handshake
  | setupProve _ _ _ | setupExchange _ | setupFinish _ => some .setup
  | verifyProve _ | verifyFinish _ => some .verify
  | _ => none

/-- The handshake that a call belongs to. -/
def handshake? (call : Call) : Option Handshake :=
  call.starts?.or call.processes?

theorem handshake?_of_processes? {call : Call} {handshake : Handshake}
    (h : call.processes? = some handshake) : call.handshake? = some handshake := by
  cases call <;> first | exact h | cases h

end Call

variable (suite : Suite)

/-- What one call does. -/
def perform (controller : Controller) : Call → Controller × Outcome
  | .trust id publicKey => (controller.trust id publicKey, .trusted)
  | .setupStart =>
    let (next, request) := controller.setupStart
    (next, .sent request)
  | .setupProve body code entropy =>
    let ((next, result), _) := controller.setupProve suite body code entropy
    (next, .of .sent .pairing result)
  | .setupExchange body =>
    let (next, result) := controller.setupExchange suite body
    (next, .of .sent .pairing result)
  | .setupFinish body =>
    let (next, result) := controller.setupFinish suite body
    (next, .of (fun _ => .paired) .pairing result)
  | .verifyStart entropy =>
    let ((next, request), _) := controller.verifyStart suite entropy
    (next, .sent request)
  | .verifyProve body =>
    let (next, result) := controller.verifyProve suite body
    (next, .of .sent .pairing result)
  | .verifyFinish body =>
    let (next, result) := controller.verifyFinish body
    (next, .of .opened id result)

/-- What calls, one after another, make of a controller. -/
def run (controller : Controller) (calls : List Call) : Controller :=
  calls.foldl (fun controller call => (controller.perform suite call).1) controller

@[simp] theorem run_nil (controller : Controller) : controller.run suite [] = controller := rfl

@[simp] theorem run_cons (controller : Controller) (call : Call) (calls : List Call) :
    controller.run suite (call :: calls) =
      (controller.perform suite call).1.run suite calls := rfl

@[simp] theorem run_concat (controller : Controller) (calls : List Call) (call : Call) :
    controller.run suite (calls ++ [call]) =
      ((controller.run suite calls).perform suite call).1 :=
  List.foldl_append

/-! ## Progress -/

/-- The handshake is at its beginning, and nothing is waited for. -/
def Idle (controller : Controller) : Handshake → Prop
  | .setup => controller.setup = .idle
  | .verify => controller.verify = .idle

/-- Take a handshake back to its beginning. -/
def abandon (controller : Controller) : Handshake → Controller
  | .setup => { controller with setup := .idle }
  | .verify => { controller with verify := .idle }

theorem idle_abandon (controller : Controller) (handshake : Handshake) :
    (controller.abandon handshake).Idle handshake := by
  cases handshake <;> rfl

@[simp] theorem trusted_abandon (controller : Controller) (handshake : Handshake) :
    (controller.abandon handshake).trusted = controller.trusted := by
  cases handshake <;> rfl

/-! ## What a reply brings -/

/-- A proof of the accessory's that matches the password exchange. -/
inductive Proves (pending : Srp.Pending) (body : Bytes) : Bytes → Prop
  | proof {reply : Tlv.Message} :
      Pairing.decode body = .ok reply →
      Pairing.expectState reply 4 = .ok () →
      reply.require .proof =
        .ok (suite.srp.serverProof pending.publicKey pending.proof pending.key) →
      Proves pending body pending.key

theorem proves_of_readProof {pending : Srp.Pending} {body sessionKey : Bytes}
    (read : readProof suite pending body = .ok sessionKey) :
    Proves suite pending body sessionKey := by
  unfold readProof at read
  obtain ⟨reply, decoded, read⟩ := exists_of_bind_eq_ok read
  obtain ⟨_, step, read⟩ := exists_of_bind_eq_ok read
  obtain ⟨proof, found, read⟩ := exists_of_bind_eq_ok read
  replace found := eq_ok_of_mapError_eq_ok found
  unfold Srp.Pending.verifyServer at read
  split at read
  · next key checked =>
      cases read
      split at checked
      · next same =>
          cases checked
          exact .proof decoded step (same ▸ found)
      · cases checked
  · cases read

/-- An accessory's identity: sealed under the agreed key, and signed for this Pair-Setup
under the very key that it brings. -/
inductive Identifies (sessionKey body : Bytes) : TrustedAccessory → Prop
  | signed {reply : Tlv.Message} {sealed text : Bytes} {payload : SetupPayload}
      {signature : Signature} :
      Pairing.decode body = .ok reply →
      Pairing.expectState reply 6 = .ok () →
      reply.require .encryptedData = .ok sealed →
      suite.openMessage (suite.derive .setupEncrypt sessionKey) .setup6 sealed = .ok text →
      SetupPayload.decode text = .ok payload →
      Block.ofBytes? payload.signature = some signature →
      suite.verify payload.publicKey
        (SetupPayload.signed suite .setupAccessorySign sessionKey payload.id
          payload.publicKey) signature = true →
      Identifies sessionKey body ⟨payload.id, payload.publicKey⟩

theorem identifies_of_readIdentity {sessionKey body : Bytes} {accessory : TrustedAccessory}
    (read : readIdentity suite sessionKey body = .ok accessory) :
    Identifies suite sessionKey body accessory := by
  unfold readIdentity at read
  obtain ⟨reply, decoded, read⟩ := exists_of_bind_eq_ok read
  obtain ⟨_, step, read⟩ := exists_of_bind_eq_ok read
  obtain ⟨sealed, found, read⟩ := exists_of_bind_eq_ok read
  obtain ⟨text, opened, read⟩ := exists_of_bind_eq_ok read
  obtain ⟨payload, unpacked, read⟩ := exists_of_bind_eq_ok read
  obtain ⟨_, checked, read⟩ := exists_of_bind_eq_ok read
  cases read
  obtain ⟨signature, fits, verified⟩ := Suite.verify_of_checkSignature checked
  exact .signed decoded step (eq_ok_of_mapError_eq_ok found) (eq_ok_of_mapError_eq_ok opened)
    unpacked fits verified

/-- A proof of an accessory's that it owns the key it is trusted for: sealed under what the
two agreement values yield, and signed over both. The last argument is what the session is
going to use. -/
inductive Vouches (accessory : TrustedAccessory) (secret : Key) (body : Bytes) :
    SessionKeys → Prop
  | signed {reply : Tlv.Message} {publicKey sealed text : Bytes} {accessoryPublic : Key}
      {payload : VerifyPayload} {signature : Signature} :
      Pairing.decode body = .ok reply →
      Pairing.expectState reply 2 = .ok () →
      reply.require .publicKey = .ok publicKey →
      Block.ofBytes? publicKey = some accessoryPublic →
      reply.require .encryptedData = .ok sealed →
      suite.openMessage (suite.derive .verifyEncrypt (suite.agree secret accessoryPublic).bytes)
        .verify2 sealed = .ok text →
      VerifyPayload.decode text = .ok payload →
      payload.id = accessory.id →
      Block.ofBytes? payload.signature = some signature →
      suite.verify accessory.publicKey
        (VerifyPayload.signed accessoryPublic accessory.id (suite.agreementPublic secret))
        signature = true →
      Vouches accessory secret body
        (SessionKeys.derive suite (suite.agree secret accessoryPublic).bytes)

theorem exists_of_checkAccessory {trusted : Option TrustedAccessory} {payload : VerifyPayload}
    {accessoryPublic controllerPublic : Key}
    (checked : checkAccessory suite trusted payload accessoryPublic controllerPublic = .ok ()) :
    ∃ accessory signature, trusted = some accessory ∧ payload.id = accessory.id ∧
      Block.ofBytes? payload.signature = some signature ∧
      suite.verify accessory.publicKey
        (VerifyPayload.signed accessoryPublic accessory.id controllerPublic) signature = true := by
  cases trusted with
  | none => cases checked
  | some accessory =>
      simp only [checkAccessory] at checked
      split at checked
      · next same =>
          obtain ⟨signature, fits, checked⟩ := exists_of_bind_eq_ok checked
          replace fits := Suite.ofBytes?_of_parseBlock (eq_ok_of_mapError_eq_ok fits)
          split at checked
          · next verified => exact ⟨accessory, signature, rfl, same.symm, fits, same ▸ verified⟩
          · cases checked
      · cases checked

theorem vouches_of_proveIdentity {controller : Controller} {secret : Key}
    {body request : Bytes} {keys : SessionKeys}
    (proven : controller.proveIdentity suite secret body = .ok (request, keys)) :
    ∃ accessory, controller.trusted = some accessory ∧
      Vouches suite accessory secret body keys := by
  unfold proveIdentity at proven
  obtain ⟨reply, decoded, proven⟩ := exists_of_bind_eq_ok proven
  obtain ⟨_, step, proven⟩ := exists_of_bind_eq_ok proven
  obtain ⟨publicKey, found, proven⟩ := exists_of_bind_eq_ok proven
  obtain ⟨accessoryPublic, fits, proven⟩ := exists_of_bind_eq_ok proven
  obtain ⟨sealed, carried, proven⟩ := exists_of_bind_eq_ok proven
  obtain ⟨text, opened, proven⟩ := exists_of_bind_eq_ok proven
  obtain ⟨payload, unpacked, proven⟩ := exists_of_bind_eq_ok proven
  obtain ⟨_, checked, proven⟩ := exists_of_bind_eq_ok proven
  cases proven
  obtain ⟨accessory, signature, trusted, same, whole, verified⟩ :=
    exists_of_checkAccessory suite checked
  exact ⟨accessory, trusted, .signed decoded step (eq_ok_of_mapError_eq_ok found)
    (Suite.ofBytes?_of_parseBlock (eq_ok_of_mapError_eq_ok fits))
    (eq_ok_of_mapError_eq_ok carried) (eq_ok_of_mapError_eq_ok opened) unpacked same whole
    verified⟩

/-! ## What a call can do -/

/-- Everything a call can do to a controller, with what comes of it. -/
inductive Effect (controller : Controller) : Call → Controller → Outcome → Prop
  | trusted {id : String} {publicKey : Key} :
      Effect controller (.trust id publicKey) (controller.trust id publicKey) .trusted
  | setupStarted :
      Effect controller .setupStart { controller with setup := .awaitingSalt }
        (.sent controller.setupStart.2)
  | proved {body salt serverKey : Bytes} {code : String} {entropy : Entropy}
      {pending : Srp.Pending} :
      controller.setup = .awaitingSalt →
      readChallenge body = .ok (salt, serverKey) →
      answerChallenge suite (Srp.Client.start suite.srp (entropy.draw 32).1.bytes) code salt
        serverKey = .ok pending →
      Effect controller (.setupProve body code entropy)
        { controller with setup := .awaitingProof pending } (.sent (proofRequest pending))
  | exchanged {body sessionKey : Bytes} {pending : Srp.Pending} :
      controller.setup = .awaitingProof pending →
      readProof suite pending body = .ok sessionKey →
      Effect controller (.setupExchange body)
        { controller with setup := .awaitingKeys sessionKey }
        (.sent (identityRequest suite controller.identity sessionKey))
  | paired {body sessionKey : Bytes} {accessory : TrustedAccessory} :
      controller.setup = .awaitingKeys sessionKey →
      readIdentity suite sessionKey body = .ok accessory →
      Effect controller (.setupFinish body)
        { controller with setup := .idle, trusted := some accessory } .paired
  | verifyStarted {entropy : Entropy} :
      Effect controller (.verifyStart entropy)
        { controller with verify := .awaitingKey (entropy.draw 32).1 }
        (.sent (controller.verifyStart suite entropy).1.2)
  | confirmed {body request : Bytes} {secret : Key} {keys : SessionKeys} :
      controller.verify = .awaitingKey secret →
      controller.proveIdentity suite secret body = .ok (request, keys) →
      Effect controller (.verifyProve body)
        { controller with verify := .awaitingConfirm keys } (.sent request)
  | opened {body : Bytes} {keys : SessionKeys} :
      controller.verify = .awaitingConfirm keys →
      readConfirmation body = .ok () →
      Effect controller (.verifyFinish body) { controller with verify := .idle }
        (.opened (Session.controller keys))
  | failed {call : Call} {handshake : Handshake} {cause : ServiceError} :
      call.processes? = some handshake →
      Effect controller call (controller.abandon handshake) (.failed cause)

theorem Effect.setupFailed {suite : Suite} {controller : Controller} {call : Call}
    {cause : ServiceError} (h : call.processes? = some .setup) :
    Effect suite controller call { controller with setup := .idle } (.failed cause) :=
  .failed h

theorem Effect.verifyFailed {suite : Suite} {controller : Controller} {call : Call}
    {cause : ServiceError} (h : call.processes? = some .verify) :
    Effect suite controller call { controller with verify := .idle } (.failed cause) :=
  .failed h

section Effects

variable (controller : Controller)

theorem effect_setupProve (body : Bytes) (code : String) (entropy : Entropy) :
    Effect suite controller (.setupProve body code entropy)
      (controller.perform suite (.setupProve body code entropy)).1
      (controller.perform suite (.setupProve body code entropy)).2 := by
  simp only [perform, setupProve]
  cases waiting : controller.setup with
  | awaitingSalt =>
      cases read : readChallenge body with
      | error e => exact .setupFailed rfl
      | ok challenge =>
          obtain ⟨salt, serverKey⟩ := challenge
          cases answered : answerChallenge suite
              (Srp.Client.start suite.srp (entropy.draw 32).1.bytes) code salt serverKey with
          | error e =>
              simp only [answered]
              exact .setupFailed rfl
          | ok pending =>
              simp only [answered]
              exact .proved waiting read answered
  | idle => exact .setupFailed rfl
  | awaitingProof _ => exact .setupFailed rfl
  | awaitingKeys _ => exact .setupFailed rfl

theorem effect_setupExchange (body : Bytes) :
    Effect suite controller (.setupExchange body)
      (controller.perform suite (.setupExchange body)).1
      (controller.perform suite (.setupExchange body)).2 := by
  simp only [perform, setupExchange]
  cases waiting : controller.setup with
  | awaitingProof pending =>
      cases read : readProof suite pending body with
      | error e =>
          simp only [read]
          exact .setupFailed rfl
      | ok sessionKey =>
          simp only [read]
          exact .exchanged waiting read
  | idle => exact .setupFailed rfl
  | awaitingSalt => exact .setupFailed rfl
  | awaitingKeys _ => exact .setupFailed rfl

theorem effect_setupFinish (body : Bytes) :
    Effect suite controller (.setupFinish body)
      (controller.perform suite (.setupFinish body)).1
      (controller.perform suite (.setupFinish body)).2 := by
  simp only [perform, setupFinish]
  cases waiting : controller.setup with
  | awaitingKeys sessionKey =>
      cases read : readIdentity suite sessionKey body with
      | error e =>
          simp only [read]
          exact .setupFailed rfl
      | ok accessory =>
          simp only [read]
          exact .paired waiting read
  | idle => exact .setupFailed rfl
  | awaitingSalt => exact .setupFailed rfl
  | awaitingProof _ => exact .setupFailed rfl

theorem effect_verifyProve (body : Bytes) :
    Effect suite controller (.verifyProve body)
      (controller.perform suite (.verifyProve body)).1
      (controller.perform suite (.verifyProve body)).2 := by
  simp only [perform, verifyProve]
  cases waiting : controller.verify with
  | awaitingKey secret =>
      cases proven : controller.proveIdentity suite secret body with
      | error e =>
          simp only [proven]
          exact .verifyFailed rfl
      | ok answer =>
          simp only [proven]
          exact .confirmed waiting proven
  | idle => exact .verifyFailed rfl
  | awaitingConfirm _ => exact .verifyFailed rfl

theorem effect_verifyFinish (body : Bytes) :
    Effect suite controller (.verifyFinish body)
      (controller.perform suite (.verifyFinish body)).1
      (controller.perform suite (.verifyFinish body)).2 := by
  simp only [perform, verifyFinish]
  cases waiting : controller.verify with
  | awaitingConfirm keys =>
      cases read : readConfirmation body with
      | error e => exact .verifyFailed rfl
      | ok => exact .opened waiting read
  | idle => exact .verifyFailed rfl
  | awaitingKey _ => exact .verifyFailed rfl

/-- Every call has one of these effects. -/
theorem effect_perform (call : Call) :
    Effect suite controller call (controller.perform suite call).1
      (controller.perform suite call).2 := by
  cases call with
  | trust id publicKey => exact .trusted
  | setupStart => exact .setupStarted
  | setupProve body code entropy => exact effect_setupProve suite controller body code entropy
  | setupExchange body => exact effect_setupExchange suite controller body
  | setupFinish body => exact effect_setupFinish suite controller body
  | verifyStart entropy => exact .verifyStarted
  | verifyProve body => exact effect_verifyProve suite controller body
  | verifyFinish body => exact effect_verifyFinish suite controller body

end Effects

/-! ## What a call leaves alone -/

def Handshake.other : Handshake → Handshake
  | .setup => .verify
  | .verify => .setup

/-- Two controllers have come equally far in a handshake. -/
def SameProgress (one other : Controller) : Handshake → Prop
  | .setup => one.setup = other.setup
  | .verify => one.verify = other.verify

/-- Two controllers may differ in their progress in the other handshake, and in nothing
else. -/
structure Alike (handshake : Handshake) (one other : Controller) : Prop where
  identity : one.identity = other.identity
  trusted : one.trusted = other.trusted
  progress : one.SameProgress other handshake

theorem Alike.refl (controller : Controller) (handshake : Handshake) :
    controller.Alike handshake controller where
  identity := rfl
  trusted := rfl
  progress := by cases handshake <;> rfl

section Frame

variable {suite} {controller next : Controller} {call : Call} {handshake : Handshake}
  {outcome : Outcome}

/-- A call that does not belong to a handshake leaves its progress alone. -/
theorem Effect.sameProgress (effect : Effect suite controller call next outcome)
    (apart : call.handshake? ≠ some handshake) : next.SameProgress controller handshake := by
  cases effect with
  | trusted => cases handshake <;> rfl
  | setupStarted | proved _ _ | exchanged _ _ | paired _ _ =>
      cases handshake with
      | setup => exact absurd rfl apart
      | verify => rfl
  | verifyStarted | confirmed _ _ | opened _ _ =>
      cases handshake with
      | setup => rfl
      | verify => exact absurd rfl apart
  | @failed _ abandoned _ processes =>
      rw [Call.handshake?_of_processes? processes] at apart
      cases abandoned <;> cases handshake <;> first | rfl | exact absurd rfl apart

/-- Pair-Verify teaches a controller nothing about whom to trust. -/
theorem Effect.trusted_eq_of_verify (effect : Effect suite controller call next outcome)
    (belongs : call.handshake? = some .verify) : next.trusted = controller.trusted := by
  cases effect with
  | trusted | setupStarted | proved _ _ | exchanged _ _ | paired _ _ => cases belongs
  | verifyStarted | confirmed _ _ | opened _ _ => rfl
  | failed _ => exact controller.trusted_abandon _

theorem Effect.identity_eq (effect : Effect suite controller call next outcome) :
    next.identity = controller.identity := by
  cases effect with
  | @failed _ abandoned _ _ => cases abandoned <;> rfl
  | _ => rfl

/-- What is not waited for is refused, and nothing happens. -/
def OutOfTurn (suite : Suite) (controller : Controller) (call : Call) : Prop :=
  ∃ expected, controller.perform suite call =
    (controller, .failed (.pairing (.unexpectedState expected (expected + 1))))

theorem outOfTurn_of_idle (idle : controller.Idle handshake)
    (processes : call.processes? = some handshake) : OutOfTurn suite controller call := by
  obtain ⟨identity, trusted, setup, verify⟩ := controller
  cases call with
  | trust _ _ | setupStart | verifyStart _ => cases processes
  | setupProve _ _ _ | setupExchange _ | setupFinish _ | verifyProve _ | verifyFinish _ =>
      cases processes
      cases idle
      exact ⟨_, rfl⟩

/-- Only its first call gets a handshake away from its beginning. -/
theorem idle_perform (idle : controller.Idle handshake)
    (unstarted : call.starts? ≠ some handshake) :
    (controller.perform suite call).1.Idle handshake := by
  by_cases processes : call.processes? = some handshake
  · have outOfTurn : OutOfTurn suite controller call := outOfTurn_of_idle idle processes
    obtain ⟨_, refused⟩ := outOfTurn
    rw [refused]
    exact idle
  · have apart : call.handshake? ≠ some handshake := by
      rw [Call.handshake?, ne_eq, Option.or_eq_some_iff]
      rintro (starts | ⟨_, goesOn⟩)
      · exact unstarted starts
      · exact processes goesOn
    have same := (effect_perform suite controller call).sameProgress apart
    cases handshake with
    | setup => exact same.trans idle
    | verify => exact same.trans idle

theorem idle_run {calls : List Call} (idle : controller.Idle handshake)
    (unstarted : ∀ call ∈ calls, call.starts? ≠ some handshake) :
    (controller.run suite calls).Idle handshake := by
  induction calls generalizing controller with
  | nil => exact idle
  | cons call calls ih =>
      have first := unstarted call List.mem_cons_self
      rw [run_cons]
      exact ih (idle_perform idle first) fun later listed =>
        unstarted later (List.mem_cons_of_mem _ listed)

end Frame

/-! ## What a call does not look at -/

section Independence

variable {suite} {controller one other : Controller} {call : Call} {handshake : Handshake}

theorem perform_setVerify (progress : VerifyProgress) (apart : call.handshake? ≠ some .verify) :
    ({ controller with verify := progress } : Controller).perform suite call =
      ({ (controller.perform suite call).1 with verify := progress },
        (controller.perform suite call).2) := by
  cases call with
  | trust _ _ | setupStart => rfl
  | setupProve body code entropy =>
      simp only [perform, setupProve]
      cases controller.setup with
      | awaitingSalt =>
          cases readChallenge body with
          | error e => rfl
          | ok challenge =>
              dsimp only
              cases answerChallenge suite
                (Srp.Client.start suite.srp (entropy.draw 32).1.bytes) code challenge.1
                challenge.2 <;> rfl
      | _ => rfl
  | setupExchange body =>
      simp only [perform, setupExchange]
      cases controller.setup with
      | awaitingProof pending =>
          dsimp only
          cases readProof suite pending body <;> rfl
      | _ => rfl
  | setupFinish body =>
      simp only [perform, setupFinish]
      cases controller.setup with
      | awaitingKeys sessionKey =>
          dsimp only
          cases readIdentity suite sessionKey body <;> rfl
      | _ => rfl
  | verifyStart _ | verifyProve _ | verifyFinish _ => exact absurd rfl apart

theorem perform_setSetup (progress : SetupProgress) (apart : call.handshake? ≠ some .setup) :
    ({ controller with setup := progress } : Controller).perform suite call =
      ({ (controller.perform suite call).1 with setup := progress },
        (controller.perform suite call).2) := by
  cases call with
  | trust _ _ | verifyStart _ => rfl
  | verifyProve body =>
      -- Only the identity and the trusted accessory of the controller are looked at.
      have same : ∀ secret, proveIdentity suite { controller with setup := progress } secret body =
          proveIdentity suite controller secret body := fun _ => rfl
      simp only [perform, verifyProve, same]
      cases controller.verify with
      | awaitingKey secret =>
          dsimp only
          cases controller.proveIdentity suite secret body <;> rfl
      | _ => rfl
  | verifyFinish body =>
      simp only [perform, verifyFinish]
      cases controller.verify with
      | awaitingConfirm keys =>
          dsimp only
          cases readConfirmation body <;> rfl
      | _ => rfl
  | setupStart | setupProve _ _ _ | setupExchange _ | setupFinish _ => exact absurd rfl apart

theorem Alike.eq_setVerify (alike : one.Alike .setup other) :
    other = { one with verify := other.verify } := by
  obtain ⟨identity, trusted, progress⟩ := alike
  have setup : one.setup = other.setup := progress
  rw [identity, trusted, setup]

theorem Alike.eq_setSetup (alike : one.Alike .verify other) :
    other = { one with setup := other.setup } := by
  obtain ⟨identity, trusted, progress⟩ := alike
  have verify : one.verify = other.verify := progress
  rw [identity, trusted, verify]

/-- Controllers that only differ in one handshake do the same on all calls that do not
belong to it, and go on to differ in it only. -/
theorem Alike.perform (alike : one.Alike handshake other)
    (apart : call.handshake? ≠ some handshake.other) :
    (other.perform suite call).2 = (one.perform suite call).2 ∧
      (one.perform suite call).1.Alike handshake (other.perform suite call).1 := by
  cases handshake with
  | setup =>
      rw [alike.eq_setVerify, perform_setVerify other.verify apart]
      exact ⟨rfl, rfl, rfl, rfl⟩
  | verify =>
      rw [alike.eq_setSetup, perform_setSetup other.setup apart]
      exact ⟨rfl, rfl, rfl, rfl⟩

/-- Pair-Setup and trust go on as if no Pair-Verify had ever been tried. -/
theorem alike_run_without_verify (controller : Controller) (calls : List Call) :
    (controller.run suite calls).Alike .setup
      (controller.run suite (calls.filter fun call => call.handshake? ≠ some .verify)) := by
  induction calls using List.reverseRecOn with
  | nil => exact .refl controller .setup
  | append_singleton calls call ih =>
      rw [List.filter_append, run_concat]
      by_cases belongs : call.handshake? = some .verify
      · have effect := effect_perform suite (controller.run suite calls) call
        rw [List.filter_cons_of_neg (by simpa using belongs), List.filter_nil, List.append_nil]
        have apart : call.handshake? ≠ some .setup := by
          rw [belongs]
          decide
        exact ⟨effect.identity_eq.trans ih.identity,
          (effect.trusted_eq_of_verify belongs).trans ih.trusted,
          (effect.sameProgress apart).trans ih.progress⟩
      · rw [List.filter_cons_of_pos (by simpa using belongs), List.filter_nil, run_concat]
        exact (ih.perform belongs).2

end Independence

end HomePairing.Controller
