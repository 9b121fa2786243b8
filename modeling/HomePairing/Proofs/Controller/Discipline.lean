import HomePairing.Proofs.Controller.Calls
import HomePairing.Proofs.Runs.History
import HomePairing.Proofs.Runs.World

/-!
# The discipline of a controller

Progress is a memory of calls: a controller that waits for the accessory's proof was made to
start Pair-Setup and then to answer a challenge, by the last two Pair-Setup calls, and so
on for every other stage of both handshakes. `remembers_run` carries that along every run,
whatever replies the calls bring and in whatever order they come. As only the last call of
a handshake can end it well, what it takes to be trusted, or to get a session, can be read
off from the history (`disciplined`).
-/

namespace HomePairing.Controller

/-! ## What progress remembers -/

/-- The last call of a handshake was of a certain kind. -/
def Last (handshake : Handshake) (Kind : List Call → Call → Prop) : List Call → Prop :=
  History.Since Kind fun _ call => call.handshake? = some handshake

section Last

variable {handshake : Handshake} {Kind : List Call → Call → Prop} {calls : List Call}
  {call : Call}

theorem last_concat (h : Kind calls call) : Last handshake Kind (calls ++ [call]) :=
  History.since_concat.mpr (.inl h)

/-- Calls of the other handshake change nothing about the last one. -/
theorem Last.concat (h : Last handshake Kind calls) (apart : call.handshake? ≠ some handshake) :
    Last handshake Kind (calls ++ [call]) :=
  History.Since.concat h apart

end Last

variable (suite : Suite) (start : Controller)

/-- The last Pair-Setup call was a first one. -/
def Began : List Call → Prop :=
  Last .setup fun _ call => call = .setupStart

/-- The last Pair-Setup call has answered a challenge, and the one before was a first one. -/
def Challenged (pending : Srp.Pending) : List Call → Prop :=
  Last .setup fun before call => ∃ body code entropy salt serverKey,
    call = .setupProve body code entropy ∧ Began before ∧
    ((start.run suite before).perform suite call).2 = .sent (proofRequest pending) ∧
    readChallenge body = .ok (salt, serverKey) ∧
    answerChallenge suite (Srp.Client.start suite.srp (entropy.draw 32).1.bytes) code salt
      serverKey = .ok pending

/-- The last Pair-Setup call has accepted a proof that matches the challenge which the one
before it had answered. -/
def Agreed (sessionKey : Bytes) : List Call → Prop :=
  Last .setup fun before call => ∃ body pending request,
    call = .setupExchange body ∧ Challenged suite start pending before ∧
    ((start.run suite before).perform suite call).2 = .sent request ∧
    Proves suite pending body sessionKey

/-- The call ends Pair-Setup: it comes right after the one that has accepted a proof, and
brings an accessory with a signature that holds under the accessory's own key. -/
def Introduces (accessory : TrustedAccessory) (before : List Call) (call : Call) : Prop :=
  ∃ body sessionKey, call = .setupFinish body ∧ Agreed suite start sessionKey before ∧
    Identifies suite sessionKey body accessory

/-- The last Pair-Verify call was a first one. -/
def Asked (secret : Key) : List Call → Prop :=
  Last .verify fun _ call => ∃ entropy, call = .verifyStart entropy ∧
    secret = (entropy.draw 32).1

/-- The last Pair-Verify call has accepted a proof of the accessory that was trusted at that
moment, for the secret that the call before it had drawn. -/
def Vouched (keys : SessionKeys) : List Call → Prop :=
  Last .verify fun before call => ∃ body secret accessory request,
    call = .verifyProve body ∧ Asked secret before ∧
    ((start.run suite before).perform suite call).2 = .sent request ∧
    (start.run suite before).trusted = some accessory ∧
    Vouches suite accessory secret body keys

/-- The call ends Pair-Verify: it comes right after the one that has accepted a proof, and
the session has the keys that were agreed on there. -/
def Opens (session : Session) (before : List Call) (call : Call) : Prop :=
  ∃ body keys, call = .verifyFinish body ∧ Vouched suite start keys before ∧
    session = Session.controller keys

def SetupRemembers (calls : List Call) : SetupProgress → Prop
  | .idle => True
  | .awaitingSalt => Began calls
  | .awaitingProof pending => Challenged suite start pending calls
  | .awaitingKeys sessionKey => Agreed suite start sessionKey calls

def VerifyRemembers (calls : List Call) : VerifyProgress → Prop
  | .idle => True
  | .awaitingKey secret => Asked secret calls
  | .awaitingConfirm keys => Vouched suite start keys calls

/-- The calls so far explain how far a controller has come. -/
structure Remembers (calls : List Call) (controller : Controller) : Prop where
  setup : SetupRemembers suite start calls controller.setup
  verify : VerifyRemembers suite start calls controller.verify

variable {suite start} {calls : List Call} {call : Call} {controller next : Controller}
  {outcome : Outcome}

theorem SetupRemembers.concat {progress : SetupProgress}
    (h : SetupRemembers suite start calls progress) (apart : call.handshake? ≠ some .setup) :
    SetupRemembers suite start (calls ++ [call]) progress := by
  cases progress with
  | idle => trivial
  | awaitingSalt =>
      have began : Began calls := h
      exact began.concat apart
  | awaitingProof pending =>
      have challenged : Challenged suite start pending calls := h
      exact challenged.concat apart
  | awaitingKeys sessionKey =>
      have agreed : Agreed suite start sessionKey calls := h
      exact agreed.concat apart

theorem VerifyRemembers.concat {progress : VerifyProgress}
    (h : VerifyRemembers suite start calls progress) (apart : call.handshake? ≠ some .verify) :
    VerifyRemembers suite start (calls ++ [call]) progress := by
  cases progress with
  | idle => trivial
  | awaitingKey secret =>
      have asked : Asked secret calls := h
      exact asked.concat apart
  | awaitingConfirm keys =>
      have vouched : Vouched suite start keys calls := h
      exact vouched.concat apart

/-- What one call adds to what is remembered. -/
theorem Remembers.perform (h : Remembers suite start calls (start.run suite calls))
    (call : Call) :
    Remembers suite start (calls ++ [call]) (start.run suite (calls ++ [call])) := by
  have effect := effect_perform suite (start.run suite calls) call
  rw [run_concat]
  generalize performed : (start.run suite calls).perform suite call = result at effect ⊢
  obtain ⟨next, outcome⟩ := result
  have came : ((start.run suite calls).perform suite call).2 = outcome :=
    congrArg Prod.snd performed
  obtain ⟨setup, verify⟩ := h
  -- Each call moves one handshake on, and leaves what is remembered of the other.
  cases effect with
  | trusted => exact ⟨setup.concat (by nofun), verify.concat (by nofun)⟩
  | setupStarted =>
      have began : Began (calls ++ [.setupStart]) := last_concat rfl
      exact ⟨began, verify.concat (by nofun)⟩
  | @proved body salt serverKey code entropy pending waiting read answered =>
      rw [waiting] at setup
      have challenged : Challenged suite start pending
          (calls ++ [.setupProve body code entropy]) :=
        last_concat ⟨body, code, entropy, salt, serverKey, rfl, setup, came, read, answered⟩
      exact ⟨challenged, verify.concat (by nofun)⟩
  | @exchanged body sessionKey pending waiting read =>
      rw [waiting] at setup
      have agreed : Agreed suite start sessionKey (calls ++ [.setupExchange body]) :=
        last_concat ⟨body, pending, _, rfl, setup, came, proves_of_readProof suite read⟩
      exact ⟨agreed, verify.concat (by nofun)⟩
  | paired _ _ => exact ⟨trivial, verify.concat (by nofun)⟩
  | @verifyStarted entropy =>
      have asked : Asked (entropy.draw 32).1 (calls ++ [.verifyStart entropy]) :=
        last_concat ⟨entropy, rfl, rfl⟩
      exact ⟨setup.concat (by nofun), asked⟩
  | @confirmed body request secret keys waiting proven =>
      rw [waiting] at verify
      obtain ⟨accessory, trusted, vouches⟩ := vouches_of_proveIdentity suite proven
      have vouched : Vouched suite start keys (calls ++ [.verifyProve body]) :=
        last_concat ⟨body, secret, accessory, request, rfl, verify, came, trusted, vouches⟩
      exact ⟨setup.concat (by nofun), vouched⟩
  | opened _ _ => exact ⟨setup.concat (by nofun), trivial⟩
  | @failed _ handshake _ processes =>
      have belongs := Call.handshake?_of_processes? processes
      cases handshake with
      | setup => exact ⟨trivial, verify.concat (by simp [belongs])⟩
      | verify => exact ⟨setup.concat (by simp [belongs]), trivial⟩

/-- Along every run from the beginning of both handshakes, progress tells what has been
called. -/
theorem remembers_run (suite : Suite) {start : Controller}
    (idle : ∀ handshake, start.Idle handshake) (calls : List Call) :
    Remembers suite start calls (start.run suite calls) := by
  induction calls using List.reverseRecOn with
  | nil =>
      constructor
      · rw [run_nil, (idle .setup : start.setup = .idle)]
        trivial
      · rw [run_nil, (idle .verify : start.verify = .idle)]
        trivial
  | append_singleton calls call ih => exact ih.perform call

/-! ## What it takes -/

/-- An accessory comes to be trusted by being told so, or by the end of a Pair-Setup. -/
theorem Effect.trusted_cases (effect : Effect suite controller call next outcome) :
    next.trusted = controller.trusted ∨
      (∃ id publicKey, call = .trust id publicKey ∧ next.trusted = some ⟨id, publicKey⟩) ∨
      outcome = .paired := by
  cases effect with
  | @trusted id publicKey => exact .inr (.inl ⟨id, publicKey, rfl, rfl⟩)
  | paired _ _ => exact .inr (.inr rfl)
  | failed _ => exact .inl (controller.trusted_abandon _)
  | setupStarted | proved _ _ _ | exchanged _ _ | verifyStarted | confirmed _ _ | opened _ _ =>
      exact .inl rfl

theorem Effect.exists_introduces (h : Remembers suite start calls controller)
    (effect : Effect suite controller call next .paired) :
    ∃ accessory, next.trusted = some accessory ∧
      Introduces suite start accessory calls call := by
  cases effect with
  | @paired body sessionKey accessory waiting read =>
      have agreed := h.setup
      rw [waiting] at agreed
      exact ⟨accessory, rfl, body, sessionKey, rfl, agreed, identifies_of_readIdentity suite read⟩

theorem Effect.opens {session : Session} (h : Remembers suite start calls controller)
    (effect : Effect suite controller call next (.opened session)) :
    Opens suite start session calls call := by
  cases effect with
  | @opened body keys waiting _ =>
      have vouched := h.verify
      rw [waiting] at vouched
      exact ⟨body, keys, rfl, vouched, rfl⟩

theorem Effect.exists_abandon {cause : ServiceError}
    (effect : Effect suite controller call next (.failed cause)) :
    ∃ handshake, call.processes? = some handshake ∧ next = controller.abandon handshake := by
  cases effect with
  | failed processes => exact ⟨_, processes, rfl⟩

/-- **Discipline.** Whatever a controller is called to do, in any order and on any replies:

* another accessory is trusted only if it was told so, or at the end of a Pair-Setup, the
  last four calls of which were its steps, with a proof that matches the password exchange
  and a signature that holds under the key that is trusted from then on;
* a session opens only right after a Pair-Verify call that has accepted a signature under
  the key that was trusted then;
* a call that fails changes nothing but that its handshake is back at its beginning, and
  from there everything but a new start is refused;
* how far the one handshake has come has no influence on the other, and whom to trust is
  up to Pair-Setup alone. -/
theorem disciplined (suite : Suite) (identity : Identity) (calls : List Call) (call : Call) :
    let start := create identity
    let before := start.run suite calls
    let after := (before.perform suite call).1
    let outcome := (before.perform suite call).2
    (after.trusted = before.trusted ∨
        (∃ id publicKey, call = .trust id publicKey ∧ after.trusted = some ⟨id, publicKey⟩) ∨
        outcome = .paired) ∧
      (outcome = .paired → ∃ accessory, after.trusted = some accessory ∧
        Introduces suite start accessory calls call) ∧
      (∀ session, outcome = .opened session → Opens suite start session calls call) ∧
      (∀ cause, outcome = .failed cause → ∃ handshake, call.processes? = some handshake ∧
        after = before.abandon handshake ∧
        ∀ later, (∀ other ∈ later, other.starts? ≠ some handshake) →
          ∀ next, next.processes? = some handshake →
            OutOfTurn suite (after.run suite later) next) ∧
      (∀ handshake, call.handshake? ≠ some handshake →
        after.SameProgress before handshake) ∧
      (∀ handshake other, call.handshake? ≠ some handshake.other →
        before.Alike handshake other →
          (other.perform suite call).2 = outcome ∧
            after.Alike handshake (other.perform suite call).1) ∧
      before.Alike .setup
        (start.run suite (calls.filter fun call => call.handshake? ≠ some .verify)) := by
  intro start before after outcome
  have effect : Effect suite before call after outcome := effect_perform suite before call
  have remembers : Remembers suite start calls before :=
    remembers_run suite (fun handshake => by cases handshake <;> rfl) calls
  refine ⟨effect.trusted_cases, fun paired => ?_, fun session opened => ?_, fun cause failed => ?_,
    fun handshake apart => effect.sameProgress apart,
    fun handshake other apart alike => alike.perform apart, alike_run_without_verify start calls⟩
  · rw [paired] at effect
    exact effect.exists_introduces remembers
  · rw [opened] at effect
    exact effect.opens remembers
  · rw [failed] at effect
    obtain ⟨handshake, processes, abandoned⟩ := effect.exists_abandon
    refine ⟨handshake, processes, abandoned, fun later unstarted next goesOn => ?_⟩
    have idle : after.Idle handshake := abandoned ▸ before.idle_abandon handshake
    exact outOfTurn_of_idle (idle_run idle unstarted) goesOn

/-- Under a suite that hides nothing a controller pairs with an accessory and gets a session
with it, while a Pair-Verify is started in the middle of the Pair-Setup. -/
theorem disciplined_transparent :
    let start := create ⟨"CC:01", Block.zero⟩
    let signature : Bytes := (Block.zero : Signature).bytes
    let identity : SetupPayload := { id := "AA:00", publicKey := Block.zero, signature }
    let proof : VerifyPayload := { id := "AA:00", signature }
    let pairing : List Call :=
      [.setupStart,
        .setupProve (Tlv.encode [Tlv.stateField 2, (.salt, [1]), (.publicKey, [3])])
          "031-45-154" Host.quiet.entropy,
        .verifyStart Host.quiet.entropy,
        .setupExchange (Tlv.encode [Tlv.stateField 4, (.proof, [1])])]
    let finish : Call := .setupFinish (Tlv.encode [Tlv.stateField 6,
      (.encryptedData, Suite.transparent.sealMessage Block.zero .setup6 identity.encode)])
    let verifying : List Call := pairing ++ [finish,
      .verifyProve (Tlv.encode [Tlv.stateField 2, (.publicKey, List.replicate 32 1),
        (.encryptedData, Suite.transparent.sealMessage Block.zero .verify2 proof.encode)])]
    let confirm : Call := .verifyFinish (Tlv.encode [Tlv.stateField 4])
    let session := Session.controller ⟨Block.zero, Block.zero⟩
    Introduces Suite.transparent start ⟨"AA:00", Block.zero⟩ pairing finish ∧
      Opens Suite.transparent start session verifying confirm := by
  intro start signature identity proof pairing finish verifying confirm session
  obtain ⟨-, introduces, -⟩ := disciplined Suite.transparent ⟨"CC:01", Block.zero⟩ pairing finish
  obtain ⟨-, -, opens, -⟩ := disciplined Suite.transparent ⟨"CC:01", Block.zero⟩ verifying confirm
  constructor
  · obtain ⟨accessory, trusted, introduced⟩ := introduces (by decide +kernel)
    have learned :
        ((start.run Suite.transparent pairing).perform Suite.transparent finish).1.trusted =
          some ⟨"AA:00", Block.zero⟩ := by decide +kernel
    rw [learned] at trusted
    cases trusted
    exact introduced
  · exact opens session (by decide +kernel)

end HomePairing.Controller
