import HomePairing.Proofs.Runs.Stages
import HomePairing.Proofs.Runs.Verification

/-!
# Who may change the store

A stage of Pair-Setup is a memory of requests: waiting for a proof means that the last
request over this connection has started the exchange, and waiting for an identity means
that the last one has proved the setup code to an exchange that the one before it had
started. `traced_run` carries that along every run, for every open connection. With the
history of Pair-Verify beside it, a changed store can be traced back to a proof of the
setup code, or to a completed Pair-Verify of a controller who is an admin at that moment
(`authorised_of_store_ne`).
-/

namespace HomePairing

namespace World

/-! ## What a stage remembers -/

variable (suite : Suite) (start : World) (i : Nat)

/-- The last Pair-Setup request over the connection was a first one and was accepted. -/
def StartedWith (server : Srp.Server) (salt : Block 16) : List Event → Prop :=
  History.Since
    (fun before event => ∃ body random,
      event = .request i .pairSetup body ∧
      (start.run suite before).Serves suite i .pairSetup body ∧
      SetupRequest.parse body = .ok (.start Method.pairSetup) ∧
      server =
        SetupStage.serverOf suite (start.run suite before).accessory.config salt random)
    (fun _ event => event.IsSetup i)

/-- The last Pair-Setup request over the connection was a proof and was accepted, in the
exchange that the one before it had started. -/
def ProvedWith (sessionKey : Bytes) : List Event → Prop :=
  History.Since
    (fun before event => ∃ body server salt publicKey proof serverProof,
      event = .request i .pairSetup body ∧
      StartedWith suite start i server salt before ∧
      (start.run suite before).Serves suite i .pairSetup body ∧
      SetupRequest.parse body = .ok (.prove publicKey proof) ∧
      server.verifyClient suite.srp setupUser salt.bytes publicKey proof =
        .ok (sessionKey, serverProof))
    (fun _ event => event.IsSetup i)

/-- What is known of the past from a stage. -/
def Traced (events : List Event) : SetupStage → Prop
  | .awaitingProof server salt _ => StartedWith suite start i server salt events
  | .awaitingExchange sessionKey _ => ProvedWith suite start i sessionKey events
  | .awaitingStart | .done => True

variable {suite} {start} {i}

/-- Other events do not change what is known. -/
theorem Traced.concat {events : List Event} {event : Event} {stage : SetupStage}
    (h : Traced suite start i events stage) (other : ¬ event.IsSetup i) :
    Traced suite start i (events ++ [event]) stage := by
  cases stage with
  | awaitingProof server salt lease =>
      have started : StartedWith suite start i server salt events := h
      exact started.concat other
  | awaitingExchange sessionKey lease =>
      have proved : ProvedWith suite start i sessionKey events := h
      exact proved.concat other
  | awaitingStart => trivial
  | done => trivial

/-- What a Pair-Setup request adds to what is known. -/
theorem traced_of_effect {events : List Event} {body : Bytes} {stage next : SetupStage}
    {after : Accessory} {answer : Except PairingError Bytes}
    (h : Traced suite start i events stage)
    (effect : stage.Effect suite (start.run suite events).accessory (start.run suite events).host
      body next after answer)
    (served : (start.run suite events).Serves suite i .pairSetup body ↔ answer.isOk = true) :
    Traced suite start i (events ++ [.request i .pairSetup body]) next := by
  cases effect with
  | refused _ _ => trivial
  | @started server salt random own parsed _ _ _ =>
      show StartedWith suite start i server salt (events ++ [.request i .pairSetup body])
      exact History.since_concat.mpr (.inl ⟨body, random, rfl, served.mpr rfl, parsed, own⟩)
  | @proved server salt lease publicKey proof sessionKey serverProof waiting parsed checked =>
      subst waiting
      -- What is known before the proof is that the exchange was started with its values.
      have started : StartedWith suite start i server salt events := h
      show ProvedWith suite start i sessionKey (events ++ [.request i .pairSetup body])
      exact History.since_concat.mpr (.inl ⟨body, server, salt, publicKey, proof, serverProof,
        rfl, started, served.mpr rfl, parsed, checked⟩)
  | rejected _ => trivial
  | paired _ _ _ => trivial

/-- Along every run, the stage of an open connection tells what has happened on it. -/
theorem traced_run (suite : Suite) (accessory : Accessory) (host : Host)
    (events : List Event) (i : Nat) {stage : SetupStage}
    (h : ((create accessory host).run suite events).openStage? i = some stage) :
    Traced suite (create accessory host) i events stage := by
  induction events using List.reverseRecOn generalizing stage with
  | nil => cases h
  | append_singleton events event ih =>
      rw [run_concat] at h
      rcases openStage?_step h with ⟨same, other⟩ | rfl | ⟨body, before, _, _, rfl, was,
        effect, served⟩
      · exact (ih same).concat other
      · trivial
      · exact traced_of_effect (ih was) effect served

/-! ## What entitles to a change -/

/-- What entitles an event to change the store, given what has happened before it. -/
inductive Authorised (suite : Suite) (start : World) (before : List Event) : Event → Prop
  /-- A controller has proved the setup code, and sends its identity: sealed under what
  the proof agreed on, and signed for this Pair-Setup under the key it contains. -/
  | paired {i body sessionKey sealed text payload signature} :
      (start.run suite before).Serves suite i .pairSetup body →
      ProvedWith suite start i sessionKey before →
      SetupRequest.parse body = .ok (.exchange sealed) →
      suite.openMessage (suite.derive .setupEncrypt sessionKey) .setup5 sealed = .ok text →
      SetupPayload.decode text = .ok payload →
      Block.ofBytes? payload.signature = some signature →
      suite.verify payload.publicKey
        (SetupPayload.signed suite .setupControllerSign sessionKey payload.id
          payload.publicKey) signature = true →
      Authorised suite start before (.request i .pairSetup body)
  /-- An admin adds or removes a controller, over a connection that has been verified for
  the admin. -/
  | managed {i body controller record} :
      (start.run suite before).Serves suite i .pairings body →
      ((∃ id publicKey permissions,
          PairingsRequest.parse body = .ok (.add id publicKey permissions)) ∨
        ∃ id, PairingsRequest.parse body = .ok (.remove id)) →
      (start.run suite before).verifiedAs i = some controller →
      History.Once
        (fun earlier event => (start.run suite earlier).Verifies suite i controller event)
        before →
      (start.run suite before).registry.find? controller.controllerId = some record →
      record.permissions = .admin →
      Authorised suite start before (.request i .pairings body)

/-- An event that changes the store is entitled to. -/
theorem authorised_of_store_ne (suite : Suite) (accessory : Accessory) (host : Host)
    (events : List Event) (event : Event)
    (changed : (((create accessory host).run suite events).step suite event).accessory.store ≠
      ((create accessory host).run suite events).accessory.store) :
    Authorised suite (create accessory host) events event := by
  have frame := store_step suite ((create accessory host).run suite events) event
  have filing := ((create accessory host).run suite events).filing_step suite event
  have managed : ∀ {i connection body},
      ((create accessory host).run suite events).hub.find? i = some connection →
      Management.isAdmin ((create accessory host).run suite events).accessory.store
        connection.controllerId? = true →
      ((create accessory host).run suite events).Serves suite i .pairings body →
      ((∃ id publicKey permissions,
          PairingsRequest.parse body = .ok (.add id publicKey permissions)) ∨
        ∃ id, PairingsRequest.parse body = .ok (.remove id)) →
      Authorised suite (create accessory host) events (.request i .pairings body) := by
    intro i connection body found admin served parsed
    obtain ⟨controller, record, verified, filed, isAdmin⟩ := exists_requester found admin
    exact .managed served parsed verified
      (once_verified suite accessory host events verified) filed isAdmin
  generalize (((create accessory host).run suite events).step suite event).registry = after
    at filing frame
  cases filing with
  -- With the same records it is the same store.
  | kept _ => exact absurd (frame.trans (Store.withRegistry_registry _)) changed
  | @paired i body connection sessionKey lease sealed payload found isOpen stage parsed
      opened served =>
      have proved := traced_run suite accessory host events i
        (openStage?_of_find? found isOpen)
      rw [stage] at proved
      obtain ⟨text, signature, unsealed, decoded, fits, verified⟩ :=
        SetupStage.signed_of_openExchange opened
      exact .paired served proved parsed unsealed decoded fits verified
  | @added i body connection id publicKey permissions found _ parsed admin _ served =>
      exact managed found admin served (.inl ⟨id, publicKey, permissions, parsed⟩)
  | @removed i body connection id found _ parsed admin served =>
      exact managed found admin served (.inr ⟨id, parsed⟩)

/-- What is entitled to a change is a request that is carried out, neither a Pair-Verify
nor a list. -/
theorem Authorised.served {events : List Event} {j : Nat} {endpoint : Endpoint} {body : Bytes}
    (h : Authorised suite start events (.request j endpoint body)) :
    (start.run suite events).Serves suite j endpoint body ∧ endpoint ≠ .pairVerify ∧
      (endpoint = .pairings → PairingsRequest.parse body ≠ .ok .list) := by
  cases h with
  | paired served _ _ _ _ _ _ => exact ⟨served, by decide, by simp⟩
  | managed served parsed _ _ _ _ =>
      refine ⟨served, by decide, fun _ listed => ?_⟩
      rw [listed] at parsed
      rcases parsed with ⟨_, _, _, added⟩ | ⟨_, removed⟩
      · cases added
      · cases removed

/-- Along every run the store is changed only by events that are entitled to it. No
Pair-Verify, no list, no request that is refused and none over a closed connection ever
changes it. -/
theorem store_step_authorised (suite : Suite) (accessory : Accessory) (host : Host)
    (events : List Event) (event : Event) :
    ((((create accessory host).run suite events).step suite event).accessory.store ≠
        ((create accessory host).run suite events).accessory.store →
      Authorised suite (create accessory host) events event) ∧
    ∀ i endpoint body, event = .request i endpoint body →
      (endpoint = .pairVerify ∨
        (endpoint = .pairings ∧ PairingsRequest.parse body = .ok .list) ∨
        ¬ ((create accessory host).run suite events).Serves suite i endpoint body ∨
        ∃ connection, ((create accessory host).run suite events).hub.find? i =
          some connection ∧ connection.state.isClosed = true) →
      (((create accessory host).run suite events).step suite event).accessory.store =
        ((create accessory host).run suite events).accessory.store := by
  refine ⟨authorised_of_store_ne suite accessory host events event, ?_⟩
  rintro i endpoint body rfl harmless
  by_contra changed
  obtain ⟨served, notVerify, notList⟩ :=
    (authorised_of_store_ne suite accessory host events _ changed).served
  rcases harmless with verify | ⟨pairings, listed⟩ | refused | ⟨connection, found, isClosed⟩
  · exact notVerify verify
  · exact notList pairings listed
  · exact refused served
  · obtain ⟨other, there, isOpen⟩ := served.exists_open
    rw [found] at there
    cases there
    rw [isClosed] at isOpen
    cases isOpen

/-- A controller that knows the code changes the lamp's store. -/
example :
    ((create .lamp .quiet).run .transparent
      (.connect :: Event.pairing 0 "C" Block.zero)).accessory.store ≠
        Accessory.lamp.store := by
  decide +kernel

end World

end HomePairing
