import HomePairing.Proofs.Runs.Verification

/-!
# What an encrypted connection rests on

Pair-Verify remembers one agreement at a time: that of the last first request. Every other
request throws it away, accepted or not. So while a connection waits for a proof, the last
Pair-Verify request over it has started the agreement that the proof will be checked against
(`World.AgreedOn`, `exists_agreedOn`), and an agreement that was replaced is gone
(`verifyStage?_of_agreedOn`). A connection becomes encrypted only by a proof for that very
agreement, and the keys of its session come from it (`World.encrypted_by_proof`).
-/

namespace HomePairing

/-- A Pair-Verify request over a connection. -/
def Event.IsVerify (i : Nat) (event : Event) : Prop :=
  ∃ body, event = .request i .pairVerify body

namespace Connection

/-- The Pair-Verify stage of a connection, if it is open and still in clear. -/
def verifyStage? (connection : Connection) : Option VerifyStage :=
  if connection.state.isClosed || connection.session.isSome then none
  else some connection.verify

theorem verifyStage?_eq_some_iff {connection : Connection} {stage : VerifyStage} :
    connection.verifyStage? = some stage ↔
      connection.state.isClosed = false ∧ connection.session = none ∧
        connection.verify = stage := by
  unfold verifyStage?
  cases connection.state.isClosed <;> cases connection.session <;> simp

/-- A connection that keeps its stage and its session shows no stage that was not there;
if its state is set, then to a closed one. -/
theorem verifyStage?_of_kept {before connection : Connection} {stage : VerifyStage}
    (kept : connection.verify = before.verify)
    (held : connection.session.isSome = before.session.isSome)
    (closing : connection.state = before.state ∨ connection.state.isClosed = true)
    (shown : connection.verifyStage? = some stage) : before.verifyStage? = some stage := by
  unfold verifyStage? at shown ⊢
  rcases closing with same | closed
  · rw [← same, ← held, ← kept]
    exact shown
  · simp [closed] at shown

/-- The controller that a connection is encrypted for. -/
def encryptedAs (connection : Connection) : Option PairingRecord :=
  if connection.state = .encrypted then connection.controller else none

/-- A connection that keeps its controller is encrypted for it only if it was before; if its
state is set, then to a closed one. -/
theorem encryptedAs_of_kept {before connection : Connection} {controller : PairingRecord}
    (kept : connection.controller = before.controller)
    (closing : connection.state = before.state ∨ connection.state.isClosed = true)
    (shown : connection.encryptedAs = some controller) :
    before.encryptedAs = some controller := by
  unfold encryptedAs at shown ⊢
  rcases closing with same | closed
  · rw [← same, ← kept]
    exact shown
  · split at shown
    · next encrypted =>
        rw [encrypted] at closed
        cases closed
    · cases shown

end Connection

namespace World

/-- The Pair-Verify stage of a connection that is open and in clear. -/
def verifyStage? (world : World) (i : Nat) : Option VerifyStage :=
  world.hub.view Connection.verifyStage? i

/-- The controller that a connection is encrypted for. -/
def encryptedAs (world : World) (i : Nat) : Option PairingRecord :=
  world.hub.view Connection.encryptedAs i

/-- The session of a connection. -/
def session? (world : World) (i : Nat) : Option Session :=
  world.hub.view (·.session) i

variable {suite : Suite} {start world : World} {i : Nat}

/-! ## Where an agreement comes from -/

theorem verifyStage?_of_find? {connection : Connection}
    (found : world.hub.find? i = some connection)
    (isOpen : connection.state.isClosed = false) (fresh : connection.session = none) :
    world.verifyStage? i = some connection.verify :=
  (Hub.view_of_find? found).trans
    (Connection.verifyStage?_eq_some_iff.mpr ⟨isOpen, fresh, rfl⟩)

/-- Where the stage of a connection in clear comes from: it was there before, or the
connection is new, or a Pair-Verify request has led to it. -/
theorem verifyStage?_step {event : Event} {next : VerifyStage}
    (h : (world.step suite event).verifyStage? i = some next) :
    (world.verifyStage? i = some next ∧ ¬ event.IsVerify i) ∨
      (next = .awaitingStart ∧ event = .connect ∧ i = world.hub.connections.length) ∨
      ∃ body connection,
        event = .request i .pairVerify body ∧
        world.hub.find? i = some connection ∧
        connection.state.isClosed = false ∧
        connection.session = none ∧
        next = (connection.verify.attempt suite world.accessory world.host body).stage := by
  have change := world.change_step suite event
  unfold verifyStage? at h
  generalize (world.step suite event).hub = hub at change h
  cases change with
  | missed closed =>
      refine .inl ⟨h, ?_⟩
      rintro ⟨body, rfl⟩
      obtain ⟨connection, found, there⟩ := Option.bind_eq_some_iff.mp h
      have isOpen := (Connection.verifyStage?_eq_some_iff.mp there).1
      rw [closed i .pairVerify body rfl connection found] at isOpen
      cases isOpen
  | connected =>
      rw [Hub.view_connect] at h
      split at h
      · next new =>
          cases h
          exact .inr (.inl ⟨rfl, rfl, new⟩)
      · exact .inl ⟨h, by simp [Event.IsVerify]⟩
  | dropped found =>
      have h := (Hub.view_set found none i).symm.trans h
      split at h
      · cases h
      · exact .inl ⟨h, by simp [Event.IsVerify]⟩
  | closed found =>
      refine .inl ⟨Hub.view_of_set found h fun shown => ?_, by simp [Event.IsVerify]⟩
      cases shown
  | setup found _ _ _ => exact .inl ⟨Hub.view_of_set found h id, by simp [Event.IsVerify]⟩
  | @verifying j body connection stage found isOpen attempted =>
      rw [Hub.view_put found] at h
      split at h
      · next here =>
          obtain ⟨_, fresh, same⟩ := Connection.verifyStage?_eq_some_iff.mp h
          subst here
          exact .inr (.inr ⟨body, connection, rfl, found, isOpen, fresh,
            same.symm.trans (attempted fresh)⟩)
      · next apart => exact .inl ⟨h, by simp [Event.IsVerify, Ne.symm apart]⟩
  | verified found _ _ _ _ _ =>
      rw [Hub.view_put found] at h
      split at h
      · cases h
      · next apart => exact .inl ⟨h, by simp [Event.IsVerify, Ne.symm apart]⟩
  | managed found _ closing _ _ =>
      exact .inl ⟨Hub.view_of_set found h (Connection.verifyStage?_of_kept rfl rfl closing),
        by simp [Event.IsVerify]⟩
  | carried other found held closing =>
      refine .inl ⟨Hub.view_of_set found h (Connection.verifyStage?_of_kept rfl held closing), ?_⟩
      rintro ⟨body, same⟩
      exact other i .pairVerify body same

/-- The last Pair-Verify request over the connection was a first one and was accepted: this
is the value it brought, and the secret that the accessory drew for it. -/
def AgreedOn (suite : Suite) (start : World) (i : Nat) (secret publicKey : Key) :
    List Event → Prop :=
  History.Since
    (fun before event => ∃ body,
      event = .request i .pairVerify body ∧
      (start.run suite before).Serves suite i .pairVerify body ∧
      VerifyRequest.parse body = .ok (.start publicKey) ∧
      secret = ((start.run suite before).host.draw 32).1)
    (fun _ event => event.IsVerify i)

/-- A connection that waits for a proof waits for one of the agreement that the last
Pair-Verify request over it has started. -/
theorem exists_agreedOn (suite : Suite) (accessory : Accessory) (host : Host)
    (events : List Event) {pending : PendingVerify}
    (h : ((create accessory host).run suite events).verifyStage? i =
      some (.awaitingFinish pending)) :
    ∃ secret publicKey, AgreedOn suite (create accessory host) i secret publicKey events ∧
      pending = VerifyStage.agreement suite secret publicKey := by
  induction events using List.reverseRecOn with
  | nil => cases h
  | append_singleton events event ih =>
      rw [run_concat] at h
      rcases verifyStage?_step h with ⟨same, other⟩ | ⟨new, _, _⟩ | ⟨body, connection, rfl,
        found, isOpen, fresh, next⟩
      · obtain ⟨secret, publicKey, agreed, own⟩ := ih same
        exact ⟨secret, publicKey, agreed.concat other, own⟩
      · cases new
      · obtain ⟨publicKey, parsed, accepted, own⟩ := VerifyStage.started_of_awaitingFinish next.symm
        refine ⟨_, publicKey, ?_, own⟩
        exact History.since_concat.mpr (.inl ⟨body, rfl,
          (serves_verify_iff suite _ body found isOpen fresh).mpr accepted, parsed, rfl⟩)

/-- Where an agreement was started there is a connection. -/
theorem lt_of_agreedOn {secret publicKey : Key} {events : List Event}
    (agreed : AgreedOn suite start i secret publicKey events) :
    i < (start.run suite events).hub.connections.length := by
  induction events using List.reverseRecOn with
  | nil => exact absurd agreed History.not_since_nil
  | append_singleton events event ih =>
      rw [run_concat]
      refine Nat.lt_of_lt_of_le ?_ (length_step suite _ event)
      rcases History.since_concat.mp agreed with ⟨body, _, served, _, _⟩ | ⟨before, _⟩
      · obtain ⟨connection, found, _⟩ := served.exists_open
        exact Hub.lt_of_find? found
      · exact ih before

/-- A connection remembers the last agreement and no other. -/
theorem verifyStage?_of_agreedOn {secret publicKey : Key} {events : List Event}
    (agreed : AgreedOn suite start i secret publicKey events) {stage : VerifyStage}
    (h : (start.run suite events).verifyStage? i = some stage) :
    stage = .awaitingFinish (VerifyStage.agreement suite secret publicKey) := by
  induction events using List.reverseRecOn with
  | nil => exact absurd agreed History.not_since_nil
  | append_singleton events event ih =>
      rw [run_concat] at h
      rcases History.since_concat.mp agreed with ⟨body, rfl, served, parsed, own⟩ |
        ⟨before, quiet⟩
      · -- The agreement has just been started, by this very request.
        rcases verifyStage?_step h with ⟨_, other⟩ | ⟨_, connected, _⟩ | ⟨_, connection, same,
          found, isOpen, fresh, next⟩
        · exact absurd ⟨body, rfl⟩ other
        · cases connected
        · cases same
          rw [next, own]
          exact (VerifyStage.agreement_of_started parsed
            ((serves_verify_iff suite _ body found isOpen fresh).mp served)).1
      · rcases verifyStage?_step h with ⟨same, _⟩ | ⟨_, _, new⟩ | ⟨body, _, request, _⟩
        · exact ih before same
        · -- The number would be a new one, but there has been a request over it.
          exact absurd (lt_of_agreedOn before) (new ▸ Nat.lt_irrefl _)
        · exact absurd ⟨body, request⟩ quiet

/-! ## What makes a connection encrypted -/

/-- A controller that a connection is encrypted for after a step was its controller before,
or has been verified by the step. -/
theorem encryptedAs_step {event : Event} {controller : PairingRecord}
    (after : (world.step suite event).encryptedAs i = some controller) :
    world.encryptedAs i = some controller ∨ world.Verifies suite i controller event := by
  have change := world.change_step suite event
  unfold encryptedAs at after
  generalize (world.step suite event).hub = hub at change after
  cases change with
  | missed _ => exact .inl after
  | connected =>
      rw [Hub.view_connect_blank rfl] at after
      exact .inl after
  | dropped found =>
      have after := (Hub.view_set found none i).symm.trans after
      split at after
      · cases after
      · exact .inl after
  | closed found =>
      exact .inl (Hub.view_of_set found after (Connection.encryptedAs_of_kept rfl (.inr rfl)))
  | setup found _ _ _ => exact .inl (Hub.view_of_set found after id)
  | verifying found _ _ => exact .inl (Hub.view_of_set found after id)
  | @verified j body connection pending sealed verified found isOpen fresh waiting parsed opened =>
      rw [Hub.view_put found] at after
      split at after
      · next here =>
          cases after
          subst here
          exact .inr ⟨body, connection, pending, sealed, rfl, found, isOpen, fresh, waiting,
            parsed, opened⟩
      · exact .inl after
  | managed found _ closing _ _ =>
      exact .inl (Hub.view_of_set found after (Connection.encryptedAs_of_kept rfl closing))
  | carried _ found _ closing =>
      exact .inl (Hub.view_of_set found after (Connection.encryptedAs_of_kept rfl closing))

/-- A proof that makes a connection encrypted for a controller: sealed under the key of the
last agreement, and signed over the values of that agreement, each side's once, under the
key that the store holds for the controller. The keys of the session are those of the same
agreement. -/
inductive ProvedBy (suite : Suite) (start : World) (before : List Event) (i : Nat)
    (controller : PairingRecord) : Event → Prop
  | proof {body sealed secret publicKey text payload signature} :
      VerifyRequest.parse body = .ok (.finish sealed) →
      AgreedOn suite start i secret publicKey before →
      suite.openMessage (suite.derive .verifyEncrypt (suite.agree secret publicKey).bytes)
        .verify3 sealed = .ok text →
      VerifyPayload.decode text = .ok payload →
      (start.run suite before).registry.find? payload.id = some controller →
      (start.registry.WellFiled → payload.id = controller.controllerId) →
      Block.ofBytes? payload.signature = some signature →
      suite.verify controller.publicKey
        (publicKey.bytes ++ Bytes.ofString payload.id ++ (suite.agreementPublic secret).bytes)
        signature = true →
      ((start.run suite before).step suite (.request i .pairVerify body)).session? i =
        some (Session.accessory
          (SessionKeys.derive suite (suite.agree secret publicKey).bytes)) →
      ProvedBy suite start before i controller (.request i .pairVerify body)

theorem provedBy_of_verifies (suite : Suite) (accessory : Accessory) (host : Host)
    (events : List Event) {controller : PairingRecord} {event : Event}
    (verifies : ((create accessory host).run suite events).Verifies suite i controller event) :
    ProvedBy suite (create accessory host) events i controller event := by
  obtain ⟨body, connection, pending, sealed, rfl, found, isOpen, fresh, waiting, parsed,
    opened⟩ := verifies
  obtain ⟨secret, publicKey, agreed, rfl⟩ := exists_agreedOn suite accessory host events
    ((verifyStage?_of_find? found isOpen fresh).trans (congrArg some waiting))
  obtain ⟨text, payload, signature, unsealed, decoded, filed, fits, verified⟩ :=
    VerifyStage.signed_of_openProof opened
  refine .proof parsed agreed unsealed decoded filed (fun wellFiled => ?_) fits verified ?_
  · exact (wellFiled_run suite wellFiled events payload.id controller filed).symm
  · exact Hub.view_of_find? (find?_step_verified suite _ found isOpen fresh waiting parsed opened)

/-- A controller that pairs with the lamp and then verifies makes its connection encrypted. -/
example :
    (((create .lamp .quiet).run .transparent (.connect ::
      (Event.pairing 0 "C" Block.zero ++ Event.verification 0 "C"))).encryptedAs 0).map
        (·.controllerId) = some "C" := by
  decide +kernel

end World

end HomePairing
