import HomePairing.Proofs.Requests.Setup
import HomePairing.Proofs.Requests.Verify
import HomePairing.Proofs.Runs.World

/-!
# What one event can do

`World.Change` lists everything one event can do to an accessory and its connections, with
what was checked on the way, and `World.change_step` says the list is complete. What holds
along every run is proved by going through these cases, and never through the code.
-/

namespace HomePairing

/-! ## What management, Pair-Verify and bytes leave of a connection -/

namespace Connection

variable (suite : Suite) (connection : Connection)

/-- A connection goes with the pairing of its own controller, so only a verified one does. -/
theorem isAmong_iff {connection : Connection} {removed : List String} :
    connection.isAmong removed = true ↔
      ∃ record, connection.controller = some record ∧ record.controllerId ∈ removed := by
  cases known : connection.controller with
  | none => simp [isAmong, controllerId?, known]
  | some record => simp [isAmong, controllerId?, known]

theorem isAmong_iff_mem {connection : Connection} {id : String}
    (known : connection.controllerId? = some id) (removed : List String) :
    connection.isAmong removed = true ↔ id ∈ removed := by
  simp [isAmong, known]

theorem isAmong_nil : connection.isAmong [] = false := by
  rw [Bool.eq_false_iff, Ne, isAmong_iff]
  simp

/-- Managing pairings can only close the connection. -/
theorem connection_handlePairings (accessory : Accessory) (host : Host) (body : Bytes) :
    ∃ state, (connection.handlePairings accessory host body).connection =
      { connection with state } ∧ (state = connection.state ∨ state.isClosed = true) := by
  have either : ∀ gone, ∃ state, connection.closeWhen gone = { connection with state } ∧
      (state = connection.state ∨ state.isClosed = true) := by
    intro gone
    cases gone with
    | true => exact ⟨.closed .pairingRemoved, rfl, .inr rfl⟩
    | false => exact ⟨connection.state, rfl, .inl rfl⟩
  exact either _

/-- On a connection in clear, Pair-Verify answers what its stage answers. -/
theorem body_handleVerify (fresh : connection.session = none) (accessory : Accessory)
    (host : Host) (body : Bytes) :
    (connection.handleVerify suite accessory host body).answer.body =
      (connection.verify.handle suite accessory host body).answer.body := by
  rw [handleVerify, isEncrypted, fresh, if_neg (by simp)]
  cases answered : (connection.verify.handle suite accessory host body).answer with
  | respond reply => simp only [answered, VerifyStep.body]
  | verified reply controller keys => simp only [answered, VerifyStep.body]

theorem handleVerify_of_verified (fresh : connection.session = none) {accessory : Accessory}
    {host after : Host} {body reply : Bytes} {next : VerifyStage} {controller : PairingRecord}
    {keys : SessionKeys}
    (attempted : connection.verify.attempt suite accessory host body =
      ⟨next, after, .ok (.verified reply controller keys)⟩) :
    connection.handleVerify suite accessory host body =
      { connection :=
          { connection with
            verify := next
            session := some (Session.accessory keys)
            controller := some controller
            state := .encrypted }
        accessory := accessory
        host := after
        answer := ⟨reply, false, false⟩ } := by
  have handled : connection.verify.handle suite accessory host body =
      ⟨next, after, .verified reply controller keys⟩ := by
    rw [VerifyStage.handle, attempted]
  rw [handleVerify, isEncrypted, fresh, if_neg (by simp), handled]

theorem encrypt_frame (text : Bytes) :
    ∃ session, (connection.encrypt suite text).1 = { connection with session } ∧
      session.isSome = connection.session.isSome := by
  obtain ⟨setup, verify, session, controller, state⟩ := connection
  cases session with
  | none => exact ⟨none, rfl, rfl⟩
  | some session => exact ⟨some (session.encrypt suite text).1, rfl, rfl⟩

/-- Decrypting moves the session on, if there is one, and can only close the connection. -/
theorem decrypt_frame (data : Bytes) :
    ∃ session state, (connection.decrypt suite data).1 = { connection with session, state } ∧
      session.isSome = connection.session.isSome ∧
      (state = connection.state ∨ state.isClosed = true) := by
  unfold decrypt
  split
  · exact ⟨connection.session, connection.state, rfl, rfl, .inl rfl⟩
  -- In clear or encrypted, it is the session that decides.
  all_goals
    split
    · exact ⟨connection.session, connection.state, rfl, rfl, .inl rfl⟩
    · next held =>
        split
        · exact ⟨_, connection.state, rfl, by rw [held]; rfl, .inl rfl⟩
        · exact ⟨_, .closed .sessionFailure, rfl, by rw [held]; rfl, .inr rfl⟩

end Connection

/-! ## What one event can do -/

namespace World

/-- What an event leaves behind of an accessory and its connections. -/
inductive Change (suite : Suite) (world : World) : Event → Hub → Prop
  /-- Nobody takes it: there is no such connection, or it is closed, or the event is not
  about the accessory at all. -/
  | missed {event} :
      (∀ i endpoint body, event = .request i endpoint body →
        ∀ connection, world.hub.find? i = some connection →
          connection.state.isClosed = true) →
      Change suite world event world.hub
  | connected : Change suite world .connect world.hub.connect.2
  /-- A dropped connection gives its lease back. -/
  | dropped {i connection} :
      world.hub.find? i = some connection →
      Change suite world (.drop i)
        { world.hub.set i none with
          accessory := world.accessory.releaseAll connection.setup.lease? }
  | closed {i connection} :
      world.hub.find? i = some connection →
      Change suite world (.close i) (world.hub.set i (some connection.close))
  | setup {i body connection next after answer} :
      world.hub.find? i = some connection →
      connection.state.isClosed = false →
      connection.setup.Effect suite world.accessory world.host body next after answer →
      (world.Serves suite i .pairSetup body ↔ answer.isOk = true) →
      Change suite world (.request i .pairSetup body)
        (world.hub.put i { connection with setup := next } after)
  /-- Pair-Verify went on, or was refused. Only an encrypted connection does not look at the
  request. -/
  | verifying {i body connection next} :
      world.hub.find? i = some connection →
      connection.state.isClosed = false →
      (connection.session = none →
        next = (connection.verify.attempt suite world.accessory world.host body).stage) →
      Change suite world (.request i .pairVerify body)
        (world.hub.put i { connection with verify := next } world.accessory)
  | verified {i body connection pending sealed controller} :
      world.hub.find? i = some connection →
      connection.state.isClosed = false →
      connection.session = none →
      connection.verify = .awaitingFinish pending →
      VerifyRequest.parse body = .ok (.finish sealed) →
      VerifyStage.openProof suite world.accessory.store pending sealed = .ok controller →
      Change suite world (.request i .pairVerify body)
        (world.hub.put i
          { connection with
            verify := .done
            session := some (Session.accessory
              (SessionKeys.derive suite pending.sharedSecret.bytes))
            controller := some controller
            state := .encrypted }
          world.accessory)
  /-- Pairings were managed, or were not. A connection whose own pairing went is closed. -/
  | managed {i body connection state after answer} :
      world.hub.find? i = some connection →
      connection.state.isClosed = false →
      (state = connection.state ∨ state.isClosed = true) →
      Management.Effect world.accessory connection.controllerId? body after answer →
      (world.Serves suite i .pairings body ↔ answer.isOk = true) →
      Change suite world (.request i .pairings body)
        (world.hub.put i { connection with state } after)
  /-- Bytes went through the session. A refused frame closes the connection. -/
  | carried {event i connection session state} :
      (∀ i endpoint body, event ≠ .request i endpoint body) →
      world.hub.find? i = some connection →
      session.isSome = connection.session.isSome →
      (state = connection.state ∨ state.isClosed = true) →
      Change suite world event
        (world.hub.set i (some { connection with session, state }))

variable (suite : Suite) (world : World)

theorem answer_eq {i : Nat} {connection : Connection}
    (found : world.hub.find? i = some connection) (endpoint : Endpoint) (body : Bytes) :
    world.answer suite i endpoint body =
      some (connection.handle suite world.accessory world.host endpoint body).answer := by
  simp only [answer, Hub.handle, found]
  rfl

/-- An open connection passes a request on to its endpoint. -/
theorem handle_of_open {connection : Connection} (isOpen : connection.state.isClosed = false)
    (accessory : Accessory) (host : Host) (endpoint : Endpoint) (body : Bytes) :
    connection.handle suite accessory host endpoint body =
      let outcome :=
        match endpoint with
        | .pairSetup => connection.handleSetup suite accessory host body
        | .pairVerify => connection.handleVerify suite accessory host body
        | .pairings => connection.handlePairings accessory host body
      { outcome with answer := .ok outcome.answer } := by
  unfold Connection.handle
  cases state : connection.state with
  | closed reason =>
      rw [state] at isOpen
      cases isOpen
  | plain => rfl
  | encrypted => rfl

/-- A reply to an open connection decides whether the request was carried out. -/
theorem serves_iff_of_open {i : Nat} {connection : Connection}
    (found : world.hub.find? i = some connection) {endpoint : Endpoint} {body : Bytes}
    {reply : ConnectionReply}
    (answered : (connection.handle suite world.accessory world.host endpoint body).answer =
      .ok reply) :
    world.Serves suite i endpoint body ↔ ¬ Pairing.IsRefusal reply.body := by
  unfold Serves
  rw [world.answer_eq suite found, answered]
  simp

/-- Only an open connection replies. -/
theorem exists_open_of_answer {suite : Suite} {world : World} {i : Nat} {endpoint : Endpoint}
    {body : Bytes} {reply : ConnectionReply}
    (answered : world.answer suite i endpoint body = some (.ok reply)) :
    ∃ connection, world.hub.find? i = some connection ∧ connection.state.isClosed = false := by
  cases found : world.hub.find? i with
  | none =>
      simp only [answer, Hub.handle, found] at answered
      cases answered
  | some connection =>
      refine ⟨connection, rfl, ?_⟩
      rw [world.answer_eq suite found] at answered
      unfold Connection.handle at answered
      cases state : connection.state with
      | closed reason => simp [state] at answered
      | plain => rfl
      | encrypted => rfl

/-- A request is carried out only over an open connection. -/
theorem Serves.exists_open {suite : Suite} {world : World} {i : Nat} {endpoint : Endpoint}
    {body : Bytes} (served : world.Serves suite i endpoint body) :
    ∃ connection, world.hub.find? i = some connection ∧ connection.state.isClosed = false := by
  obtain ⟨reply, answered, _⟩ := served
  exact exists_open_of_answer answered

/-! ### Requests -/

/-- What comes back from a Pair-Setup request is the answer of the connection's Pair-Setup. -/
theorem answer_setup {i : Nat} {connection : Connection} (body : Bytes)
    (found : world.hub.find? i = some connection)
    (isOpen : connection.state.isClosed = false) :
    world.answer suite i .pairSetup body =
      some (.ok ⟨(connection.setup.handle suite world.accessory world.host body).answer,
        connection.isEncrypted, false⟩) := by
  rw [world.answer_eq suite found, handle_of_open suite isOpen]
  rfl

/-- A Pair-Setup request leaves the connection at the stage it has led to. -/
theorem find?_step_setup {i : Nat} {connection : Connection} (body : Bytes)
    (found : world.hub.find? i = some connection)
    (isOpen : connection.state.isClosed = false) :
    (world.step suite (.request i .pairSetup body)).hub.find? i =
      some { connection with
        setup := (connection.setup.attempt suite world.accessory world.host body).stage } := by
  simp only [step, Hub.handle, found, handle_of_open suite isOpen]
  rw [← SetupStage.stage_handle]
  exact (Hub.find?_set (Hub.lt_of_find? found) _ i).trans (if_pos rfl)

theorem serves_setup_iff {i : Nat} {connection : Connection} (body : Bytes)
    (found : world.hub.find? i = some connection)
    (isOpen : connection.state.isClosed = false) :
    world.Serves suite i .pairSetup body ↔
      (connection.setup.attempt suite world.accessory world.host body).answer.isOk = true := by
  rw [world.serves_iff_of_open suite found (by rw [handle_of_open suite isOpen]),
    Connection.handleSetup, SetupStage.isRefusal_handle_iff]
  cases (connection.setup.attempt suite world.accessory world.host body).answer <;>
    simp [Except.isOk, Except.toBool]

theorem change_setup {i : Nat} {connection : Connection} (body : Bytes)
    (found : world.hub.find? i = some connection)
    (isOpen : connection.state.isClosed = false) :
    Change suite world (.request i .pairSetup body)
      (world.step suite (.request i .pairSetup body)).hub := by
  have effect := SetupStage.effect_attempt suite connection.setup world.accessory world.host body
  have served := world.serves_setup_iff suite body found isOpen
  rw [← SetupStage.stage_handle, ← SetupStage.accessory_handle] at effect
  simp only [step, Hub.handle, found, handle_of_open suite isOpen]
  exact .setup found isOpen effect served

theorem serves_verify_iff {i : Nat} {connection : Connection} (body : Bytes)
    (found : world.hub.find? i = some connection)
    (isOpen : connection.state.isClosed = false) (fresh : connection.session = none) :
    world.Serves suite i .pairVerify body ↔
      (connection.verify.attempt suite world.accessory world.host body).answer.isOk = true := by
  rw [world.serves_iff_of_open suite found (by rw [handle_of_open suite isOpen]),
    connection.body_handleVerify suite fresh, VerifyStage.isRefusal_handle_iff]
  cases (connection.verify.attempt suite world.accessory world.host body).answer <;>
    simp [Except.isOk, Except.toBool]

/-- A connection whose controller has been verified is encrypted with the agreed keys. -/
theorem find?_step_verified {i : Nat} {connection : Connection} {body sealed : Bytes}
    {pending : PendingVerify} {controller : PairingRecord}
    (found : world.hub.find? i = some connection)
    (isOpen : connection.state.isClosed = false) (fresh : connection.session = none)
    (waiting : connection.verify = .awaitingFinish pending)
    (parsed : VerifyRequest.parse body = .ok (.finish sealed))
    (opened : VerifyStage.openProof suite world.accessory.store pending sealed =
      .ok controller) :
    (world.step suite (.request i .pairVerify body)).hub.find? i =
      some { connection with
        verify := .done
        session := some (Session.accessory
          (SessionKeys.derive suite pending.sharedSecret.bytes))
        controller := some controller
        state := .encrypted } := by
  have attempted : connection.verify.attempt suite world.hub.accessory world.host body =
      ⟨.done, world.host, .ok (.verified VerifyStage.finishReply controller
        (SessionKeys.derive suite pending.sharedSecret.bytes))⟩ := by
    rw [waiting]
    exact VerifyStage.attempt_finish parsed opened
  simp only [step, Hub.handle, found, handle_of_open suite isOpen]
  rw [connection.handleVerify_of_verified suite fresh attempted]
  exact (Hub.find?_set (Hub.lt_of_find? found) _ i).trans (if_pos rfl)

theorem change_verify {i : Nat} {connection : Connection} (body : Bytes)
    (found : world.hub.find? i = some connection)
    (isOpen : connection.state.isClosed = false) :
    Change suite world (.request i .pairVerify body)
      (world.step suite (.request i .pairVerify body)).hub := by
  simp only [step, Hub.handle, found, handle_of_open suite isOpen, Connection.handleVerify]
  by_cases encrypted : connection.isEncrypted = true
  · rw [if_pos encrypted]
    refine .verifying found isOpen fun fresh => ?_
    rw [Connection.isEncrypted, fresh] at encrypted
    cases encrypted
  · rw [if_neg encrypted]
    have fresh : connection.session = none := by
      simpa [Connection.isEncrypted] using encrypted
    cases answered :
        (connection.verify.handle suite world.hub.accessory world.host body).answer with
    | respond reply =>
        exact .verifying found isOpen fun _ => VerifyStage.stage_handle suite connection.verify
          world.hub.accessory world.host body
    | verified reply controller keys =>
        -- Only the last of the effects answers like this.
        have effect := VerifyStage.effect_attempt suite connection.verify world.hub.accessory
          world.host body
        rw [VerifyStage.verified_of_handle answered, ← VerifyStage.stage_handle] at effect
        generalize (connection.verify.handle suite world.hub.accessory world.host body).stage =
          next at effect
        cases effect with
        | verified waiting parsed opened =>
            exact .verified found isOpen fresh waiting parsed opened

theorem serves_pairings_iff {i : Nat} {connection : Connection} (body : Bytes)
    (found : world.hub.find? i = some connection)
    (isOpen : connection.state.isClosed = false) :
    world.Serves suite i .pairings body ↔
      (Management.attempt world.accessory world.host connection.controllerId? body).answer.isOk
        = true := by
  rw [world.serves_iff_of_open suite found (by rw [handle_of_open suite isOpen]),
    Connection.handlePairings, Management.isRefusal_handle_iff]
  cases (Management.attempt world.accessory world.host connection.controllerId? body).answer
    <;> simp [Except.isOk, Except.toBool]

theorem change_pairings {i : Nat} {connection : Connection} (body : Bytes)
    (found : world.hub.find? i = some connection)
    (isOpen : connection.state.isClosed = false) :
    Change suite world (.request i .pairings body)
      (world.step suite (.request i .pairings body)).hub := by
  have effect := Management.effect_attempt world.accessory world.host
    connection.controllerId? body
  have served := world.serves_pairings_iff suite body found isOpen
  rw [← Management.accessory_handle] at effect
  simp only [step, Hub.handle, found, handle_of_open suite isOpen]
  obtain ⟨state, kept, closing⟩ :=
    connection.connection_handlePairings world.hub.accessory world.host body
  rw [kept]
  exact .managed found isOpen closing effect served

/-- A closed connection answers a request with an error and does nothing. -/
theorem change_request_closed {i : Nat} {connection : Connection} (endpoint : Endpoint)
    (body : Bytes) (found : world.hub.find? i = some connection)
    (isClosed : connection.state.isClosed = true) :
    Change suite world (.request i endpoint body)
      (world.step suite (.request i endpoint body)).hub := by
  have kept : (world.step suite (.request i endpoint body)).hub = world.hub := by
    simp only [step, Hub.handle, found]
    unfold Connection.handle
    cases state : connection.state with
    | closed reason => exact Hub.put_self found
    | plain => rw [state] at isClosed; cases isClosed
    | encrypted => rw [state] at isClosed; cases isClosed
  rw [kept]
  -- A number has one connection, and that is the closed one.
  refine .missed fun j _ _ same other there => ?_
  cases same
  rw [found] at there
  cases there
  exact isClosed

/-! ### Bytes -/

theorem change_encrypt (i : Nat) (text : Bytes) :
    Change suite world (.encrypt i text) (world.step suite (.encrypt i text)).hub := by
  cases found : world.hub.find? i with
  | none =>
      simp only [step, Hub.encrypt, found]
      exact .missed (by simp)
  | some connection =>
      simp only [step, Hub.encrypt, found]
      obtain ⟨session, kept, held⟩ := connection.encrypt_frame suite text
      rw [kept]
      exact .carried (by simp) found held (.inl rfl)

theorem change_decrypt (i : Nat) (data : Bytes) :
    Change suite world (.decrypt i data) (world.step suite (.decrypt i data)).hub := by
  cases found : world.hub.find? i with
  | none =>
      simp only [step, Hub.decrypt, found]
      exact .missed (by simp)
  | some connection =>
      simp only [step, Hub.decrypt, found]
      obtain ⟨session, state, kept, held, closing⟩ := connection.decrypt_frame suite data
      rw [kept]
      exact .carried (by simp) found held closing

/-- Everything that happens is one of the listed changes. -/
theorem change_step (event : Event) :
    Change suite world event (world.step suite event).hub := by
  cases event with
  | connect => exact .connected
  | drop i =>
      cases found : world.hub.find? i with
      | none =>
          simp only [step, Hub.drop, found]
          exact .missed (by simp)
      | some connection =>
          simp only [step, Hub.drop, found]
          exact .dropped found
  | close i =>
      cases found : world.hub.find? i with
      | none =>
          simp only [step, Hub.close, found]
          exact .missed (by simp)
      | some connection =>
          simp only [step, Hub.close, found]
          exact .closed found
  | request i endpoint body =>
      cases found : world.hub.find? i with
      | none =>
          simp only [step, Hub.handle, found]
          refine .missed fun j _ _ same connection there => ?_
          cases same
          rw [found] at there
          cases there
      | some connection =>
          cases isClosed : connection.state.isClosed with
          | true => exact world.change_request_closed suite endpoint body found isClosed
          | false =>
              cases endpoint with
              | pairSetup => exact world.change_setup suite body found isClosed
              | pairVerify => exact world.change_verify suite body found isClosed
              | pairings => exact world.change_pairings suite body found isClosed
  | encrypt i text => exact world.change_encrypt suite i text
  | decrypt i data => exact world.change_decrypt suite i data
  | machine host => exact .missed (by simp)

/-- No connection gives its number to another one. -/
theorem length_step (event : Event) :
    world.hub.connections.length ≤ (world.step suite event).hub.connections.length := by
  have change := world.change_step suite event
  generalize (world.step suite event).hub = after at change
  have put : ∀ i connection accessory,
      world.hub.connections.length ≤ (world.hub.put i connection accessory).connections.length :=
    fun i connection accessory => Nat.le_of_eq (Hub.length_set ..).symm
  cases change with
  | missed _ => exact Nat.le_refl _
  | connected => simp [Hub.connect]
  | dropped _ => simp
  | closed _ => simp
  | setup _ _ _ _ => exact put _ _ _
  | verifying _ _ _ => exact put _ _ _
  | verified _ _ _ _ _ _ => exact put _ _ _
  | managed _ _ _ _ _ => exact put _ _ _
  | carried _ _ _ _ => simp

end World

end HomePairing
