import HomePairing.Proofs.Requests.Verify
import HomePairing.Proofs.Runs.Change
import HomePairing.Proofs.Session.Openings

/-!
# The life of a connection

A connection starts in clear, is encrypted once a controller is verified, and ends closed.
`Consistent` says what goes with each of these states: who is verified, whether there is a
session, and whether it is broken.

A connection is called with requests, with bytes to encrypt or to decrypt, or to be closed.
`Effect` lists what a call can make of it, with what that rests on, and `effect_after` says
the list is complete. Everything else is read off from it: a call keeps a connection
consistent (`Effect.consistent`) and moves its state in one of few ways (`Effect.moves`).
The accessory is handed in with each request, whatever has become of it in the meantime, so
all this holds whatever happens on other connections.
-/

namespace HomePairing

/-! ## Sessions that decrypt stay whole -/

namespace Session

variable (suite : Suite)

/-- A session that has decrypted what it could is broken only if it was before. -/
theorem poisoned_of_decryptMany_ok {session : Session} {count : Nat} {text : Bytes}
    (decrypts : (session.decryptMany suite count).2 = .ok text) :
    (session.decryptMany suite count).1.poisoned = session.poisoned := by
  induction count generalizing session text with
  | zero => rfl
  | succ count ih =>
      obtain ⟨next, answer, first, receipt⟩ := exists_receipt suite session
      cases receipt with
      | broken _ | refused _ =>
          rw [decryptMany, first] at decrypts
          cases decrypts
      | waiting _ => rw [decryptMany, first]
      | opened _ _ _ =>
          rw [decryptMany_of_opened suite first] at decrypts ⊢
          cases rest : (decryptMany suite _ count).2 with
          | error e =>
              rw [rest] at decrypts
              cases decrypts
          | ok others => exact ih rest

theorem poisoned_encrypt (session : Session) (text : Bytes) :
    (session.encrypt suite text).1.poisoned = session.poisoned := by
  rw [encrypt_eq]

end Session

namespace Connection

/-! ## Calls -/

/-- Something that is asked of a connection. -/
inductive Call where
  /-- A request, with the accessory and the machine as they are then. -/
  | handle (accessory : Accessory) (host : Host) (endpoint : Endpoint) (body : Bytes)
  | encrypt (text : Bytes)
  | decrypt (data : Bytes)
  | close

/-- What a call makes of a connection. -/
def after (suite : Suite) (connection : Connection) : Call → Connection
  | .handle accessory host endpoint body =>
    (connection.handle suite accessory host endpoint body).connection
  | .encrypt text => (connection.encrypt suite text).1
  | .decrypt data => (connection.decrypt suite data).1
  | .close => connection.close

/-- What calls, one after another, make of a connection. -/
def run (suite : Suite) (connection : Connection) (calls : List Call) : Connection :=
  calls.foldl (after suite) connection

/-! ## States -/

/-- What goes with each state of a connection. -/
def Consistent (connection : Connection) : Prop :=
  match connection.state with
  | .plain => connection.session = none ∧ connection.controller = none
  | .encrypted =>
    (∃ session, connection.session = some session ∧ session.poisoned = false) ∧
      connection.controller.isSome = true
  | .closed .sessionFailure =>
    ∃ session, connection.session = some session ∧ session.poisoned = true
  -- The session is kept, for the reply that is still to be sent.
  | .closed .pairingRemoved =>
    ∃ session, connection.session = some session ∧ session.poisoned = false
  | .closed .requested => connection.session = none

theorem consistent_create : create.Consistent := ⟨rfl, rfl⟩

/-- How a call can move the state of a connection. -/
inductive Moves : Call → ConnectionState → ConnectionState → Prop
  | stays {call state} : Moves call state state
  | verified {accessory host body} :
      Moves (.handle accessory host .pairVerify body) .plain .encrypted
  | removed {accessory host body} :
      Moves (.handle accessory host .pairings body) .encrypted (.closed .pairingRemoved)
  | failed {data} : Moves (.decrypt data) .encrypted (.closed .sessionFailure)
  | closed {state} : Moves .close state (.closed .requested)

/-! ## What a call can do -/

variable (suite : Suite)

/-- What a call leaves behind of a connection. -/
inductive Effect (connection : Connection) : Call → Connection → Prop
  | unchanged {call} : Effect connection call connection
  | setup {accessory host body next} : connection.state.isClosed = false →
      Effect connection (.handle accessory host .pairSetup body) { connection with setup := next }
  | verifying {accessory host body next} : connection.state.isClosed = false →
      Effect connection (.handle accessory host .pairVerify body)
        { connection with verify := next }
  /-- A controller was verified, and the reply to that goes out in clear. -/
  | verified {accessory host body next controller keys} :
      connection.state.isClosed = false → connection.session = none →
      (connection.handle suite accessory host .pairVerify body).answer =
        .ok ⟨VerifyStage.finishReply, false, false⟩ →
      Effect connection (.handle accessory host .pairVerify body)
        { connection with
          verify := next
          session := some (Session.accessory keys)
          controller := some controller
          state := .encrypted }
  /-- The pairing of the controller went. -/
  | removed {accessory host body} :
      connection.state.isClosed = false → connection.controller.isSome = true →
      Effect connection (.handle accessory host .pairings body)
        { connection with state := .closed .pairingRemoved }
  | sent {text session} : connection.session = some session →
      Effect connection (.encrypt text)
        { connection with session := some (session.encrypt suite text).1 }
  | received {data session next} :
      connection.state.isClosed = false → connection.session = some session →
      next.poisoned = session.poisoned →
      Effect connection (.decrypt data) { connection with session := some next }
  /-- A frame was refused. -/
  | failed {data session next} :
      connection.state.isClosed = false → connection.session = some session →
      next.poisoned = true →
      Effect connection (.decrypt data)
        { connection with session := some next, state := .closed .sessionFailure }
  | closed : Effect connection .close connection.close

/-! ### Requests -/

/-- A closed connection answers with the reason, and that is all. -/
theorem handle_of_closed {connection : Connection} {reason : CloseReason}
    (isClosed : connection.state = .closed reason) (accessory : Accessory) (host : Host)
    (endpoint : Endpoint) (body : Bytes) :
    connection.handle suite accessory host endpoint body =
      { connection, accessory, host, answer := .error (.closed reason) } := by
  unfold handle
  rw [isClosed]

theorem decrypt_of_closed {connection : Connection} {reason : CloseReason}
    (isClosed : connection.state = .closed reason) (data : Bytes) :
    connection.decrypt suite data = (connection, .error (.closed reason)) := by
  unfold decrypt
  rw [isClosed]

/-- A reply is to be encrypted exactly if there was a session when the request came. -/
theorem encrypt_of_answer {connection : Connection} {accessory : Accessory} {host : Host}
    {endpoint : Endpoint} {body : Bytes} {reply : ConnectionReply}
    (answered : (connection.handle suite accessory host endpoint body).answer = .ok reply) :
    reply.encrypt = connection.session.isSome := by
  cases isClosed : connection.state.isClosed with
  | true =>
      cases state : connection.state with
      | plain | encrypted =>
          rw [state] at isClosed
          cases isClosed
      | closed reason =>
          rw [handle_of_closed suite state] at answered
          cases answered
  | false =>
      rw [World.handle_of_open suite isClosed] at answered
      cases endpoint with
      | pairSetup | pairings =>
          cases answered
          rfl
      | pairVerify =>
          cases answered
          simp only [handleVerify]
          by_cases encrypted : connection.isEncrypted = true
          · rw [if_pos encrypted]
            exact encrypted.symm
          · rw [if_neg encrypted]
            have clear : connection.session.isSome = false := Bool.eq_false_iff.mpr encrypted
            rw [clear]
            split <;> rfl

/-- Pair-Verify goes on, is refused, or verifies a controller. -/
theorem effect_pairVerify {connection : Connection}
    (isOpen : connection.state.isClosed = false) (accessory : Accessory) (host : Host)
    (body : Bytes) :
    Effect suite connection (.handle accessory host .pairVerify body)
      (connection.handle suite accessory host .pairVerify body).connection := by
  have handled := World.handle_of_open suite isOpen accessory host .pairVerify body
  by_cases encrypted : connection.isEncrypted = true
  · have refused : connection.handleVerify suite accessory host body =
        connection.refuseVerify accessory host body := if_pos encrypted
    rw [handled]
    simp only [refused]
    exact .unchanged
  · have clear : connection.session = none := by simpa [isEncrypted] using encrypted
    cases answered : (connection.verify.handle suite accessory host body).answer with
    | respond reply =>
        have responded : (connection.handleVerify suite accessory host body).connection =
            { connection with
              verify := (connection.verify.handle suite accessory host body).stage } := by
          simp only [handleVerify, if_neg encrypted, answered]
        rw [handled]
        simp only [responded]
        exact .verifying isOpen
    | verified reply controller keys =>
        have verified : connection.handleVerify suite accessory host body =
            { connection :=
                { connection with
                  verify := (connection.verify.handle suite accessory host body).stage
                  session := some (Session.accessory keys)
                  controller := some controller
                  state := .encrypted }
              accessory := accessory
              host := (connection.verify.handle suite accessory host body).host
              answer := ⟨reply, false, false⟩ } := by
          simp only [handleVerify, if_neg encrypted, answered]
        -- A controller is verified by the last request only, and that has one reply.
        have last : reply = VerifyStage.finishReply := by
          have effect := VerifyStage.effect_attempt suite connection.verify accessory host body
          rw [VerifyStage.verified_of_handle answered] at effect
          generalize (connection.verify.attempt suite accessory host body).stage = next at effect
          cases effect with
          | verified _ _ _ => rfl
        have replied : (connection.handle suite accessory host .pairVerify body).answer =
            .ok ⟨VerifyStage.finishReply, false, false⟩ := by
          rw [handled]
          simp only [verified, last]
        rw [handled]
        simp only [verified]
        exact .verified isOpen clear replied

theorem effect_pairings {connection : Connection}
    (isOpen : connection.state.isClosed = false) (accessory : Accessory) (host : Host)
    (body : Bytes) :
    Effect suite connection (.handle accessory host .pairings body)
      (connection.handle suite accessory host .pairings body).connection := by
  rw [World.handle_of_open suite isOpen]
  show Effect suite connection _ (connection.closeWhen (connection.isAmong _))
  generalize (Management.handle accessory host connection.controllerId? body).answer.removed =
    removed
  cases gone : connection.isAmong removed with
  | false => exact .unchanged
  | true =>
      obtain ⟨record, known, _⟩ := isAmong_iff.mp gone
      exact .removed isOpen (by rw [known]; rfl)

/-! ### Bytes -/

theorem effect_encrypt (connection : Connection) (text : Bytes) :
    Effect suite connection (.encrypt text) (connection.encrypt suite text).1 := by
  cases held : connection.session with
  | none =>
      have kept : (connection.encrypt suite text).1 = connection := by
        simp only [encrypt, held]
      rw [kept]
      exact .unchanged
  | some session =>
      have moved : (connection.encrypt suite text).1 =
          { connection with session := some (session.encrypt suite text).1 } := by
        simp only [encrypt, held]
      rw [moved]
      exact .sent held

/-- Bytes are decrypted, or a frame is refused and the connection closed. -/
theorem effect_decrypt {connection : Connection}
    (isOpen : connection.state.isClosed = false) (data : Bytes) :
    Effect suite connection (.decrypt data) (connection.decrypt suite data).1 := by
  have answering : ∀ reason, connection.state ≠ .closed reason := by
    intro reason isClosed
    rw [isClosed] at isOpen
    cases isOpen
  cases held : connection.session with
  | none =>
      have kept : (connection.decrypt suite data).1 = connection := by
        cases state : connection.state with
        | closed reason => exact absurd state (answering reason)
        | plain => simp only [decrypt, state, held]
        | encrypted => simp only [decrypt, state, held]
      rw [kept]
      exact .unchanged
  | some session =>
      rcases result : (session.feed data).decryptAll suite with ⟨next, e | text⟩
      · have broken := Session.poisoned_of_decryptMany suite (congrArg Prod.snd result)
        rw [show Session.decryptMany suite _ _ = (next, .error e) from result] at broken
        have moved : (connection.decrypt suite data).1 =
            { connection with session := some next, state := .closed .sessionFailure } := by
          cases state : connection.state with
          | closed reason => exact absurd state (answering reason)
          | plain => simp only [decrypt, state, held, result]
          | encrypted => simp only [decrypt, state, held, result]
        rw [moved]
        exact .failed isOpen held broken
      · have whole := Session.poisoned_of_decryptMany_ok suite (congrArg Prod.snd result)
        rw [show Session.decryptMany suite _ _ = (next, .ok text) from result] at whole
        have moved : (connection.decrypt suite data).1 =
            { connection with session := some next } := by
          cases state : connection.state with
          | closed reason => exact absurd state (answering reason)
          | plain => simp only [decrypt, state, held, result]
          | encrypted => simp only [decrypt, state, held, result]
        rw [moved]
        exact .received isOpen held whole

/-- Every call has one of these effects. -/
theorem effect_after (connection : Connection) (call : Call) :
    Effect suite connection call (connection.after suite call) := by
  cases isClosed : connection.state.isClosed with
  | true =>
      cases state : connection.state with
      | plain | encrypted =>
          rw [state] at isClosed
          cases isClosed
      | closed reason =>
          cases call with
          | handle accessory host endpoint body =>
              rw [after, handle_of_closed suite state]
              exact .unchanged
          | encrypt text => exact effect_encrypt suite connection text
          | decrypt data =>
              rw [after, decrypt_of_closed suite state]
              exact .unchanged
          | close => exact .closed
  | false =>
      cases call with
      | handle accessory host endpoint body =>
          cases endpoint with
          | pairSetup =>
              rw [after, World.handle_of_open suite isClosed]
              exact .setup isClosed
          | pairVerify => exact effect_pairVerify suite isClosed accessory host body
          | pairings => exact effect_pairings suite isClosed accessory host body
      | encrypt text => exact effect_encrypt suite connection text
      | decrypt data => exact effect_decrypt suite isClosed data
      | close => exact .closed

/-! ## What a call keeps -/

variable {suite}

/-- An open connection with a session is the encrypted one, and its session is whole. -/
theorem Consistent.encrypted_of_session {connection : Connection}
    (consistent : connection.Consistent) (isOpen : connection.state.isClosed = false)
    {session : Session} (held : connection.session = some session) :
    connection.state = .encrypted ∧ session.poisoned = false ∧
      connection.controller.isSome = true := by
  unfold Consistent at consistent
  cases state : connection.state with
  | plain =>
      rw [state, held] at consistent
      cases consistent.1
  | encrypted =>
      rw [state] at consistent
      obtain ⟨⟨other, same, whole⟩, known⟩ := consistent
      rw [held] at same
      cases same
      exact ⟨rfl, whole, known⟩
  | closed reason =>
      rw [state] at isOpen
      cases isOpen

/-- An open connection without a session is in clear, and nobody is verified. -/
theorem Consistent.plain_of_clear {connection : Connection}
    (consistent : connection.Consistent) (isOpen : connection.state.isClosed = false)
    (clear : connection.session = none) :
    connection.state = .plain ∧ connection.controller = none := by
  unfold Consistent at consistent
  cases state : connection.state with
  | plain =>
      rw [state] at consistent
      exact ⟨rfl, consistent.2⟩
  | encrypted =>
      rw [state, clear] at consistent
      obtain ⟨⟨_, held, _⟩, _⟩ := consistent
      cases held
  | closed reason =>
      rw [state] at isOpen
      cases isOpen

/-- A verified controller is one on an encrypted connection. -/
theorem Consistent.session_of_controller {connection : Connection}
    (consistent : connection.Consistent) (isOpen : connection.state.isClosed = false)
    (known : connection.controller.isSome = true) :
    ∃ session, connection.session = some session := by
  cases held : connection.session with
  | none =>
      obtain ⟨_, nobody⟩ := consistent.plain_of_clear isOpen held
      rw [nobody] at known
      cases known
  | some session => exact ⟨session, rfl⟩

/-- Another session that is broken exactly if the old one is goes with the same states. -/
theorem Consistent.withSession {connection : Connection} (consistent : connection.Consistent)
    {session next : Session} (held : connection.session = some session)
    (alike : next.poisoned = session.poisoned) :
    { connection with session := some next }.Consistent := by
  obtain ⟨setup, verify, session', controller, state⟩ := connection
  simp only at held
  subst held
  cases state with
  | plain => cases consistent.1
  | encrypted =>
      obtain ⟨⟨other, same, whole⟩, known⟩ := consistent
      cases same
      exact ⟨⟨next, rfl, alike.trans whole⟩, known⟩
  | closed reason =>
      cases reason with
      | sessionFailure | pairingRemoved =>
          obtain ⟨other, same, condition⟩ := consistent
          cases same
          exact ⟨next, rfl, alike.trans condition⟩
      | requested => cases consistent

/-- Whatever is asked of it, a connection stays consistent. -/
theorem Effect.consistent {connection next : Connection} {call : Call}
    (effect : Effect suite connection call next) (consistent : connection.Consistent) :
    next.Consistent := by
  cases effect with
  | unchanged => exact consistent
  | setup _ => exact consistent
  | verifying _ => exact consistent
  | verified _ _ _ => exact ⟨⟨_, rfl, rfl⟩, rfl⟩
  | removed isOpen known =>
      obtain ⟨session, held⟩ := consistent.session_of_controller isOpen known
      exact ⟨session, held, (consistent.encrypted_of_session isOpen held).2.1⟩
  | sent held => exact consistent.withSession held (Session.poisoned_encrypt suite _ _)
  | received _ held whole => exact consistent.withSession held whole
  | failed _ _ broken => exact ⟨_, rfl, broken⟩
  | closed => rfl

theorem Effect.moves {connection next : Connection} {call : Call}
    (effect : Effect suite connection call next) (consistent : connection.Consistent) :
    Moves call connection.state next.state := by
  cases effect with
  | unchanged => exact .stays
  | setup _ => exact .stays
  | verifying _ => exact .stays
  | verified isOpen clear _ =>
      rw [(consistent.plain_of_clear isOpen clear).1]
      exact .verified
  | removed isOpen known =>
      obtain ⟨session, held⟩ := consistent.session_of_controller isOpen known
      rw [(consistent.encrypted_of_session isOpen held).1]
      exact .removed
  | sent _ => exact .stays
  | received _ _ _ => exact .stays
  | failed isOpen held _ =>
      rw [(consistent.encrypted_of_session isOpen held).1]
      exact .failed
  | closed => exact .closed

/-! ## Whole lives -/

variable (suite)

@[simp] theorem run_concat (connection : Connection) (calls : List Call) (call : Call) :
    connection.run suite (calls ++ [call]) = (connection.run suite calls).after suite call := by
  rw [run, List.foldl_append]
  rfl

theorem consistent_run (calls : List Call) {connection : Connection}
    (consistent : connection.Consistent) : (connection.run suite calls).Consistent := by
  induction calls generalizing connection with
  | nil => exact consistent
  | cons call calls ih => exact ih ((effect_after suite connection call).consistent consistent)

variable {suite}

/-- No state leads back to the clear one. -/
theorem Moves.ne_plain {call : Call} {before after : ConnectionState}
    (moves : Moves call before after) (encrypted : before ≠ .plain) : after ≠ .plain := by
  cases moves with
  | stays => exact encrypted
  | verified | removed | failed | closed => simp

theorem ne_plain_run (calls : List Call) {connection : Connection}
    (consistent : connection.Consistent) (encrypted : connection.state ≠ .plain) :
    (connection.run suite calls).state ≠ .plain := by
  induction calls generalizing connection with
  | nil => exact encrypted
  | cons call calls ih =>
      have effect := effect_after suite connection call
      exact ih (effect.consistent consistent) ((effect.moves consistent).ne_plain encrypted)

/-- Replies come from open connections only. -/
theorem isOpen_of_answer {connection : Connection} {accessory : Accessory} {host : Host}
    {endpoint : Endpoint} {body : Bytes} {reply : ConnectionReply}
    (answered : (connection.handle suite accessory host endpoint body).answer = .ok reply) :
    connection.state.isClosed = false := by
  cases state : connection.state with
  | plain | encrypted => rfl
  | closed reason =>
      rw [handle_of_closed suite state] at answered
      cases answered

/-- A connection that has left the clear state replies through its session. -/
theorem Consistent.encrypt_of_answer {connection : Connection}
    (consistent : connection.Consistent) (encrypted : connection.state ≠ .plain)
    {accessory : Accessory} {host : Host} {endpoint : Endpoint} {body : Bytes}
    {reply : ConnectionReply}
    (answered : (connection.handle suite accessory host endpoint body).answer = .ok reply) :
    reply.encrypt = true := by
  rw [Connection.encrypt_of_answer suite answered]
  cases held : connection.session with
  | none =>
      exact absurd (consistent.plain_of_clear (isOpen_of_answer answered) held).1 encrypted
  | some session => rfl

/-- The call that verifies a controller is a request to Pair-Verify, and its reply goes out
in clear. -/
theorem Effect.verifies {connection next : Connection} {call : Call}
    (effect : Effect suite connection call next) (clear : connection.state = .plain)
    (encrypted : next.state = .encrypted) :
    ∃ accessory host body, call = .handle accessory host .pairVerify body ∧
      (connection.handle suite accessory host .pairVerify body).answer =
        .ok ⟨VerifyStage.finishReply, false, false⟩ := by
  cases effect with
  | verified _ _ answered => exact ⟨_, _, _, rfl, answered⟩
  | unchanged | setup _ | verifying _ | sent _ | received _ _ _ =>
      simp [clear] at encrypted
  | removed _ _ | failed _ _ _ | closed => cases encrypted

/-- What a controller's own removal leaves is the session, for the reply. -/
theorem Effect.session_of_removed {connection next : Connection} {call : Call}
    (effect : Effect suite connection call next) (isOpen : connection.state.isClosed = false)
    (removed : next.state = .closed .pairingRemoved) : next.session = connection.session := by
  cases effect with
  | removed _ _ | unchanged | setup _ | verifying _ => rfl
  | sent _ | received _ _ _ =>
      have state : connection.state = .closed .pairingRemoved := removed
      rw [state] at isOpen
      cases isOpen
  | verified _ _ _ | failed _ _ _ | closed => cases removed

/-- Whatever a new connection has been asked for, and whatever comes next: its state goes with
its session and its controller, and moves on from clear to encrypted to closed, or to closed
at once. A pairing that went leaves the session for the last reply. A closed connection
answers requests and bytes with the reason, and neither it nor the accessory changes. A reply
is to be encrypted exactly if there was a session when the request came; so the reply that
verifies a controller goes out in clear, and every later one encrypted. -/
theorem lifecycle (suite : Suite) (calls : List Call) (call : Call) :
    let before := create.run suite calls
    let next := before.after suite call
    before.Consistent ∧ next.Consistent ∧ Moves call before.state next.state ∧
      (before.state = .encrypted → next.state = .closed .pairingRemoved →
        next.session = before.session) ∧
      (∀ reason, before.state = .closed reason →
        (∀ accessory host endpoint body,
          before.handle suite accessory host endpoint body =
            { connection := before, accessory, host, answer := .error (.closed reason) }) ∧
        ∀ data, before.decrypt suite data = (before, .error (.closed reason))) ∧
      (∀ accessory host endpoint body reply,
        (before.handle suite accessory host endpoint body).answer = .ok reply →
          reply.encrypt = before.session.isSome) ∧
      (before.state = .plain → next.state = .encrypted →
        (∃ accessory host body, call = .handle accessory host .pairVerify body ∧
          (before.handle suite accessory host .pairVerify body).answer =
            .ok ⟨VerifyStage.finishReply, false, false⟩) ∧
        ∀ later accessory host endpoint body reply,
          ((next.run suite later).handle suite accessory host endpoint body).answer =
            .ok reply → reply.encrypt = true) := by
  intro before next
  have consistent : before.Consistent := consistent_run suite calls consistent_create
  have effect : Effect suite before call next := effect_after suite before call
  refine ⟨consistent, effect.consistent consistent, effect.moves consistent, ?_, ?_, ?_, ?_⟩
  · intro encrypted removed
    exact effect.session_of_removed (by rw [encrypted]; rfl) removed
  · intro reason isClosed
    exact ⟨handle_of_closed suite isClosed, decrypt_of_closed suite isClosed⟩
  · intro accessory host endpoint body reply answered
    exact encrypt_of_answer suite answered
  · intro clear encrypted
    refine ⟨effect.verifies clear encrypted, ?_⟩
    intro later accessory host endpoint body reply answered
    have left : next.state ≠ .plain := by rw [encrypted]; simp
    exact (consistent_run suite later (effect.consistent consistent)).encrypt_of_answer
      (ne_plain_run later (effect.consistent consistent) left) answered

/-- An event of a run, as a call to the connection that it is about. -/
def Call.ofEvent (accessory : Accessory) (host : Host) : Event → Call
  | .request _ endpoint body => .handle accessory host endpoint body
  | .encrypt _ text => .encrypt text
  | .decrypt _ data => .decrypt data
  | .connect | .drop _ | .close _ | .machine _ => .close

/-- A lamp with one controller, which verifies, asks for something that nobody can read, and
takes itself out. -/
theorem lifecycle_selfRemoval :
    let lamp := ((World.create .lamp .quiet).run .transparent
      (.connect :: Event.pairing 0 "CC:01" Block.zero)).accessory
    let calls := (Event.verification 0 "CC:01").map (Call.ofEvent lamp .quiet)
    let removal := Call.ofEvent lamp .quiet (Event.management 0 (.remove "CC:01"))
    let started := create.run Suite.transparent calls.dropLast
    let verified := started.after Suite.transparent (calls.getLastD .close)
    let removed := verified.after Suite.transparent removal
    (started.state = .plain ∧ verified.state = .encrypted ∧
      removed.state = .closed .pairingRemoved) ∧
      (∃ reply, (verified.handle Suite.transparent lamp .quiet .pairings []).answer.toOption =
        some reply ∧ reply.encrypt = true) ∧
      removed.session = verified.session ∧ removed.Consistent ∧
      removed.decrypt Suite.transparent [1] = (removed, .error (.closed .pairingRemoved)) := by
  intro lamp calls removal started verified removed
  have clear : started.state = .plain := by decide +kernel
  have encrypted : verified.state = .encrypted := by decide +kernel
  have gone : removed.state = .closed .pairingRemoved := by decide +kernel
  obtain ⟨_, _, _, _, _, _, verifies⟩ :=
    lifecycle Suite.transparent calls.dropLast (calls.getLastD .close)
  obtain ⟨_, consistent, _, kept, _⟩ := lifecycle Suite.transparent
    (calls.dropLast ++ [calls.getLastD .close]) removal
  obtain ⟨_, _, _, _, closed, _⟩ := lifecycle Suite.transparent
    (calls.dropLast ++ [calls.getLastD .close] ++ [removal]) .close
  rw [run_concat] at consistent kept
  rw [run_concat, run_concat] at closed
  obtain ⟨reply, answered⟩ : ∃ reply,
      (verified.handle Suite.transparent lamp .quiet .pairings []).answer.toOption =
        some reply :=
    ⟨⟨Pairing.errorReply 2 ErrorCode.unknown, true, false⟩, by decide +kernel⟩
  have sealed : reply.encrypt = true := by
    cases reached : (verified.handle Suite.transparent lamp .quiet .pairings []).answer with
    | error cause =>
      rw [reached] at answered
      cases answered
    | ok given =>
      rw [reached] at answered
      cases answered
      exact (verifies clear encrypted).2 [] lamp .quiet .pairings [] _ reached
  exact ⟨⟨clear, encrypted, gone⟩, ⟨reply, answered, sealed⟩, kept encrypted gone, consistent,
    (closed _ gone).2 [1]⟩

end Connection

end HomePairing
