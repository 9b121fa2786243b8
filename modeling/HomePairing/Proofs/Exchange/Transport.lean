import HomePairing.Proofs.Exchange.Verified
import HomePairing.Proofs.Session.Alignment

/-!
# Requests through the session

Once a controller is verified, its requests and the replies to them go through the session. That
makes no difference to what is asked and answered. A `Line` is a controller's end of the session
with everything it talks to; it mirrors a dialogue in clear (`Line.Mirrors`) if that has the same
accessory at the other end, in the same state. Whatever is asked over the line is answered as in
clear and leaves it a mirror (`Line.Mirrors.carries`), and so does a whole conversation
(`Line.transparent`).

An open connection keeps its session in step with the controller's. It is closed by a request that
takes out its own pairing, and by no other (`Dialogue.state_ask`); the reply to that one still
gets through, as the session is kept for it.
-/

namespace HomePairing

/-! ## Requests do not look into the session -/

namespace Connection

/-- The connection with another session. -/
def withSession (connection : Connection) (session : Session) : Connection :=
  { connection with session := some session }

variable (suite : Suite) {connection : Connection}

/-- Of the session a request sees no more than that there is one. -/
theorem handle_withSession (encrypted : connection.session.isSome = true) (session : Session)
    (accessory : Accessory) (host : Host) (endpoint : Endpoint) (body : Bytes) :
    (connection.withSession session).handle suite accessory host endpoint body =
      let outcome := connection.handle suite accessory host endpoint body
      { outcome with connection := outcome.connection.withSession session } := by
  have same : (connection.withSession session).isEncrypted = connection.isEncrypted :=
    encrypted.symm
  cases isClosed : connection.state with
  | closed reason =>
      have alsoClosed : (connection.withSession session).state = .closed reason := isClosed
      rw [handle_of_closed suite alsoClosed, handle_of_closed suite isClosed]
  | plain | encrypted =>
      have isOpen : connection.state.isClosed = false := by rw [isClosed]; rfl
      have alsoOpen : (connection.withSession session).state.isClosed = false := isOpen
      rw [World.handle_of_open suite isOpen, World.handle_of_open suite alsoOpen]
      cases endpoint with
      | pairSetup =>
          simp only [handleSetup, same]
          rfl
      | pairVerify =>
          have again : connection.isEncrypted = true := encrypted
          simp only [handleVerify, same, again, if_true]
          rfl
      | pairings =>
          have closing : ∀ gone, (connection.withSession session).closeWhen gone =
              (connection.closeWhen gone).withSession session := by
            intro gone
            cases gone <;> rfl
          simp only [handlePairings, same, closing]
          rfl

theorem encrypt_withSession (connection : Connection) {session after : Session}
    {text wire : Bytes} (sends : session.encrypt suite text = (after, .ok wire)) :
    (connection.withSession session).encrypt suite text =
      (connection.withSession after, .ok wire) := by
  simp only [encrypt, withSession, sends]
  rfl

theorem decrypt_withSession {session after : Session} {data text : Bytes}
    (isOpen : connection.state.isClosed = false)
    (reads : (session.feed data).decryptAll suite = (after, .ok text)) :
    (connection.withSession session).decrypt suite data =
      (connection.withSession after, .ok text) := by
  cases state : connection.state with
  | closed reason =>
      rw [state] at isOpen
      cases isOpen
  | plain | encrypted => simp only [decrypt, withSession, state, reads]

end Connection

namespace Dialogue

/-- The dialogue with another session at the connection's end. -/
def withSession (d : Dialogue) (session : Session) : Dialogue :=
  { d with connection := d.connection.withSession session }

variable (suite : Suite) {d : Dialogue}

theorem withSession_eq_self {session : Session} (held : d.connection.session = some session) :
    d.withSession session = d := by
  obtain ⟨controller, ⟨setup, verify, own, known, state⟩, accessory, host⟩ := d
  cases held
  rfl

theorem ask_withSession (encrypted : d.connection.session.isSome = true) (session : Session)
    (endpoint : Endpoint) (body : Bytes) :
    (d.withSession session).ask suite endpoint body =
      ((d.ask suite endpoint body).1.withSession session, (d.ask suite endpoint body).2) := by
  simp only [ask, withSession, Connection.handle_withSession suite encrypted]
  cases (d.connection.handle suite d.accessory d.host endpoint body).answer <;> rfl

/-- A session that is there stays as it is. -/
theorem session_ask {session : Session} (held : d.connection.session = some session)
    (endpoint : Endpoint) (body : Bytes) :
    (d.ask suite endpoint body).1.connection.session = some session := by
  have encrypted : d.connection.session.isSome = true := by rw [held]; rfl
  have same := ask_withSession suite encrypted session endpoint body
  rw [withSession_eq_self held] at same
  rw [same]
  rfl

/-- Over an open connection everything is answered. -/
theorem ask_of_open (isOpen : d.connection.state.isClosed = false)
    (endpoint : Endpoint) (body : Bytes) :
    ∃ connection accessory host reply,
      d.connection.handle suite d.accessory d.host endpoint body =
          ⟨connection, accessory, host, .ok reply⟩ ∧
        d.ask suite endpoint body = ({ d with connection, accessory, host }, .ok reply.body) := by
  have handled := World.handle_of_open suite isOpen d.accessory d.host endpoint body
  refine ⟨_, _, _, _, handled, ?_⟩
  simp only [ask, handled]

end Dialogue

/-! ## One request after the other -/

namespace Session

variable {suite : Suite}

theorem receive_of_decrypts {session after : Session} {wire text : Bytes} (host : Host)
    (decrypts : (session.feed wire).decryptAll suite = (after, .ok text)) :
    session.receive suite host wire = (after, host, .ok text) := by
  simp only [receive, decrypts, warnings, List.append_nil]
  rfl

theorem reply_of_encrypts {connection after : Connection} {text wire : Bytes} {closing : Bool}
    (encrypts : connection.encrypt suite text = (after, .ok wire)) :
    reply suite connection ⟨text, true, closing⟩ = (after, .ok wire) := by
  simp only [reply, if_true, encrypts]
  rfl

/-- A request of which every step goes through. -/
theorem request_of_steps {session later last : Session}
    {connection received handled after : Connection} {accessory next : Accessory}
    {host answered : Host} {endpoint : Endpoint} {body wire text back reply : Bytes}
    {answer : ConnectionReply}
    (sends : session.encrypt suite body = (later, .ok wire))
    (arrives : connection.decrypt suite wire = (received, .ok text))
    (reaches : received.handle suite accessory host endpoint text =
      ⟨handled, next, answered, .ok answer⟩)
    (leaves : Session.reply suite handled answer = (after, .ok back))
    (reads : later.receive suite answered back = (last, answered, .ok reply)) :
    session.request suite connection accessory host endpoint body =
      { session := last, connection := after, accessory := next, host := answered,
        answer := .ok reply } := by
  simp only [request, sends, arrives, Connection.warnings, List.append_nil, reaches, leaves,
    reads]

end Session

/-! ## A line -/

/-- A controller's end of the session, and all that it talks to. -/
structure Line where
  session : Session
  dialogue : Dialogue

namespace Line

/-- Send a request through the session. -/
def ask (suite : Suite) (line : Line) (endpoint : Endpoint) (body : Bytes) :
    Line × Except ServiceError Bytes :=
  let d := line.dialogue
  let outcome := line.session.request suite d.connection d.accessory d.host endpoint body
  ({ session := outcome.session
     dialogue :=
      { d with
        connection := outcome.connection
        accessory := outcome.accessory
        host := outcome.host } }, outcome.answer)

variable {suite : Suite} {session far : Session} {d : Dialogue} {endpoint : Endpoint}
  {body : Bytes}

/-- Between two ends in step a request comes to the same as in clear. Both ends go on by the
frames of the request and of the reply. -/
theorem ask_of_open (seals : suite.Seals) (aligned : session.Aligned far)
    (encrypted : d.connection.session.isSome = true)
    (isOpen : d.connection.state.isClosed = false)
    (asked : session.outboundCounter + (Session.chunks body).length ≤ Session.counterEnd)
    (answered : ∀ reply, (d.ask suite endpoint body).2 = .ok reply →
      far.outboundCounter + (Session.chunks reply).length ≤ Session.counterEnd) :
    ∃ reply, (d.ask suite endpoint body).2 = .ok reply ∧
      ask suite ⟨session, d.withSession far⟩ endpoint body =
        (⟨(session.sent body).received reply,
          (d.ask suite endpoint body).1.withSession ((far.received body).sent reply)⟩,
          .ok reply) := by
  obtain ⟨connection, accessory, host, ⟨reply, sealed, closing⟩, handled, direct⟩ :=
    Dialogue.ask_of_open suite isOpen endpoint body
  -- The request gets through.
  obtain ⟨wire, sends, reads⟩ :=
    aligned.followed.transfer seals aligned.follows.healthy asked
  have arrives := Connection.decrypt_withSession suite isOpen reads
  have reached := Connection.handle_withSession suite encrypted (far.received body)
    d.accessory d.host endpoint body
  rw [handled] at reached
  -- And so does the reply, which is encrypted, as there is a session.
  have through : sealed = true :=
    (Connection.encrypt_of_answer suite (congrArg ConnectionOutcome.answer handled)).trans
      encrypted
  subst through
  have there : (far.received body).Aligned (session.sent body) := aligned.symm.transferred body
  obtain ⟨back, sendsBack, hears⟩ := there.followed.transfer seals there.follows.healthy
    (answered reply (congrArg Prod.snd direct))
  have leaves := Connection.encrypt_withSession suite connection sendsBack
  have carried :=
    Session.request_of_steps sends arrives reached (Session.reply_of_encrypts leaves)
      (Session.receive_of_decrypts host hears)
  refine ⟨reply, congrArg Prod.snd direct, ?_⟩
  rw [direct]
  simp only [ask, Dialogue.withSession, carried]

/-- Over a closed connection nothing comes of a request, but that the controller has sent it. -/
theorem ask_of_closed (suite : Suite) (far : Session) (endpoint : Endpoint)
    {reason : CloseReason} (healthy : session.poisoned = false)
    (isClosed : d.connection.state = .closed reason)
    (asked : session.outboundCounter + (Session.chunks body).length ≤ Session.counterEnd) :
    ask suite ⟨session, d.withSession far⟩ endpoint body =
      (⟨session.sent body, d.withSession far⟩, .error (.connection (.closed reason))) := by
  have sends := Session.encrypt_of_numbered suite healthy asked
  have stays : (d.connection.withSession far).state = .closed reason := isClosed
  simp only [ask, Session.request, sends, Dialogue.withSession,
    Connection.decrypt_of_closed suite stays, Connection.warnings, List.append_nil]
  rfl

end Line

/-! ## Losing one's own pairing -/

namespace Dialogue

/-- The request takes out the pairing of the controller that the connection is verified for.
What that means for the records is said by `removesOwn_iff`. -/
def RemovesOwn (d : Dialogue) (endpoint : Endpoint) (body : Bytes) : Prop :=
  endpoint = .pairings ∧ d.connection.isAmong
    (Management.handle d.accessory d.host d.connection.controllerId? body).answer.removed = true

variable (suite : Suite) {d : Dialogue}

/-- An open connection is closed by such a request, and by no other. -/
theorem state_ask (isOpen : d.connection.state.isClosed = false) (endpoint : Endpoint)
    (body : Bytes) :
    let after := (d.ask suite endpoint body).1
    d.RemovesOwn endpoint body ∧ after.connection.state = .closed .pairingRemoved ∨
      ¬ d.RemovesOwn endpoint body ∧ after.connection.state.isClosed = false := by
  intro after
  have handled : after.connection =
      (d.connection.handle suite d.accessory d.host endpoint body).connection := by
    obtain ⟨_, _, _, _, handled, direct⟩ := ask_of_open suite isOpen endpoint body
    simp only [after, handled, direct]
  rw [handled]
  cases endpoint with
  | pairSetup =>
      rw [World.handle_of_open suite isOpen]
      exact .inr ⟨nofun, isOpen⟩
  | pairVerify =>
      have effect := Connection.effect_pairVerify suite isOpen d.accessory d.host body
      generalize (d.connection.handle suite d.accessory d.host .pairVerify body).connection =
        connection at effect
      refine .inr ⟨nofun, ?_⟩
      cases effect with
      | unchanged => exact isOpen
      | verifying _ => exact isOpen
      | verified _ _ _ => rfl
  | pairings =>
      rw [World.handle_of_open suite isOpen]
      simp only [RemovesOwn, true_and, Connection.handlePairings, Connection.closeWhen]
      cases d.connection.isAmong (Management.handle d.accessory d.host
          d.connection.controllerId? body).answer.removed with
      | true => exact .inl ⟨rfl, rfl⟩
      | false => exact .inr ⟨Bool.false_ne_true, isOpen⟩

/-- With every record under its own identifier, the request is one that takes out the record of
the connection's controller. -/
theorem removesOwn_iff (filed : d.accessory.registry.WellFiled) {id : String}
    (known : d.connection.controllerId? = some id) (isOpen : d.connection.state.isClosed = false)
    (body : Bytes) :
    d.RemovesOwn .pairings body ↔ (d.accessory.registry.find? id).isSome = true ∧
      (d.ask suite .pairings body).1.accessory.registry.find? id = none := by
  have after : (d.ask suite .pairings body).1.accessory = (Management.handle d.accessory d.host
      d.connection.controllerId? body).accessory := by
    rw [ask, World.handle_of_open suite isOpen]
    rfl
  rw [after, ← Management.mem_removed_iff _ _ _ _ filed, RemovesOwn,
    Connection.isAmong_iff_mem known]
  simp

end Dialogue

/-! ## Conversations -/

/-- Requests, one after another, and their answers. -/
def converse {Talk : Type}
    (ask : Talk → Endpoint → Bytes → Talk × Except ServiceError Bytes) (talk : Talk) :
    List (Endpoint × Bytes) → Talk × List (Except ServiceError Bytes)
  | [] => (talk, [])
  | (endpoint, body) :: rest =>
    let step := ask talk endpoint body
    let later := converse ask step.1 rest
    (later.1, step.2 :: later.2)

/-- The replies among the answers. -/
def replies (answers : List (Except ServiceError Bytes)) : List Bytes :=
  answers.filterMap Except.toOption

section

variable {Talk : Type} {ask : Talk → Endpoint → Bytes → Talk × Except ServiceError Bytes}

theorem converse_append (talk : Talk) (first second : List (Endpoint × Bytes)) :
    converse ask talk (first ++ second) =
      ((converse ask (converse ask talk first).1 second).1,
        (converse ask talk first).2 ++ (converse ask (converse ask talk first).1 second).2) := by
  induction first generalizing talk with
  | nil => rfl
  | cons request rest ih =>
      obtain ⟨endpoint, body⟩ := request
      rw [List.cons_append, converse, ih]
      rfl

theorem converse_concat (talk : Talk) (requests : List (Endpoint × Bytes)) (endpoint : Endpoint)
    (body : Bytes) :
    converse ask talk (requests ++ [(endpoint, body)]) =
      ((ask (converse ask talk requests).1 endpoint body).1,
        (converse ask talk requests).2 ++ [(ask (converse ask talk requests).1 endpoint body).2]) :=
  converse_append talk requests [(endpoint, body)]

theorem replies_append (first second : List (Except ServiceError Bytes)) :
    replies (first ++ second) = replies first ++ replies second :=
  List.filterMap_append

end

/-- One of the requests takes out the connection's own pairing, when its turn comes. -/
def Dialogue.LosesPairing (suite : Suite) (d : Dialogue) (requests : List (Endpoint × Bytes)) :
    Prop :=
  ∃ done endpoint body, done ++ [(endpoint, body)] <+: requests ∧
    (converse (ask suite) d done).1.RemovesOwn endpoint body

/-- A connection that was open is closed after some requests exactly if it has lost its pairing
by one of them. -/
theorem Dialogue.isClosed_converse_iff {suite : Suite} {d : Dialogue}
    (isOpen : d.connection.state.isClosed = false) (requests : List (Endpoint × Bytes)) :
    (converse (ask suite) d requests).1.connection.state.isClosed = true ↔
      d.LosesPairing suite requests := by
  induction requests using List.reverseRecOn with
  | nil =>
      refine iff_of_false (by rw [converse, isOpen]; exact Bool.false_ne_true) ?_
      rintro ⟨done, endpoint, body, part, _⟩
      exact List.append_ne_nil_of_right_ne_nil done (List.cons_ne_nil _ _)
        (List.prefix_nil.mp part)
  | append_singleton requests request ih =>
      obtain ⟨endpoint, body⟩ := request
      have parts : d.LosesPairing suite (requests ++ [(endpoint, body)]) ↔
          d.LosesPairing suite requests ∨
            (converse (ask suite) d requests).1.RemovesOwn endpoint body := by
        constructor
        · rintro ⟨done, asked, said, part, removes⟩
          rcases List.prefix_concat_iff.mp part with last | earlier
          · obtain ⟨rfl, same⟩ := List.append_inj' last rfl
            cases same
            exact .inr removes
          · exact .inl ⟨done, asked, said, earlier, removes⟩
        · rintro (⟨done, asked, said, part, removes⟩ | removes)
          · exact ⟨done, asked, said, part.trans (List.prefix_append _ _), removes⟩
          · exact ⟨requests, endpoint, body, List.prefix_refl _, removes⟩
      rw [parts, ← ih, converse_concat]
      cases isClosed : (converse (ask suite) d requests).1.connection.state with
      | closed reason =>
          rw [ask_of_closed suite isClosed, isClosed]
          exact iff_of_true rfl (.inl rfl)
      | plain | encrypted =>
          have still : (converse (ask suite) d requests).1.connection.state.isClosed = false := by
            rw [isClosed]
            rfl
          rw [← isClosed, still]
          rcases state_ask suite still endpoint body with
            ⟨removes, gone⟩ | ⟨keeps, after⟩
          · exact iff_of_true (by rw [gone]; rfl) (.inr removes)
          · refine iff_of_false (by rw [after]; exact Bool.false_ne_true) ?_
            rintro (impossible | removes)
            · cases impossible
            · exact keeps removes

namespace Line

variable {suite : Suite} {line : Line} {d : Dialogue}

/-- The two ends of the line are in step. -/
def InStep (line : Line) : Prop :=
  ∃ far, line.dialogue.connection.session = some far ∧ line.session.Aligned far

/-- The line is where the dialogue has come to in clear. Nothing but its own pairing closes
the connection, and until then the two ends are in step. -/
structure Mirrors (line : Line) (d : Dialogue) : Prop where
  encrypted : d.connection.session.isSome = true
  healthy : line.session.poisoned = false
  same : ∃ far, line.dialogue = d.withSession far ∧
    (d.connection.state.isClosed = false → line.session.Aligned far)
  removed : d.connection.state.isClosed = true → d.connection.state = .closed .pairingRemoved

/-- What one request makes of a line: it says the same as in clear, and the frames are counted at
both ends. -/
structure Carries (suite : Suite) (line : Line) (d : Dialogue) (endpoint : Endpoint)
    (body : Bytes) : Prop where
  answer : (line.ask suite endpoint body).2 = (d.ask suite endpoint body).2
  mirrors : (line.ask suite endpoint body).1.Mirrors (d.ask suite endpoint body).1
  asked : (line.ask suite endpoint body).1.session.outboundCounter =
    line.session.outboundCounter + (Session.chunks body).length
  answered : (line.ask suite endpoint body).1.session.inboundCounter =
    line.session.inboundCounter +
      Session.frameCount (replies [(d.ask suite endpoint body).2])
  inStep : d.connection.state.isClosed = false → (line.ask suite endpoint body).1.InStep

/-- The induction over a conversation rests on this: with numbers for the frames, a line that
mirrors a dialogue carries a request and its reply, and mirrors the dialogue after that. -/
theorem Mirrors.carries (seals : suite.Seals) (mirrors : line.Mirrors d) (endpoint : Endpoint)
    (body : Bytes)
    (asked : line.session.outboundCounter + (Session.chunks body).length ≤ Session.counterEnd)
    (answered : line.session.inboundCounter +
      Session.frameCount (replies [(d.ask suite endpoint body).2]) ≤ Session.counterEnd) :
    Carries suite line d endpoint body := by
  obtain ⟨session, dialogue⟩ := line
  obtain ⟨far, rfl, alike⟩ := mirrors.same
  obtain ⟨held, there⟩ := Option.isSome_iff_exists.mp mirrors.encrypted
  have kept : (d.ask suite endpoint body).1.connection.session.isSome = true := by
    rw [Dialogue.session_ask suite there]
    rfl
  cases isClosed : d.connection.state.isClosed with
  | false =>
      have aligned := alike isClosed
      have room : ∀ reply, (d.ask suite endpoint body).2 = .ok reply →
          far.outboundCounter + (Session.chunks reply).length ≤ Session.counterEnd := by
        intro reply answers
        rw [answers] at answered
        rw [← aligned.follows.counted, ← Session.frameCount_singleton]
        exact answered
      obtain ⟨reply, answers, carried⟩ :=
        ask_of_open seals aligned mirrors.encrypted isClosed asked room
      have after : ((session.sent body).received reply).Aligned
          ((far.received body).sent reply) :=
        (aligned.symm.transferred body).symm.transferred reply
      have closing : (d.ask suite endpoint body).1.connection.state.isClosed = true →
          (d.ask suite endpoint body).1.connection.state = .closed .pairingRemoved := by
        intro closed
        rcases Dialogue.state_ask suite isClosed endpoint body with
          ⟨_, removed⟩ | ⟨_, open'⟩
        · exact removed
        · rw [closed] at open'
          cases open'
      refine ⟨?_, ?_, ?_, ?_, ?_⟩
      · rw [carried, answers]
      · rw [carried]
        exact ⟨kept, after.follows.healthy, ⟨_, rfl, fun _ => after⟩, closing⟩
      · rw [carried]
        rfl
      · rw [carried, answers]
        exact congrArg (_ + ·) (Session.frameCount_singleton reply).symm
      · intro _
        rw [carried]
        exact ⟨_, rfl, after⟩
  | true =>
      have closed := mirrors.removed isClosed
      have shut : d.connection.state.isClosed ≠ false := by rw [isClosed]; exact Bool.noConfusion
      have carried := ask_of_closed suite far endpoint mirrors.healthy closed asked
      have direct := Dialogue.ask_of_closed suite closed endpoint body
      refine ⟨?_, ?_, ?_, ?_, ?_⟩
      · rw [carried, direct]
      · rw [carried, direct]
        exact ⟨mirrors.encrypted, mirrors.healthy,
          ⟨far, rfl, fun isOpen => absurd isOpen shut⟩, mirrors.removed⟩
      · rw [carried]
        rfl
      · rw [carried, direct]
        rfl
      · exact fun isOpen => absurd isOpen shut

/-- A whole conversation over a line that mirrors a dialogue: the same answers, and in the end
the line mirrors the dialogue. The frames that are sent and received are those of the requests
and of the replies. -/
theorem Mirrors.converses (seals : suite.Seals) (mirrors : line.Mirrors d)
    (requests : List (Endpoint × Bytes))
    (asked : line.session.outboundCounter +
      Session.frameCount (requests.map Prod.snd) ≤ Session.counterEnd)
    (answered : line.session.inboundCounter +
      Session.frameCount (replies (converse (Dialogue.ask suite) d requests).2) ≤
        Session.counterEnd) :
    let said := converse (ask suite) line requests
    let clear := converse (Dialogue.ask suite) d requests
    said.2 = clear.2 ∧ said.1.Mirrors clear.1 ∧
      said.1.session.outboundCounter = line.session.outboundCounter +
        Session.frameCount (requests.map Prod.snd) ∧
      said.1.session.inboundCounter = line.session.inboundCounter +
        Session.frameCount (replies clear.2) := by
  induction requests generalizing line d with
  | nil => exact ⟨rfl, mirrors, rfl, rfl⟩
  | cons request rest ih =>
      obtain ⟨endpoint, body⟩ := request
      have bodies : Session.frameCount (((endpoint, body) :: rest).map Prod.snd) =
          (Session.chunks body).length + Session.frameCount (rest.map Prod.snd) := by
        rw [List.map_cons, ← List.singleton_append, Session.frameCount_append,
          Session.frameCount_singleton]
      have back : Session.frameCount
          (replies (converse (Dialogue.ask suite) d ((endpoint, body) :: rest)).2) =
          Session.frameCount (replies [(d.ask suite endpoint body).2]) + Session.frameCount
            (replies (converse (Dialogue.ask suite) (d.ask suite endpoint body).1 rest).2) := by
        rw [← Session.frameCount_append, ← replies_append]
        rfl
      rw [bodies] at asked
      rw [back] at answered
      have step := mirrors.carries seals endpoint body (by omega) (by omega)
      obtain ⟨same, after, sent, received⟩ := ih step.mirrors
        (by rw [step.asked]; omega) (by rw [step.answered]; omega)
      refine ⟨?_, after, ?_, ?_⟩
      · exact congrArg₂ (· :: ·) step.answer same
      · rw [bodies, ← Nat.add_assoc, ← step.asked]
        exact sent
      · rw [back, ← Nat.add_assoc, ← step.answered]
        exact received

/-- After a Pair-Verify the line mirrors the dialogue that has led to it. -/
theorem mirrors_of_verify {verified : Dialogue} {session : Session}
    (shared : suite.agree d.ownSecret (suite.agreementPublic d.otherSecret) =
      suite.agree d.otherSecret (suite.agreementPublic d.ownSecret))
    (verifies : d.verify suite = (verified, .ok session)) :
    Mirrors ⟨session, verified⟩ verified ∧ session.outboundCounter = 0 ∧
      session.inboundCounter = 0 ∧ verified.connection.state.isClosed = false := by
  obtain ⟨record, rfl, rfl⟩ := Dialogue.eq_of_verify shared verifies
  refine ⟨⟨rfl, rfl, ⟨_, (Dialogue.withSession_eq_self rfl).symm, ?_⟩, nofun⟩, rfl, rfl, rfl⟩
  intro _
  exact Session.aligned_of_keys (d.keys suite)

/-- Over a connection that was just verified, with the session that came of it, and after any
requests of any kind: what was answered is what would have been answered in clear, and so is what
is answered next, with the same effect on everything but the session. As long as the connection
is open that is a reply, and with it the two ends are in step. The connection is closed exactly
when one of the requests has taken out its own pairing; after that request, which still has its
reply, every other fails for that reason. Both sides are to make the same of the other's
agreement value, and there have to be numbers for all the frames. -/
theorem transparent (seals : suite.Seals) {verified : Dialogue} {session : Session}
    (shared : suite.agree d.ownSecret (suite.agreementPublic d.otherSecret) =
      suite.agree d.otherSecret (suite.agreementPublic d.ownSecret))
    (verifies : d.verify suite = (verified, .ok session))
    (requests : List (Endpoint × Bytes)) (endpoint : Endpoint) (body : Bytes)
    (asked : Session.frameCount ((requests ++ [(endpoint, body)]).map Prod.snd) ≤
      Session.counterEnd)
    (answered : Session.frameCount (replies (converse (Dialogue.ask suite) verified
      (requests ++ [(endpoint, body)])).2) ≤ Session.counterEnd) :
    let said := converse (ask suite) ⟨session, verified⟩ requests
    let here := said.1.dialogue
    let next := said.1.ask suite endpoint body
    let direct := here.ask suite endpoint body
    said.2 = (converse (Dialogue.ask suite) verified requests).2 ∧
      next.2 = direct.2 ∧ (∃ far, next.1.dialogue = direct.1.withSession far) ∧
      (here.connection.state.isClosed = true ↔ verified.LosesPairing suite requests) ∧
      (here.connection.state.isClosed = false → next.1.InStep ∧
        ∃ reply, (here.connection.handle suite here.accessory here.host endpoint body).answer =
            .ok reply ∧ next.2 = .ok reply.body) ∧
      (here.connection.state.isClosed = true →
        next.2 = .error (.connection (.closed .pairingRemoved))) := by
  intro said here next direct
  obtain ⟨start, noneSent, noneReceived, isOpen⟩ := mirrors_of_verify shared verifies
  rw [List.map_append, Session.frameCount_append] at asked
  rw [converse_concat, replies_append, Session.frameCount_append] at answered
  obtain ⟨same, mirrors, sent, received⟩ := start.converses seals requests
    (by rw [noneSent]; omega) (by rw [noneReceived]; omega)
  have carries : Carries suite said.1 (converse (Dialogue.ask suite) verified requests).1
      endpoint body := by
    refine mirrors.carries seals endpoint body ?_ ?_
    · rw [sent, noneSent, ← Session.frameCount_singleton, Nat.zero_add]
      exact asked
    · rw [received, noneReceived, Nat.zero_add]
      exact answered
  -- What is said over the line's dialogue is what is said over the one in clear.
  obtain ⟨far, placed, _⟩ := mirrors.same
  have alike := Dialogue.ask_withSession suite mirrors.encrypted far endpoint body
  rw [← placed] at alike
  have state : here.connection.state =
      (converse (Dialogue.ask suite) verified requests).1.connection.state :=
    congrArg (·.connection.state) placed
  have answer : next.2 = direct.2 := carries.answer.trans (congrArg Prod.snd alike).symm
  refine ⟨same, answer, ?_, ?_, ?_, ?_⟩
  · obtain ⟨after, there, _⟩ := carries.mirrors.same
    refine ⟨after, there.trans ?_⟩
    rw [show direct.1 = _ from congrArg Prod.fst alike]
    rfl
  · rw [state]
    exact Dialogue.isClosed_converse_iff isOpen requests
  · intro standing
    obtain ⟨_, _, _, reply, handled, replied⟩ :=
      Dialogue.ask_of_open suite standing endpoint body
    rw [state] at standing
    refine ⟨carries.inStep standing, reply, congrArg ConnectionOutcome.answer handled, ?_⟩
    exact answer.trans (congrArg Prod.snd replied)
  · intro closed
    rw [state] at closed
    have gone : here.connection.state = .closed .pairingRemoved :=
      state.trans (mirrors.removed closed)
    exact answer.trans (congrArg Prod.snd (Dialogue.ask_of_closed suite gone endpoint body))

/-- An admin asks for the list, takes out its own pairing, and asks once more. -/
theorem transparent_selfRemoval :
    let suite : Suite := { Suite.standard with
      signingPublic := id, isSigningPublic := fun _ => true, verify := fun _ _ _ => true }
    let admin := Accessory.lamp.recordOf Dialogue.visitor.pairingId
      (Dialogue.visitor.identity.publicKey suite) .admin
    let d : Dialogue := { Dialogue.acquainted suite with
      accessory := Accessory.lamp.withRegistry
        (Registry.empty.insert Dialogue.visitor.pairingId admin) }
    let removal := (PairingsRequest.remove Dialogue.visitor.pairingId).encode
    let before := [(Endpoint.pairSetup, []), (.pairings, PairingsRequest.list.encode)]
    let requests := before ++ [(.pairings, removal)]
    ∃ verified session, suite.Seals ∧
      suite.agree d.ownSecret (suite.agreementPublic d.otherSecret) =
        suite.agree d.otherSecret (suite.agreementPublic d.ownSecret) ∧
      d.verify suite = (verified, .ok session) ∧
      ((converse (ask suite) ⟨session, verified⟩ before).1.ask suite .pairings removal).1.InStep ∧
      (converse (ask suite) ⟨session, verified⟩ requests).2.getLast? =
        some (.ok Management.doneReply) ∧
      ((converse (ask suite) ⟨session, verified⟩ requests).1.ask suite .pairVerify [1]).2 =
        .error (.connection (.closed .pairingRemoved)) := by
  intro suite admin d removal before requests
  have seals : suite.Seals := ⟨Aead.decrypt?_encrypt, Aead.length_encrypt⟩
  have signs : suite.Signs := ⟨fun _ _ => rfl, fun _ => rfl⟩
  have can : Dialogue.CanVerify suite d admin := {
    isOpen := rfl
    unencrypted := rfl
    filed := Registry.find?_insert_self ..
    sameKey := rfl
    trusts := rfl
    shared := by decide +kernel
    nonzero := by decide +kernel }
  have verifies := can.verify_eq seals signs
  refine ⟨_, _, seals, can.shared, verifies, ?_⟩
  obtain ⟨_, _, _, closing, standing, _⟩ := transparent seals can.shared verifies before .pairings
    removal (by decide +kernel) (by decide +kernel)
  obtain ⟨same, _, _, closed, _, shut⟩ := transparent seals can.shared verifies requests .pairVerify
    [1] (by decide +kernel) (by decide +kernel)
  refine ⟨(standing ?_).1, ?_, shut (closed.mpr ?_)⟩
  · refine Bool.eq_false_iff.mpr fun isClosed => ?_
    have gone := (Dialogue.isClosed_converse_iff rfl before).mpr (closing.mp isClosed)
    exact absurd gone (by decide +kernel)
  · rw [same]
    decide +kernel
  · exact ⟨before, .pairings, removal, List.prefix_refl _, rfl, by decide +kernel⟩

end Line

end HomePairing
