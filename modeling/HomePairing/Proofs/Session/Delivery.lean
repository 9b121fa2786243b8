import HomePairing.Proofs.Session.Stream
import Mathlib.Data.List.Induction
import Mathlib.Logic.Function.Basic

/-!
# Delivery

Two ends with the same keys send to each other over wires that lose nothing and may cut
what they carry anywhere, a header included. Whatever has arrived is decrypted as far as
it goes. No call ever fails; what an end has received is always the beginning of what the
other has sent, and with nothing in flight it is all of it (`Link.delivered`).

A direction is described by what of its frames was opened and what was not (`Lane`): the
writer's counter counts them all, the reader's those that were opened, and the reader
awaits the others. Sending adds to these, receiving opens some of them, and neither
touches the other direction.
-/

namespace HomePairing

/-! ## Two ends -/

inductive Side where
  | accessory
  | controller
deriving DecidableEq, Repr

namespace Side

def other : Side → Side
  | accessory => controller
  | controller => accessory

@[simp] theorem other_other (side : Side) : side.other.other = side := by
  cases side <;> rfl

@[simp] theorem other_ne (side : Side) : side.other ≠ side := by
  cases side <;> nofun

/-- A side is this one or the other one. -/
theorem eq_or_eq_other (side this : Side) : side = this ∨ side = this.other := by
  cases side <;> cases this <;> simp [other]

/-- The session at an end. -/
def session (keys : SessionKeys) : Side → Session
  | accessory => .accessory keys
  | controller => .controller keys

end Side

/-- One end of a connection. -/
structure Peer where
  session : Session
  /-- What was sent and has not arrived at the other end. -/
  flight : Bytes
  /-- What decrypting has given, one after another. -/
  received : Bytes

namespace Peer

variable (suite : Suite)

def send (peer : Peer) (text : Bytes) : Except SessionError Peer :=
  match peer.session.encrypt suite text with
  | (session, .ok frames) =>
    .ok { peer with session, flight := peer.flight ++ frames }
  | (_, .error e) => .error e

/-- Bytes arrive, and everything there is is decrypted. -/
def receive (peer : Peer) (data : Bytes) : Except SessionError Peer :=
  match (peer.session.feed data).decryptAll suite with
  | (session, .ok text) =>
    .ok { peer with session, received := peer.received ++ text }
  | (_, .error e) => .error e

end Peer

/-- Something that happens on a connection. -/
inductive Traffic where
  | send (side : Side) (text : Bytes)
  /-- Of the bytes that one side has in flight the next ones arrive at the other, so many
  as `count`, or all there are. -/
  | deliver (side : Side) (count : Nat)

/-- A connection by its two ends. -/
abbrev Link : Type := Side → Peer

namespace Link

variable (suite : Suite)

/-- Two fresh sessions over the same keys. -/
def create (keys : SessionKeys) : Link :=
  fun side => { session := side.session keys, flight := [], received := [] }

/-- What one event makes of a link. A call that fails ends everything. -/
def step (link : Link) : Traffic → Except SessionError Link
  | .send side text => do
    let sender ← (link side).send suite text
    return Function.update link side sender
  | .deliver side count => do
    let receiver ← (link side.other).receive suite ((link side).flight.take count)
    let sender := { link side with flight := (link side).flight.drop count }
    return Function.update (Function.update link side sender) side.other receiver

def run (link : Link) (traffic : List Traffic) : Except SessionError Link :=
  traffic.foldlM (step suite) link

@[simp] theorem run_concat (link : Link) (traffic : List Traffic) (event : Traffic) :
    link.run suite (traffic ++ [event]) = link.run suite traffic >>= (step suite · event) := by
  simp [run, List.foldlM_append]

end Link

namespace Traffic

/-- The texts that a side sends. -/
def texts (side : Side) (traffic : List Traffic) : List Bytes :=
  traffic.filterMap fun
    | send sender text => if sender = side then some text else none
    | deliver _ _ => none

/-- The texts of the frames that a side sends. -/
def pieces (side : Side) (traffic : List Traffic) : List Bytes :=
  (texts side traffic).flatMap Session.chunks

theorem flatten_pieces (side : Side) (traffic : List Traffic) :
    (pieces side traffic).flatten = (texts side traffic).flatten := by
  unfold pieces
  induction texts side traffic with
  | nil => rfl
  | cons text rest ih =>
      rw [List.flatMap_cons, List.flatten_append, Session.flatten_chunks, ih, List.flatten_cons]

theorem pieces_prefix (side : Side) (traffic more : List Traffic) :
    pieces side traffic <+: pieces side (traffic ++ more) := by
  have appended : texts side (traffic ++ more) = texts side traffic ++ texts side more :=
    List.filterMap_append
  rw [pieces, pieces, appended, List.flatMap_append]
  exact List.prefix_append ..

theorem pieces_send_self (side : Side) (text : Bytes) (traffic : List Traffic) :
    pieces side (traffic ++ [.send side text]) =
      pieces side traffic ++ Session.chunks text := by
  simp [pieces, texts]

theorem pieces_send_other {side sender : Side} (other : sender ≠ side) (text : Bytes)
    (traffic : List Traffic) :
    pieces side (traffic ++ [.send sender text]) = pieces side traffic := by
  simp [pieces, texts, other]

theorem pieces_deliver (side sender : Side) (count : Nat) (traffic : List Traffic) :
    pieces side (traffic ++ [.deliver sender count]) = pieces side traffic := by
  simp [pieces, texts]

end Traffic

/-! ## One direction -/

/-- A direction of a connection: of the frames sent some are opened and the others still
to come, and both ends count them alike. -/
structure Lane (suite : Suite) (writer reader : Peer) (opened unread : List Bytes) :
    Prop where
  sameKey : writer.session.writeKey = reader.session.readKey
  unbroken : writer.session.poisoned = false
  sent : writer.session.outboundCounter = opened.length + unread.length
  counted : reader.session.inboundCounter = opened.length
  received : reader.received = opened.flatten
  awaits : reader.session.Awaits suite writer.flight unread
  drained : reader.session.Drained suite unread

namespace Lane

variable {suite : Suite} {writer reader : Peer} {opened unread : List Bytes}

/-- Sending goes on the wire, behind what is there. -/
theorem send (seals : suite.Seals) (lane : Lane suite writer reader opened unread)
    {text : Bytes}
    (numbered : opened.length + unread.length + (Session.chunks text).length ≤
      Session.counterEnd) :
    ∃ counter flight,
      let after := { writer with
        session := { writer.session with outboundCounter := counter }, flight }
      writer.send suite text = .ok after ∧
        Lane suite after reader opened (unread ++ Session.chunks text) := by
  refine ⟨writer.session.outboundCounter + (Session.chunks text).length,
    writer.flight ++ Session.stream suite writer.session.writeKey
      writer.session.outboundCounter (Session.chunks text), ?_, ?_⟩
  · rw [Peer.send,
      Session.encrypt_of_numbered suite lane.unbroken (lane.sent ▸ numbered)]
  · have awaits := lane.awaits.append (fun piece => Session.length_le_of_mem_chunks)
      (lane.counted ▸ numbered)
    rw [← lane.sameKey, lane.counted, ← lane.sent] at awaits
    refine { lane with
      sent := ?_, awaits := awaits, drained := lane.awaits.drained_append seals lane.drained }
    rw [List.length_append, ← Nat.add_assoc, ← lane.sent]

/-- What arrives is decrypted as far as it goes. -/
theorem receive (seals : suite.Seals) (lane : Lane suite writer reader opened unread)
    (count : Nat) :
    ∃ counter buffer received more rest,
      let after := { reader with
        session := { reader.session with inboundCounter := counter, buffer }, received }
      reader.receive suite (writer.flight.take count) = .ok after ∧
        unread = more ++ rest ∧
        Lane suite { writer with flight := writer.flight.drop count } after
          (opened ++ more) rest := by
  have fed : (reader.session.feed (writer.flight.take count)).Awaits suite
      (writer.flight.drop count) unread := by
    refine Session.Awaits.feed ?_
    rw [List.take_append_drop]
    exact lane.awaits
  obtain ⟨after, more, rest, decrypts, progress⟩ := fed.progress seals (Nat.lt_succ_self _)
  have same : { reader.session with
      inboundCounter := after.inboundCounter, buffer := after.buffer } = after := by
    rw [progress.moved]
    rfl
  refine ⟨after.inboundCounter, after.buffer, reader.received ++ more.flatten, more, rest,
    ?_, progress.split, ?_⟩
  · rw [Peer.receive, Session.decryptAll, decrypts, same]
  · rw [same]
    refine ⟨?_, lane.unbroken, ?_, ?_, ?_, progress.awaits, progress.drained⟩
    · rw [progress.moved]
      exact lane.sameKey
    · rw [lane.sent, progress.split, List.length_append, List.length_append, Nat.add_assoc]
    · rw [progress.moved, List.length_append, ← lane.counted]
      rfl
    · rw [lane.received, List.flatten_append]

/-- A direction does not notice what its reader sends. -/
theorem frame_reader (lane : Lane suite writer reader opened unread) (counter : Nat)
    (flight : Bytes) :
    Lane suite writer { reader with
      session := { reader.session with outboundCounter := counter }, flight } opened unread :=
  { lane with
    awaits := ⟨lane.awaits.healthy, lane.awaits.small, lane.awaits.numbered, lane.awaits.cut⟩ }

/-- A direction does not notice what its writer receives. -/
theorem frame_writer (lane : Lane suite writer reader opened unread) (counter : Nat)
    (buffer received : Bytes) :
    Lane suite { writer with
      session := { writer.session with inboundCounter := counter, buffer }, received }
      reader opened unread :=
  { lane with }

end Lane

/-! ## Both directions -/

namespace Link

variable {suite : Suite}

/-- Both directions of a link that `traffic` has made are in order. -/
def InOrder (suite : Suite) (link : Link) (traffic : List Traffic) : Prop :=
  ∀ side, ∃ opened unread, Traffic.pieces side traffic = opened ++ unread ∧
    Lane suite (link side) (link side.other) opened unread

theorem inOrder_create (keys : SessionKeys) : InOrder suite (create keys) [] := by
  intro side
  refine ⟨[], [], rfl, ?_⟩
  cases side <;> exact {
    sameKey := rfl
    unbroken := rfl
    sent := rfl
    counted := rfl
    received := rfl
    awaits := ⟨rfl, nofun, Nat.zero_le _, rfl⟩
    drained := nofun }

theorem InOrder.step (seals : suite.Seals) {link : Link} {traffic : List Traffic}
    {event : Traffic} (ordered : InOrder suite link traffic)
    (numbered : ∀ side,
      (Traffic.pieces side (traffic ++ [event])).length ≤ Session.counterEnd) :
    ∃ after, link.step suite event = .ok after ∧ InOrder suite after (traffic ++ [event]) := by
  cases event with
  | send sender text =>
      obtain ⟨opened, unread, split, lane⟩ := ordered sender
      have room := numbered sender
      rw [Traffic.pieces_send_self, split, List.length_append, List.length_append] at room
      obtain ⟨counter, flight, sends, sent⟩ := lane.send seals room
      refine ⟨_, by rw [Link.step, sends]; rfl, fun side => ?_⟩
      rcases side.eq_or_eq_other sender with same | other
      · subst same
        refine ⟨opened, unread ++ Session.chunks text, ?_, ?_⟩
        · rw [Traffic.pieces_send_self, split, List.append_assoc]
        · rw [Function.update_self, Function.update_of_ne (Side.other_ne _)]
          exact sent
      · subst other
        obtain ⟨opened, unread, split, lane⟩ := ordered sender.other
        refine ⟨opened, unread, ?_, ?_⟩
        · rw [Traffic.pieces_send_other (Side.other_ne _).symm, split]
        · rw [Side.other_other] at lane ⊢
          rw [Function.update_self, Function.update_of_ne (Side.other_ne _)]
          exact lane.frame_reader counter flight
  | deliver sender count =>
      obtain ⟨opened, unread, split, lane⟩ := ordered sender
      obtain ⟨counter, buffer, received, more, rest, receives, parted, got⟩ :=
        lane.receive seals count
      refine ⟨_, by rw [Link.step, receives]; rfl, fun side => ?_⟩
      rcases side.eq_or_eq_other sender with same | other
      · subst same
        refine ⟨opened ++ more, rest, ?_, ?_⟩
        · rw [Traffic.pieces_deliver, split, parted, List.append_assoc]
        · rw [Function.update_self, Function.update_of_ne (Side.other_ne _).symm,
            Function.update_self]
          exact got
      · subst other
        obtain ⟨opened, unread, split, lane⟩ := ordered sender.other
        refine ⟨opened, unread, ?_, ?_⟩
        · rw [Traffic.pieces_deliver, split]
        · rw [Side.other_other] at lane ⊢
          rw [Function.update_self, Function.update_of_ne (Side.other_ne _).symm,
            Function.update_self]
          exact (lane.frame_writer counter buffer received).frame_reader
            (link sender).session.outboundCounter _

/-- The induction is on the traffic, from its end. -/
theorem inOrder_run (seals : suite.Seals) (keys : SessionKeys) (traffic : List Traffic)
    (numbered : ∀ side, (Traffic.pieces side traffic).length ≤ Session.counterEnd) :
    ∃ link, (create keys).run suite traffic = .ok link ∧ InOrder suite link traffic := by
  induction traffic using List.reverseRecOn with
  | nil => exact ⟨_, rfl, inOrder_create keys⟩
  | append_singleton traffic event ih =>
      have fewer (side : Side) :
          (Traffic.pieces side traffic).length ≤ Session.counterEnd :=
        Nat.le_trans (Traffic.pieces_prefix side traffic [event]).length_le (numbered side)
      obtain ⟨link, runs, ordered⟩ := ih fewer
      obtain ⟨after, steps, ordered⟩ := ordered.step seals numbered
      refine ⟨after, ?_, ordered⟩
      rw [run_concat, runs]
      exact steps

/-- What has been received is what was sent, up to what is still to come; and with nothing in
flight nothing is. -/
theorem InOrder.received {link : Link} {traffic : List Traffic}
    (ordered : InOrder suite link traffic) (side : Side) :
    (link side.other).received <+: (Traffic.texts side traffic).flatten ∧
      ((link side).flight = [] →
        (link side.other).received = (Traffic.texts side traffic).flatten) := by
  obtain ⟨opened, unread, split, lane⟩ := ordered side
  rw [← Traffic.flatten_pieces, split, List.flatten_append, lane.received]
  refine ⟨List.prefix_append .., fun landed => ?_⟩
  have awaits := lane.awaits
  rw [landed] at awaits
  rw [awaits.unread_nil lane.drained, List.flatten_nil, List.append_nil]

/-- Two ends over these sessions, with nothing sent yet. -/
def between (controller accessory : Session) : Link
  | .controller => { session := controller, flight := [], received := [] }
  | .accessory => { session := accessory, flight := [], received := [] }

theorem between_sides (keys : SessionKeys) :
    between (.controller keys) (.accessory keys) = create keys := by
  funext side
  cases side <;> rfl

/-- Whatever the ends send each other from here on, as long as there are numbers for the
frames, no call fails: each decrypts the beginning of what the other has sent, and with
nothing in flight all of it. -/
def Delivers (suite : Suite) (link : Link) : Prop :=
  ∀ traffic, (∀ side, (Traffic.pieces side traffic).length ≤ Session.counterEnd) →
    ∃ after, link.run suite traffic = .ok after ∧ ∀ side : Side,
      (after side.other).received <+: (Traffic.texts side traffic).flatten ∧
      ((after side).flight = [] →
        (after side.other).received = (Traffic.texts side traffic).flatten)

/-- The two ends that come of the same keys deliver. -/
theorem delivers_between (seals : suite.Seals) (keys : SessionKeys) :
    (between (.controller keys) (.accessory keys)).Delivers suite := by
  intro traffic numbered
  obtain ⟨link, runs, ordered⟩ := inOrder_run seals keys traffic numbered
  rw [between_sides]
  exact ⟨link, runs, ordered.received⟩

/-- Two ends with the same keys, whatever they send each other and however it is cut on its
way: no call fails, each has received the beginning of what the other sent, and with
nothing in flight all of it. Then the two counters agree, and nothing is left over. -/
theorem delivered (seals : suite.Seals) (keys : SessionKeys) (traffic : List Traffic)
    (numbered : ∀ side, (Traffic.pieces side traffic).length ≤ Session.counterEnd) :
    ∃ link, (create keys).run suite traffic = .ok link ∧ ∀ side : Side,
      (link side.other).received <+: (Traffic.texts side traffic).flatten ∧
      ((link side).flight = [] →
        (link side.other).received = (Traffic.texts side traffic).flatten ∧
        (link side.other).session.inboundCounter = (link side).session.outboundCounter ∧
        (link side.other).session.buffer = []) := by
  obtain ⟨link, runs, ordered⟩ := inOrder_run seals keys traffic numbered
  refine ⟨link, runs, fun side => ?_⟩
  obtain ⟨opened, unread, split, lane⟩ := ordered side
  rw [← Traffic.flatten_pieces, split, List.flatten_append, lane.received]
  refine ⟨List.prefix_append .., fun landed => ?_⟩
  have awaits := lane.awaits
  rw [landed] at awaits
  have all := awaits.unread_nil lane.drained
  subst all
  refine ⟨(List.append_nil _).symm, ?_, awaits.buffer_nil⟩
  rw [lane.counted, lane.sent]
  rfl

/-- Both ends send; the controller's header is cut in two, and its second frame arrives
with the end of its first one. -/
def headerCut : List Traffic :=
  [.send .controller [1, 2, 3], .send .accessory [7], .deliver .controller 1,
    .send .controller [], .send .controller [4], .deliver .accessory 19,
    .deliver .controller 100]

theorem delivered_headerCut :
    let keys : SessionKeys := ⟨Block.zero, Block.fit 32 [1]⟩
    (∀ side, (Traffic.pieces side headerCut).length ≤ Session.counterEnd) ∧
      ∃ link, (create keys).run Suite.standard headerCut = .ok link ∧
        ∀ side : Side, (link side).flight = [] ∧
          (link side.other).received = (Traffic.texts side headerCut).flatten ∧
          (link side.other).session.inboundCounter =
            (link side).session.outboundCounter ∧
          (link side.other).session.buffer = [] := by
  intro keys
  have numbered : ∀ side,
      (Traffic.pieces side headerCut).length ≤ Session.counterEnd := by
    intro side
    cases side <;> decide +kernel
  obtain ⟨link, runs, received⟩ := delivered Suite.seals_standard keys headerCut numbered
  have landed : ((create keys).run Suite.standard headerCut).toOption.map
      (fun link => ((link .accessory).flight, (link .controller).flight)) =
        some ([], []) := by
    decide +kernel
  rw [runs] at landed
  have flights := Prod.mk.inj (Option.some.inj landed)
  refine ⟨numbered, link, runs, fun side => ?_⟩
  have empty : (link side).flight = [] := by
    cases side
    · exact flights.1
    · exact flights.2
  exact ⟨empty, (received side).2 empty⟩

end Link

end HomePairing
