import HomePairing.Proofs.Connection.Lifecycle
import HomePairing.Proofs.Requests.Outsiders
import HomePairing.Proofs.Runs.History
import HomePairing.Proofs.Runs.Slot

/-!
# Connections that are closed while they are pairing

The slot of Pair-Setup is given back by whatever ends a Pair-Setup, and by a connection that
is dropped. Closing a connection does neither. A connection that is closed in the middle of a
Pair-Setup answers no request any more, so it can never end it, and it keeps the slot:
it is stranded (`Connection.Stranded`).

From outside, a connection lives its own life: an event is a call to it, or is not about it
(`World.find?_step`). So how connections become stranded is read off from what one call does
to one connection (`World.stranded_step_iff`), and then from the events of a run. Until it is
dropped, a stranded connection keeps everybody else from pairing (`World.stranded_iff`).
-/

namespace HomePairing

namespace Connection

variable {suite : Suite} {connection next : Connection} {call : Call}

/-- The connection was closed while it waited for the third or the fifth message of a
Pair-Setup. -/
def Stranded (connection : Connection) : Prop :=
  connection.state.isClosed = true ∧
    (connection.setup.expectedState = 3 ∨ connection.setup.expectedState = 5)

instance (connection : Connection) : Decidable connection.Stranded :=
  inferInstanceAs (Decidable (_ ∧ _))

/-! ## Closing -/

theorem Effect.isClosed_of_isClosed (effect : Effect suite connection call next)
    (isClosed : connection.state.isClosed = true) : next.state.isClosed = true := by
  cases effect with
  | unchanged | setup _ | verifying _ | sent _ | received _ _ _ => exact isClosed
  | verified isOpen _ _ =>
      rw [isOpen] at isClosed
      cases isClosed
  | removed _ _ | failed _ _ _ | closed => rfl

/-- A connection that is closed has its Pair-Setup left where it was. -/
theorem Effect.setup_of_isClosed (effect : Effect suite connection call next)
    (isClosed : next.state.isClosed = true) : next.setup = connection.setup := by
  cases effect with
  | setup isOpen =>
      have isClosed : connection.state.isClosed = true := isClosed
      rw [isOpen] at isClosed
      cases isClosed
  | unchanged | verifying _ | verified _ _ _ | removed _ _ | sent _ | received _ _ _
  | failed _ _ _ | closed => rfl

/-- The ways of closing: being told to, a frame that is refused, and the own pairing gone. -/
theorem Effect.closes (effect : Effect suite connection call next)
    (isOpen : connection.state.isClosed = false) (isClosed : next.state.isClosed = true) :
    call = .close ∨ (∃ data, call = .decrypt data) ∨
      ∃ accessory host body, call = .handle accessory host .pairings body := by
  cases effect with
  | closed => exact .inl rfl
  | failed _ _ _ => exact .inr (.inl ⟨_, rfl⟩)
  | removed _ _ => exact .inr (.inr ⟨_, _, _, rfl⟩)
  | unchanged | setup _ | verifying _ | sent _ | received _ _ _ =>
      have isClosed : connection.state.isClosed = true := isClosed
      rw [isOpen] at isClosed
      cases isClosed
  | verified _ _ _ => cases isClosed

/-- Where nobody is paired, nobody's pairing goes. -/
theorem after_pairings_of_isEmpty {accessory : Accessory}
    (empty : accessory.registry.isEmpty = true) (isOpen : connection.state.isClosed = false)
    (host : Host) (body : Bytes) :
    connection.after suite (.handle accessory host .pairings body) = connection := by
  have outside : ¬ Management.Admits accessory.store connection.controllerId? := by
    rw [← Management.isAdmin_iff, Management.isAdmin_of_isEmpty empty]
    exact Bool.false_ne_true
  rw [after, World.handle_of_open suite isOpen]
  show connection.closeWhen (connection.isAmong
    (Management.handle accessory host connection.controllerId? body).answer.removed) = _
  rw [Management.handle_of_outside outside, connection.isAmong_nil]
  rfl

end Connection

namespace World

variable {suite : Suite} {world : World} {i : Nat} {connection : Connection} {event : Event}

/-! ## One connection among others -/

/-- The call that an event makes, and the connection that it is made to. -/
def call? (world : World) : Event → Option (Nat × Connection.Call)
  | .request i endpoint body => some (i, .handle world.accessory world.host endpoint body)
  | .encrypt i text => some (i, .encrypt text)
  | .decrypt i data => some (i, .decrypt data)
  | .close i => some (i, .close)
  | .connect | .drop _ | .machine _ => none

/-- What a connection that is not dropped makes of an event. -/
def afterEvent (suite : Suite) (world : World) (i : Nat) (connection : Connection)
    (event : Event) : Connection :=
  match world.call? event with
  | some (j, call) => if i = j then connection.after suite call else connection
  | none => connection

theorem find?_of_absent {hub : Hub} {i j : Nat} (absent : hub.find? j = none)
    (f : Connection → Connection) :
    hub.find? i = if i = j then (none : Option Connection).map f else hub.find? i := by
  split
  · next here => rw [here, absent]; rfl
  · rfl

/-- A call changes the connection that it is made to, and no other. -/
theorem find?_step_of_call {j : Nat} {call : Connection.Call} (suite : Suite) (world : World)
    (i : Nat) (called : world.call? event = some (j, call)) :
    (world.step suite event).hub.find? i =
      if i = j then (world.hub.find? j).map (·.after suite call) else world.hub.find? i := by
  cases event with
  | connect | drop _ | machine _ => cases called
  | close j =>
      cases called
      show (world.hub.close j).find? i = _
      unfold Hub.close
      cases found : world.hub.find? j with
      | none => exact find?_of_absent found _
      | some connection => exact Hub.find?_set (Hub.lt_of_find? found) _ i
  | request j endpoint body =>
      cases called
      show (world.hub.handle suite world.host j endpoint body).1.find? i = _
      unfold Hub.handle
      cases found : world.hub.find? j with
      | none => exact find?_of_absent found _
      | some connection => exact Hub.find?_set (Hub.lt_of_find? found) _ i
  | encrypt j text =>
      cases called
      show (world.hub.encrypt suite j text).find? i = _
      unfold Hub.encrypt
      cases found : world.hub.find? j with
      | none => exact find?_of_absent found _
      | some connection => exact Hub.find?_set (Hub.lt_of_find? found) _ i
  | decrypt j data =>
      cases called
      show (world.hub.decrypt suite j data).1.find? i = _
      unfold Hub.decrypt
      cases found : world.hub.find? j with
      | none => exact find?_of_absent found _
      | some connection => exact Hub.find?_set (Hub.lt_of_find? found) _ i

theorem find?_connect (i : Nat) :
    world.hub.connect.2.find? i =
      if i = world.hub.connections.length then some Connection.create
      else world.hub.find? i := by
  have seen := @Hub.view_connect Connection some world.hub i
  simp only [Hub.view, Option.bind_fun_some] at seen
  exact seen

theorem find?_drop (i j : Nat) :
    (world.hub.drop j).find? i = if i = j then none else world.hub.find? i := by
  unfold Hub.drop
  cases found : world.hub.find? j with
  | none => exact find?_of_absent found id
  | some connection => exact Hub.find?_set (Hub.lt_of_find? found) none i

/-- A connection that is not dropped lives its own life. -/
theorem find?_step (suite : Suite) (found : world.hub.find? i = some connection)
    (kept : event ≠ .drop i) :
    (world.step suite event).hub.find? i =
      some (world.afterEvent suite i connection event) := by
  unfold afterEvent
  cases called : world.call? event with
  | some made =>
      obtain ⟨j, call⟩ := made
      rw [find?_step_of_call suite world i called]
      simp only
      split
      · next here => rw [← here, found]; rfl
      · exact found
  | none =>
      cases event with
      | connect =>
          show world.hub.connect.2.find? i = some connection
          rw [find?_connect, if_neg (Nat.ne_of_lt (Hub.lt_of_find? found))]
          exact found
      | drop j =>
          have apart : i ≠ j := by
            rintro rfl
            exact kept rfl
          show (world.hub.drop j).find? i = some connection
          rw [find?_drop, if_neg apart]
          exact found
      | machine host => exact found
      | request _ _ _ | encrypt _ _ | decrypt _ _ | close _ => cases called

theorem find?_step_drop (suite : Suite) (world : World) (i : Nat) :
    (world.step suite (.drop i)).hub.find? i = none := by
  show (world.hub.drop i).find? i = none
  rw [find?_drop, if_pos rfl]

theorem ne_drop_of_find?_step
    (found : (world.step suite event).hub.find? i = some connection) : event ≠ .drop i := by
  rintro rfl
  rw [find?_step_drop] at found
  cases found

/-- What is there after an event is what the event made of it. -/
theorem eq_afterEvent {next : Connection} (found : world.hub.find? i = some connection)
    (after : (world.step suite event).hub.find? i = some next) :
    next = world.afterEvent suite i connection event := by
  have same := find?_step suite found (ne_drop_of_find?_step after)
  rw [after] at same
  exact Option.some.inj same

/-- A connection that was not there before is as good as new. -/
theorem eq_create_of_find?_step (absent : world.hub.find? i = none)
    (found : (world.step suite event).hub.find? i = some connection) :
    connection = Connection.create := by
  cases called : world.call? event with
  | some made =>
      obtain ⟨j, call⟩ := made
      rw [find?_step_of_call suite world i called] at found
      split at found
      · next here =>
          rw [← here, absent] at found
          cases found
      · rw [absent] at found
        cases found
  | none =>
      cases event with
      | connect =>
          replace found : world.hub.connect.2.find? i = some connection := found
          rw [find?_connect] at found
          split at found
          · cases found
            rfl
          · rw [absent] at found
            cases found
      | drop j =>
          replace found : (world.hub.drop j).find? i = some connection := found
          rw [find?_drop, absent] at found
          split at found <;> cases found
      | machine host =>
          replace found : world.hub.find? i = some connection := found
          rw [absent] at found
          cases found
      | request _ _ _ | encrypt _ _ | decrypt _ _ | close _ => cases called

/-- Every event has the effect of some call. -/
theorem exists_effect_of_step {next : Connection}
    (found : world.hub.find? i = some connection)
    (after : (world.step suite event).hub.find? i = some next) :
    ∃ call, Connection.Effect suite connection call next := by
  rw [eq_afterEvent found after, afterEvent]
  split
  · next _ call _ =>
      split
      · exact ⟨call, Connection.effect_after suite connection call⟩
      · exact ⟨call, .unchanged⟩
  · exact ⟨.close, .unchanged⟩

/-! ## How a connection becomes stranded -/

/-- There is a stranded connection with this number. -/
def Stranded (world : World) (i : Nat) : Prop :=
  ∃ connection ∈ world.hub.find? i, connection.Stranded

instance (world : World) (i : Nat) : Decidable (world.Stranded i) :=
  inferInstanceAs (Decidable (∃ connection ∈ world.hub.find? i, connection.Stranded))

theorem Stranded.midSetup (stranded : world.Stranded i) : world.hub.MidSetup i := by
  obtain ⟨connection, found, _, waiting⟩ := stranded
  exact ⟨connection, found, waiting⟩

/-- The event closes the connection while that is pairing. -/
def ClosesPairing (suite : Suite) (world : World) (i : Nat) (event : Event) : Prop :=
  ∃ connection next, world.hub.find? i = some connection ∧
    connection.state.isClosed = false ∧
    (connection.setup.expectedState = 3 ∨ connection.setup.expectedState = 5) ∧
    (world.step suite event).hub.find? i = some next ∧ next.state.isClosed = true

/-- A connection is stranded from when it is closed while it is pairing until it is
dropped. -/
theorem stranded_step_iff :
    (world.step suite event).Stranded i ↔
      world.ClosesPairing suite i event ∨ (world.Stranded i ∧ event ≠ .drop i) := by
  constructor
  · rintro ⟨next, after, isClosed, waiting⟩
    have kept := ne_drop_of_find?_step after
    cases found : world.hub.find? i with
    | none =>
        rw [eq_create_of_find?_step found after] at isClosed
        cases isClosed
    | some connection =>
        obtain ⟨call, effect⟩ := exists_effect_of_step found after
        rw [effect.setup_of_isClosed isClosed] at waiting
        cases before : connection.state.isClosed with
        | true => exact .inr ⟨⟨connection, found, before, waiting⟩, kept⟩
        | false => exact .inl ⟨connection, next, found, before, waiting, after, isClosed⟩
  · rintro (⟨connection, next, found, _, waiting, after, isClosed⟩ |
      ⟨⟨connection, found, isClosed, waiting⟩, kept⟩)
    · obtain ⟨call, effect⟩ := exists_effect_of_step found after
      refine ⟨next, after, isClosed, ?_⟩
      rw [effect.setup_of_isClosed isClosed]
      exact waiting
    · have after := find?_step suite found kept
      obtain ⟨call, effect⟩ := exists_effect_of_step found after
      have isClosed := effect.isClosed_of_isClosed isClosed
      refine ⟨_, after, isClosed, ?_⟩
      rw [effect.setup_of_isClosed isClosed]
      exact waiting

/-- Only a call to the connection itself can close it. -/
theorem exists_call_of_closes (isOpen : connection.state.isClosed = false)
    (isClosed : (world.afterEvent suite i connection event).state.isClosed = true) :
    ∃ call, world.call? event = some (i, call) ∧
      (connection.after suite call).state.isClosed = true := by
  unfold afterEvent at isClosed
  split at isClosed
  · next j call called =>
      split at isClosed
      · next here =>
          subst here
          exact ⟨call, called, isClosed⟩
      · rw [isOpen] at isClosed
        cases isClosed
  · rw [isOpen] at isClosed
    cases isClosed

/-- A refused frame can do it, too, but a pairing that goes cannot: while somebody is
pairing nobody is paired. -/
theorem event_of_closesPairing (exclusive : world.hub.Exclusive)
    (closes : world.ClosesPairing suite i event) :
    event = .close i ∨ ∃ data, event = .decrypt i data := by
  obtain ⟨connection, next, found, isOpen, waiting, after, isClosed⟩ := closes
  obtain ⟨lease, held⟩ := Hub.midSetup_iff.mp ⟨connection, found, waiting⟩
  have empty : world.accessory.registry.isEmpty = true := exclusive.unpaired i lease held
  rw [eq_afterEvent found after] at isClosed
  obtain ⟨call, called, closed⟩ := exists_call_of_closes isOpen isClosed
  have effect := Connection.effect_after suite connection call
  rcases effect.closes isOpen closed with rfl | ⟨data, rfl⟩ | ⟨_, _, body, rfl⟩
  · cases event with
    | close _ =>
        cases called
        exact .inl rfl
    | _ => cases called
  · cases event with
    | decrypt _ _ =>
        cases called
        exact .inr ⟨data, rfl⟩
    | _ => cases called
  · cases event with
    | request _ _ _ =>
        cases called
        rw [Connection.after_pairings_of_isEmpty empty isOpen, isOpen] at closed
        cases closed
    | _ => cases called

/-! ## What comes of it -/

/-- While a connection is stranded, every other one that asks is told that somebody is
pairing. -/
theorem Stranded.answer_busy (stranded : world.Stranded i) (suite : Suite)
    (limited : world.hub.Limited) (exclusive : world.hub.Exclusive)
    (backed : world.hub.Backed) {j : Nat} {body : Bytes}
    (found : world.hub.find? j = some connection) (isOpen : connection.state.isClosed = false)
    (parsed : SetupRequest.parse body = .ok (.start Method.pairSetup)) :
    world.answer suite j .pairSetup body = busyAnswer connection := by
  have mid := stranded.midSetup
  obtain ⟨lease, held⟩ := Hub.midSetup_iff.mp mid
  have unpaired : world.accessory.isPaired = false :=
    Accessory.isPaired_eq_false_iff.mpr (exclusive.unpaired i lease held)
  have unlocked : world.accessory.isLockedOut = false :=
    Accessory.isLockedOut_eq_false_iff.mpr (limited.below i lease held)
  refine (begins_or_busy found isOpen parsed exclusive backed unpaired unlocked).1.mpr
    ⟨i, ?_, mid⟩
  rintro rfl
  obtain ⟨other, there, isClosed, _⟩ := stranded
  rw [Option.mem_def.mp there] at found
  cases found
  rw [isOpen] at isClosed
  cases isClosed

/-- Dropping it sets the slot free. -/
theorem Stranded.free_of_drop (stranded : world.Stranded i) (suite : Suite)
    (exclusive : world.hub.Exclusive) :
    (world.step suite (.drop i)).accessory.setupInProgress = false := by
  obtain ⟨lease, held⟩ := Hub.midSetup_iff.mp stranded.midSetup
  obtain ⟨connection, found, _⟩ := stranded
  show (world.hub.drop i).accessory.setupInProgress = false
  simp only [Hub.drop, Option.mem_def.mp found]
  rw [Hub.lease?_of_find? found] at held
  rw [held]
  exact Accessory.setupInProgress_release
    (exclusive.own i lease ((Hub.lease?_of_find? found).trans held))

/-! ## Along runs -/

variable {slot : Nat} {config : Config} {identity : Identity} {store : Store}
  {accessory : Accessory}

/-- A connection is stranded exactly if it was closed while it was pairing and has not been
dropped since. -/
theorem stranded_run_iff (suite : Suite) (accessory : Accessory) (host : Host)
    (events : List Event) (i : Nat) :
    ((create accessory host).run suite events).Stranded i ↔
      History.Since
        (fun before event =>
          ((create accessory host).run suite before).ClosesPairing suite i event)
        (fun _ event => event = .drop i) events := by
  induction events using List.reverseRecOn with
  | nil =>
      refine iff_of_false ?_ History.not_since_nil
      rintro ⟨_, found, _⟩
      cases found
  | append_singleton events event ih =>
      rw [run_concat, History.since_concat, ← ih]
      exact stranded_step_iff

/-- For every accessory that is made and every run of it: a connection is stranded exactly
if it was closed while it was pairing and has not been dropped since. It was closed because
somebody wanted it so, or because a frame was refused. Until it is dropped, every open
connection that asks for a Pair-Setup is told that another one is under way, and then the
slot is free. -/
theorem stranded_iff (suite : Suite)
    (created : Accessory.create slot config identity store = .ok accessory) (host : Host)
    (events : List Event) (i : Nat) :
    let start := create accessory host
    let world := start.run suite events
    (world.Stranded i ↔
        History.Since (fun before event => (start.run suite before).ClosesPairing suite i event)
          (fun _ event => event = .drop i) events) ∧
      (∀ event, world.ClosesPairing suite i event →
        event = .close i ∨ ∃ data, event = .decrypt i data) ∧
      (world.Stranded i →
        (∀ j connection body, world.hub.find? j = some connection →
          connection.state.isClosed = false →
          SetupRequest.parse body = .ok (.start Method.pairSetup) →
          world.answer suite j .pairSetup body = busyAnswer connection) ∧
        (world.step suite (.drop i)).accessory.setupInProgress = false) := by
  intro start world
  have exclusive₀ : start.hub.Exclusive := .of_free fun _ => rfl
  have backed₀ : start.hub.Backed := .of_untaken (setupInProgress_of_create created)
  obtain ⟨limited, exclusive⟩ := limited_run suite (limited_create created host) exclusive₀ events
  have backed : world.hub.Backed := backed_run suite exclusive₀ backed₀ events
  refine ⟨stranded_run_iff suite accessory host events i,
    fun event => event_of_closesPairing exclusive, fun stranded => ⟨?_, ?_⟩⟩
  · intro j connection body found isOpen parsed
    exact stranded.answer_busy suite limited exclusive backed found isOpen parsed
  · exact stranded.free_of_drop suite exclusive

/-- Two connections are verified for one controller. Over the second one it takes itself
out, so the first one may pair again; it begins, and then brings a frame that is refused. -/
def brokenOff : List Event :=
  [.connect, .connect, .connect] ++ Event.pairing 0 "C" Block.zero ++
    Event.verification 0 "C" ++ Event.verification 1 "C" ++
    [Event.management 1 (.remove "C"), .setupStart 0, .decrypt 0 [255, 255]]

/-- A first request. -/
def firstRequest : Bytes :=
  Tlv.encode [Tlv.stateField 1, Tlv.methodField Method.pairSetup]

/-- It is stranded then, the third connection is told that somebody is pairing, and the slot
is free as soon as the first one is dropped. -/
theorem stranded_brokenOff :
    let world := (create .lamp .quiet).run .transparent brokenOff
    Accessory.create 0 Accessory.lamp.config Accessory.lamp.identity Accessory.lamp.store =
        .ok .lamp ∧
      History.Since
        (fun before event =>
          ((create .lamp .quiet).run .transparent before).ClosesPairing .transparent 0 event)
        (fun _ event => event = .drop 0) brokenOff ∧
      world.answer .transparent 2 .pairSetup firstRequest = busyAnswer Connection.create ∧
      (world.step .transparent (.drop 0)).accessory.setupInProgress = false := by
  intro world
  have created : Accessory.create 0 Accessory.lamp.config Accessory.lamp.identity
      Accessory.lamp.store = .ok .lamp := rfl
  obtain ⟨since, _, busy⟩ := stranded_iff .transparent created .quiet brokenOff 0
  have stranded : world.Stranded 0 := by decide +kernel
  have third : world.hub.find? 2 = some Connection.create := by decide +kernel
  have parsed : SetupRequest.parse firstRequest = .ok (.start Method.pairSetup) := by
    decide +kernel
  obtain ⟨answers, free⟩ := busy stranded
  exact ⟨created, since.mp stranded, answers 2 _ _ third rfl parsed, free⟩

/-- So there are runs in which nobody but a closed connection is pairing, and a first request
is told all the same that another one is. -/
theorem exists_busy_after_close :
    ¬ ∀ (suite : Suite) (slot : Nat) (config : Config) (identity : Identity) (store : Store)
      (accessory : Accessory) (host : Host) (events : List Event) (i j : Nat)
      (closed connection : Connection) (body : Bytes),
      Accessory.create slot config identity store = .ok accessory →
      let world := (create accessory host).run suite events
      world.hub.find? i = some closed → closed.state.isClosed = true →
      world.hub.find? j = some connection → connection.state.isClosed = false →
      (∀ k, world.hub.MidSetup k → k = i) →
      SetupRequest.parse body = .ok (.start Method.pairSetup) →
      world.answer suite j .pairSetup body ≠ busyAnswer connection := by
  intro never
  let events : List Event := [.connect, .connect, .setupStart 0, .close 0]
  let world := (create .lamp .quiet).run .transparent events
  have stranded : world.Stranded 0 := by decide +kernel
  have exclusive : world.hub.Exclusive := exclusive_run .transparent .lamp .quiet events
  obtain ⟨closed, found, isClosed, _⟩ := id stranded
  have second : world.hub.find? 1 = some Connection.create := by decide +kernel
  have parsed : SetupRequest.parse firstRequest = .ok (.start Method.pairSetup) := by
    decide +kernel
  refine never .transparent 0 Accessory.lamp.config Accessory.lamp.identity
    Accessory.lamp.store .lamp .quiet events 0 1 closed Connection.create firstRequest rfl found
    isClosed second rfl (fun k mid => exclusive.eq_of_midSetup mid stranded.midSetup) parsed ?_
  decide +kernel

end World

end HomePairing
