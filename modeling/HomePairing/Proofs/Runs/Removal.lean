import HomePairing.Proofs.Runs.Records
import HomePairing.Proofs.Runs.Stranding
import HomePairing.Proofs.Session.Numbering
import HomePairing.Proofs.Session.Stream
import HomePairing.Proofs.Store.Cascade
import HomePairing.Proofs.Tlv.RoundTrip

/-!
# Removals over a connection

An admin asks over its own connection for a controller to be taken out, and the store saves
it (`World.Removal`). The check that the requester is an admin is made just before, on the
same records. So while somebody else is taken out the requester is an admin beside it:
nobody follows, and the connection stays (`Removal.step_of_ne`). Only whoever takes itself
out can take everybody along, and only then the connection is closed. It keeps its session,
for the reply that is still to be sent (`Removal.step_of_self`).
-/

namespace HomePairing

/-! ## The request -/

namespace Management

/-- A removal that an admin asks for and the store saves. -/
theorem handle_remove {accessory : Accessory} {requester : Option String} {body : Bytes}
    {host : Host} {id : String} (admin : isAdmin accessory.store requester = true)
    (parsed : PairingsRequest.parse body = .ok (.remove id))
    (saved : (accessory.store.removeCascading host.disk id).result.isOk = true) :
    handle accessory host requester body =
      { accessory := accessory.withRegistry (accessory.registry.eraseCascading id).2
        host := { host with disk := (accessory.store.removeCascading host.disk id).disk }
        answer := ⟨doneReply, (accessory.registry.eraseCascading id).1⟩ } := by
  rcases accessory.store.removeCascading_cases host.disk id with ⟨done, after⟩ | ⟨e, failed, _⟩
  · simp only [handle, attempt_of_admin host admin parsed, perform, Accessory.changeStore, done,
      after]
    rfl
  · rw [failed] at saved
    cases saved

theorem decode_doneReply :
    Tlv.decode doneReply = .ok (.ofFields [Tlv.stateField 2]) :=
  Tlv.decode_encode_of_distinct (by simp)

end Management

namespace Connection

/-- Whether a connection is open or closed makes no difference to what it encrypts. -/
theorem encrypt_withState (suite : Suite) (connection : Connection) (state : ConnectionState)
    (text : Bytes) :
    { connection with state }.encrypt suite text =
      ({ (connection.encrypt suite text).1 with state }, (connection.encrypt suite text).2) := by
  obtain ⟨_, _, session, _, _⟩ := connection
  cases session with
  | none => rfl
  | some session => rfl

/-- With a number left there is a frame for a reply to a removal. -/
theorem encrypt_doneReply (suite : Suite) {connection : Connection} {session : Session}
    (held : connection.session = some session) (healthy : session.poisoned = false)
    (numbered : session.outboundCounter < Session.counterEnd) :
    (connection.encrypt suite Management.doneReply).2 =
      .ok (Session.stream suite session.writeKey session.outboundCounter
        (Session.chunks Management.doneReply)) := by
  have one : (Session.chunks Management.doneReply).length = 1 := by
    rw [Session.length_chunks]
    decide +kernel
  have room : session.outboundCounter + (Session.chunks Management.doneReply).length ≤
      Session.counterEnd := by omega
  simp only [encrypt, held, Session.encrypt_of_numbered suite healthy room]
  rfl

end Connection

namespace World

variable {suite : Suite} {world : World}

/-! ## Connections of a run -/

/-- The session and the controller of every connection go with its state. -/
def Consistent (world : World) : Prop :=
  ∀ i connection, world.hub.find? i = some connection → connection.Consistent

theorem consistent_create (accessory : Accessory) (host : Host) :
    (create accessory host).Consistent := by
  intro i connection found
  cases found

theorem Consistent.step (consistent : world.Consistent) (event : Event) :
    (world.step suite event).Consistent := by
  intro i next after
  cases found : world.hub.find? i with
  | none =>
      rw [eq_create_of_find?_step found after]
      exact Connection.consistent_create
  | some connection =>
      obtain ⟨call, effect⟩ := exists_effect_of_step found after
      exact effect.consistent (consistent i connection found)

theorem consistent_run (suite : Suite) (accessory : Accessory) (host : Host)
    (events : List Event) : ((create accessory host).run suite events).Consistent :=
  run_invariant (fun _ event consistent => consistent.step event)
    (consistent_create accessory host) events

/-! ## One removal -/

/-- Over an open connection its controller, which is an admin at this moment, asks for the
removal of `id`, and the store saves that. -/
structure Removal (world : World) (i : Nat) (connection : Connection) (requester id : String)
    (body : Bytes) : Prop where
  found : world.hub.find? i = some connection
  isOpen : connection.state.isClosed = false
  verified : connection.controllerId? = some requester
  admin : ∃ record, world.registry.find? requester = some record ∧
    record.permissions = .admin
  asked : PairingsRequest.parse body = .ok (.remove id)
  saved : (world.accessory.store.removeCascading world.host.disk id).result.isOk = true

namespace Removal

variable {i : Nat} {connection : Connection} {requester id : String} {body : Bytes}

/-- What the connection makes of the request. -/
theorem handlePairings (removal : world.Removal i connection requester id body)
    (filed : world.registry.WellFiled) :
    connection.handlePairings world.accessory world.host body =
      { connection := connection.closeWhen (decide (id = requester))
        accessory :=
          world.accessory.withRegistry (world.registry.eraseCascading id).2
        host := { world.host with
          disk := (world.accessory.store.removeCascading world.host.disk id).disk }
        answer := ⟨Management.doneReply, connection.isEncrypted, decide (id = requester)⟩ } := by
  obtain ⟨record, known, admin⟩ := removal.admin
  have admitted : Management.isAdmin world.accessory.store connection.controllerId? = true :=
    Management.isAdmin_iff.mpr ⟨requester, record, removal.verified, known, admin⟩
  -- The requester is an admin, so it goes only if it is the one to go.
  have own : connection.isAmong (world.registry.eraseCascading id).1 =
      decide (id = requester) := by
    rw [Bool.eq_iff_iff, Connection.isAmong_iff_mem removal.verified, decide_eq_true_iff]
    exact (Registry.cascaded_eraseCascading filed id).mem_iff_of_admin known admin
  have handled := Management.handle_remove admitted removal.asked removal.saved
  simp only [Connection.handlePairings, handled]
  rw [← own]
  rfl

theorem answer (suite : Suite) (removal : world.Removal i connection requester id body)
    (filed : world.registry.WellFiled) :
    world.answer suite i .pairings body =
      some (.ok ⟨Management.doneReply, connection.isEncrypted, decide (id = requester)⟩) := by
  rw [world.answer_eq suite removal.found, handle_of_open suite removal.isOpen]
  simp only [removal.handlePairings filed]

theorem registry_step (suite : Suite) (removal : world.Removal i connection requester id body)
    (filed : world.registry.WellFiled) :
    (world.step suite (.request i .pairings body)).registry =
      (world.registry.eraseCascading id).2 := by
  have handled := removal.handlePairings filed
  simp only [step, Hub.handle, removal.found, handle_of_open suite removal.isOpen]
  show (connection.handlePairings world.accessory world.host body).accessory.registry = _
  rw [handled, Accessory.registry_withRegistry]

theorem find?_step (suite : Suite) (removal : world.Removal i connection requester id body)
    (filed : world.registry.WellFiled) :
    (world.step suite (.request i .pairings body)).hub.find? i =
      some (connection.closeWhen (decide (id = requester))) := by
  rw [find?_step_of_call suite world i rfl, if_pos rfl, removal.found, Option.map_some,
    Connection.after, handle_of_open suite removal.isOpen]
  simp only [removal.handlePairings filed]

/-- Taking out somebody else takes out that one only, and leaves the connection as it was. -/
theorem step_of_ne (suite : Suite) (removal : world.Removal i connection requester id body)
    (filed : world.registry.WellFiled) (apart : id ≠ requester) :
    let after := world.step suite (.request i .pairings body)
    (∀ other, after.registry.find? other =
        if other = id then none else world.registry.find? other) ∧
      after.hub.find? i = some connection := by
  intro after
  obtain ⟨record, known, admin⟩ := removal.admin
  constructor
  · intro other
    rw [removal.registry_step suite filed]
    exact (Registry.cascaded_eraseCascading filed id).find?_of_admin apart.symm known admin other
  · rw [removal.find?_step suite filed, decide_eq_false apart]
    rfl

/-- Whoever takes itself out takes everybody along if no other admin is left, and loses its
connection. -/
theorem step_of_self (suite : Suite)
    (removal : world.Removal i connection requester requester body)
    (filed : world.registry.WellFiled) :
    let after := world.step suite (.request i .pairings body)
    (world.registry.AdminBeside requester → ∀ other, after.registry.find? other =
        if other = requester then none else world.registry.find? other) ∧
      (¬ world.registry.AdminBeside requester → after.registry = .empty) ∧
      after.hub.find? i = some { connection with state := .closed .pairingRemoved } := by
  intro after
  have cascaded := Registry.cascaded_eraseCascading filed requester
  rw [← removal.registry_step suite filed] at cascaded
  refine ⟨cascaded.kept, cascaded.swept, ?_⟩
  rw [removal.find?_step suite filed, decide_eq_true rfl]
  rfl

/-- A verified controller has a session, and on an open connection it is whole. -/
theorem exists_session (removal : world.Removal i connection requester id body)
    (consistent : world.Consistent) :
    ∃ session, connection.session = some session ∧ session.poisoned = false := by
  have settled := consistent i connection removal.found
  have known : connection.controller.isSome = true := by
    have verified := removal.verified
    rw [Connection.controllerId?, Option.map_eq_some_iff] at verified
    obtain ⟨record, present, _⟩ := verified
    rw [present]
    rfl
  obtain ⟨session, held⟩ := settled.session_of_controller removal.isOpen known
  exact ⟨session, held, (settled.encrypted_of_session removal.isOpen held).2.1⟩

end Removal

/-- **Removals.** After any run that began with records under their own identifiers, a removal
that an admin asks for over its connection and the store saves is answered with the second
step and no error. If it is somebody else's, exactly that record goes, if there is one, and
the connection stays open as it was. If it is the admin's own, exactly that record goes where
another admin is left, and every record where none is; the connection is to be closed and is,
but the reply still goes through its session as it would have gone before. No other
connection is touched. -/
theorem removal_over_connection (suite : Suite) {accessory : Accessory}
    (filed : accessory.registry.WellFiled) (host : Host) (events : List Event) {i : Nat}
    {connection : Connection} {requester id : String} {body : Bytes}
    (removal :
      ((create accessory host).run suite events).Removal i connection requester id body) :
    let world := (create accessory host).run suite events
    let after := world.step suite (.request i .pairings body)
    let closed := { connection with state := .closed .pairingRemoved }
    ∃ reply session,
      world.answer suite i .pairings body = some (.ok reply) ∧
      Tlv.decode reply.body = .ok (.ofFields [Tlv.stateField 2]) ∧
      reply.encrypt = true ∧
      reply.closeAfter = decide (id = requester) ∧
      (id ≠ requester →
        (∀ other, after.registry.find? other =
          if other = id then none else world.registry.find? other) ∧
        after.hub.find? i = some connection) ∧
      (id = requester →
        (world.registry.AdminBeside requester → ∀ other, after.registry.find? other =
          if other = requester then none else world.registry.find? other) ∧
        (¬ world.registry.AdminBeside requester → after.registry = .empty) ∧
        after.hub.find? i = some closed ∧
        closed.session = some session ∧
        (closed.encrypt suite reply.body).2 = (connection.encrypt suite reply.body).2 ∧
        (session.outboundCounter < Session.counterEnd →
          (closed.encrypt suite reply.body).2 =
            .ok (Session.stream suite session.writeKey session.outboundCounter
              (Session.chunks reply.body)))) ∧
      ∀ j, j ≠ i → after.hub.find? j = world.hub.find? j := by
  intro world after closed
  have start : (create accessory host).registry.WellFiled := filed
  have kept : world.registry.WellFiled := wellFiled_run suite start events
  obtain ⟨session, held, healthy⟩ :=
    removal.exists_session (consistent_run suite accessory host events)
  have encrypted : connection.isEncrypted = true := by
    rw [Connection.isEncrypted, held]
    rfl
  refine ⟨_, session, removal.answer suite kept, Management.decode_doneReply, encrypted, rfl,
    removal.step_of_ne suite kept, ?_, ?_⟩
  · rintro rfl
    obtain ⟨one, all, found⟩ := removal.step_of_self suite kept
    refine ⟨one, all, found, held, ?_, fun numbered => ?_⟩
    · rw [Connection.encrypt_withState]
    · rw [Connection.encrypt_withState]
      exact Connection.encrypt_doneReply suite held healthy numbered
  · intro j apart
    rw [find?_step_of_call suite world j rfl, if_neg apart]

/-- A controller has paired and verified over the first of two connections, and has added a
plain user. -/
def household : List Event :=
  [.connect, .connect] ++ Event.pairing 0 "CC:01" Block.zero ++
    Event.verification 0 "CC:01" ++ [Event.management 0 (.add "CC:02" Block.zero .user)]

/-- It takes itself out, and the user goes with it. -/
theorem removal_over_connection_last :
    let world := (create .lamp .quiet).run .transparent household
    let body := (PairingsRequest.remove "CC:01").encode
    let after := world.step .transparent (.request 0 .pairings body)
    Accessory.lamp.registry.WellFiled ∧
      ∃ connection reply, world.Removal 0 connection "CC:01" "CC:01" body ∧
        world.registry.ids = ["CC:01", "CC:02"] ∧
        world.answer .transparent 0 .pairings body = some (.ok reply) ∧
        Tlv.decode reply.body = .ok (.ofFields [Tlv.stateField 2]) ∧
        reply.closeAfter = true ∧ after.registry = .empty ∧
        after.hub.find? 0 = some { connection with state := .closed .pairingRemoved } ∧
        after.hub.find? 1 = world.hub.find? 1 := by
  intro world body after
  have filed : Accessory.lamp.registry.WellFiled := Registry.wellFiled_empty
  have there : (world.hub.find? 0).isSome = true := by decide +kernel
  obtain ⟨connection, found⟩ := Option.isSome_iff_exists.mp there
  have standing : (world.hub.find? 0).all (fun connection => !connection.state.isClosed &&
      decide (connection.controllerId? = some "CC:01")) = true := by decide +kernel
  rw [found, Option.all_some, Bool.and_eq_true, Bool.not_eq_true', decide_eq_true_iff] at standing
  have listed : world.registry.ids = ["CC:01", "CC:02"] := by decide +kernel
  have removal : world.Removal 0 connection "CC:01" "CC:01" body :=
    { found := found
      isOpen := standing.1
      verified := standing.2
      admin := ⟨⟨"AA:BB:CC:DD:EE:FF", "CC:01", Block.zero, .admin⟩, by decide +kernel, rfl⟩
      asked := by decide +kernel
      saved := by decide +kernel }
  have alone : ¬ world.registry.AdminBeside "CC:01" := by
    rw [← Registry.hasAdmin_erase_iff]
    decide +kernel
  obtain ⟨reply, _, answered, read, _, closes, _, own, others⟩ :=
    removal_over_connection .transparent filed .quiet household removal
  obtain ⟨_, swept, closed, _⟩ := own rfl
  exact ⟨filed, connection, reply, removal, listed, answered, read, closes, swept alone, closed,
    others 1 (by decide)⟩

end World

end HomePairing
