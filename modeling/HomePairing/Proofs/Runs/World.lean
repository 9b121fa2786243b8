import HomePairing.Hub
import HomePairing.Proofs.Requests.Management
import Mathlib.Data.List.Induction

/-!
# Runs of an accessory

A `World` is an accessory with its connections and the machine it runs on; an `Event`
is anything that can happen to it, in any order and on any connection, one after another.
`World.run` is what a list of events makes of a world.

At the end stands a suite that hides nothing, with the requests that controllers send
under it. It makes runs that can be computed.
-/

namespace HomePairing

/-! ## Connections by number -/

namespace Hub

theorem lt_of_find? {hub : Hub} {i : Nat} {connection : Connection}
    (h : hub.find? i = some connection) : i < hub.connections.length := by
  unfold find? at h
  by_contra beyond
  rw [List.getElem?_eq_none (Nat.le_of_not_lt beyond)] at h
  cases h

theorem find?_set {hub : Hub} {i : Nat} (inside : i < hub.connections.length)
    (connection : Option Connection) (j : Nat) :
    (hub.set i connection).find? j = if j = i then connection else hub.find? j := by
  by_cases same : j = i
  · subst same
    simp [set, find?, List.getElem?_set_self inside]
  · rw [if_neg same]
    simp only [set, find?, List.getElem?_set_ne (Ne.symm same)]

@[simp] theorem length_set (hub : Hub) (i : Nat) (connection : Option Connection) :
    (hub.set i connection).connections.length = hub.connections.length :=
  List.length_set

@[simp] theorem accessory_put (hub : Hub) (i : Nat) (connection : Connection)
    (accessory : Accessory) : (hub.put i connection accessory).accessory = accessory := rfl

/-! ### What can be seen of a connection

A connection's stage, lease and controller are read off in the same way, and stay or
change in the same way when the connection is put back.
-/

/-- Something that can be seen of the connection with a number. -/
def view {View : Type} (hub : Hub) (see : Connection → Option View) (i : Nat) : Option View :=
  (hub.find? i).bind see

variable {View : Type} {see : Connection → Option View} {hub : Hub} {i : Nat}
  {before : Connection}

theorem view_of_find? (found : hub.find? i = some before) : hub.view see i = see before := by
  simp [view, found]

theorem view_set (found : hub.find? i = some before) (connection : Option Connection)
    (j : Nat) :
    (hub.set i connection).view see j = if j = i then connection.bind see else hub.view see j := by
  unfold view
  rw [find?_set (lt_of_find? found)]
  split <;> rfl

theorem view_put (found : hub.find? i = some before) (connection : Connection)
    (accessory : Accessory) (j : Nat) :
    (hub.put i connection accessory).view see j =
      if j = i then see connection else hub.view see j :=
  view_set found (some connection) j

/-- What looks the same in one connection looks the same in all of them. -/
theorem view_set_same {connection : Connection} (found : hub.find? i = some before)
    (same : see connection = see before) (j : Nat) :
    (hub.set i (some connection)).view see j = hub.view see j := by
  rw [view_set found]
  split
  · next here =>
      rw [here, view_of_find? found]
      exact same
  · rfl

theorem view_put_same {connection : Connection} {accessory : Accessory}
    (found : hub.find? i = some before) (same : see connection = see before) (j : Nat) :
    (hub.put i connection accessory).view see j = hub.view see j :=
  view_set_same found same j

/-- What a connection that was put back shows was there before, if that one showed it. -/
theorem view_of_set {connection : Connection} {value : View} (found : hub.find? i = some before)
    {j : Nat} (shown : (hub.set i (some connection)).view see j = some value)
    (same : see connection = some value → see before = some value) :
    hub.view see j = some value := by
  rw [view_set found] at shown
  split at shown
  · next here =>
      rw [here, view_of_find? found]
      exact same shown
  · exact shown

theorem view_connect (j : Nat) :
    hub.connect.2.view see j =
      if j = hub.connections.length then see Connection.create else hub.view see j := by
  have appended : hub.connect.2.find? j =
      (hub.connections ++ [some Connection.create])[j]?.join := rfl
  unfold view
  rw [appended]
  -- Below the new number nothing has changed, and above it there is still nothing.
  rcases Nat.lt_trichotomy j hub.connections.length with old | new | beyond
  · rw [List.getElem?_append_left old, if_neg (Nat.ne_of_lt old)]
    rfl
  · subst new
    simp
  · rw [List.getElem?_append_right (by omega), List.getElem?_eq_none (by simp; omega),
      if_neg (Nat.ne_of_gt beyond)]
    simp [find?, List.getElem?_eq_none (Nat.le_of_lt beyond)]

/-- What a new connection does not have is had by the same connections as before. -/
theorem view_connect_blank (blank : see Connection.create = none) (j : Nat) :
    hub.connect.2.view see j = hub.view see j := by
  rw [view_connect]
  split
  · next new =>
      rw [blank, new]
      simp [view, find?]
  · rfl

theorem put_self {connection : Connection} (found : hub.find? i = some connection) :
    hub.put i connection hub.accessory = hub := by
  have there : hub.connections[i]? = some (some connection) := by
    unfold find? at found
    cases entry : hub.connections[i]? with
    | none => rw [entry] at found; cases found
    | some slot => rw [entry] at found; exact congrArg some found
  obtain ⟨accessory, connections⟩ := hub
  simp only [put, set, Hub.mk.injEq, true_and]
  -- The connections agree entry by entry; only the one with this number was written.
  refine List.ext_getElem? fun j => ?_
  rw [List.getElem?_set]
  by_cases same : i = j
  · subst same
    obtain ⟨inside, _⟩ := List.getElem?_eq_some_iff.mp there
    rw [if_pos rfl, if_pos inside]
    exact there.symm
  · rw [if_neg same]

variable (suite : Suite)

def encrypt (hub : Hub) (i : Nat) (text : Bytes) : Hub :=
  match hub.find? i with
  | none => hub
  | some connection => hub.set i (some (connection.encrypt suite text).1)

/-- Decrypt bytes from a connection. The warnings that are due come with it. -/
def decrypt (hub : Hub) (i : Nat) (data : Bytes) : Hub × Log :=
  match hub.find? i with
  | none => (hub, [])
  | some connection =>
    let (after, result) := connection.decrypt suite data
    (hub.set i (some after), connection.warnings after result)

end Hub

/-! ## Worlds and events -/

/-- An accessory with its connections, and the machine it runs on. -/
structure World where
  hub : Hub
  host : Host

/-- Something that can happen to an accessory. -/
inductive Event where
  | connect
  | drop (i : Nat)
  | close (i : Nat)
  | request (i : Nat) (endpoint : Endpoint) (body : Bytes)
  | encrypt (i : Nat) (text : Bytes)
  | decrypt (i : Nat) (data : Bytes)
  /-- Somebody else uses the machine: this is what comes of it. -/
  | machine (host : Host)

namespace World

variable (suite : Suite)

/-- An accessory that nobody is connected to. -/
def create (accessory : Accessory) (host : Host) : World :=
  ⟨Hub.create accessory, host⟩

def accessory (world : World) : Accessory :=
  world.hub.accessory

def registry (world : World) : Registry :=
  world.accessory.registry

/-- The controller that a connection is verified for. -/
def verifiedAs (world : World) (i : Nat) : Option PairingRecord :=
  world.hub.view (·.controller) i

theorem verifiedAs_of_find? {world : World} {i : Nat} {connection : Connection}
    (found : world.hub.find? i = some connection) :
    world.verifiedAs i = connection.controller :=
  Hub.view_of_find? found

def answer (world : World) (i : Nat) (endpoint : Endpoint) (body : Bytes) :
    Option (Except ConnectionError ConnectionReply) :=
  (world.hub.handle suite world.host i endpoint body).2.2

/-- The request is carried out: it is answered, and not by a refusal. -/
def Serves (world : World) (i : Nat) (endpoint : Endpoint) (body : Bytes) : Prop :=
  ∃ reply, world.answer suite i endpoint body = some (.ok reply) ∧
    ¬ Pairing.IsRefusal reply.body

/-- What one event makes of a world. An event is a step that cannot be divided: a request is
read, checked, carried out and answered before the next event, on whatever connection that is
(`Hub.handle`). So these runs interleave whole requests, and not the parts of requests that are
handled at the same time. -/
def step (world : World) : Event → World
  | .connect => { world with hub := world.hub.connect.2 }
  | .drop i => { world with hub := world.hub.drop i }
  | .close i => { world with hub := world.hub.close i }
  | .request i endpoint body =>
    let (hub, host, _) := world.hub.handle suite world.host i endpoint body
    ⟨hub, host⟩
  | .encrypt i text => { world with hub := world.hub.encrypt suite i text }
  | .decrypt i data =>
    let (hub, log) := world.hub.decrypt suite i data
    ⟨hub, { world.host with log := world.host.log ++ log }⟩
  | .machine host => { world with host }

/-- What events, one after another, make of a world. -/
def run (world : World) (events : List Event) : World :=
  events.foldl (step suite) world

@[simp] theorem run_nil (world : World) : world.run suite [] = world := rfl

@[simp] theorem run_cons (world : World) (event : Event) (events : List Event) :
    world.run suite (event :: events) = (world.step suite event).run suite events := rfl

theorem run_append (world : World) (first second : List Event) :
    world.run suite (first ++ second) = (world.run suite first).run suite second :=
  List.foldl_append

@[simp] theorem run_concat (world : World) (events : List Event) (event : Event) :
    world.run suite (events ++ [event]) = (world.run suite events).step suite event := by
  rw [run_append]
  rfl

/-- What every event keeps holds along every run. -/
theorem run_invariant {suite : Suite} {Invariant : World → Prop}
    (kept : ∀ world event, Invariant world → Invariant (world.step suite event))
    {world : World} (start : Invariant world) (events : List Event) :
    Invariant (world.run suite events) := by
  induction events generalizing world with
  | nil => exact start
  | cons event events ih => exact ih (kept world event start)

end World

/-! ## A suite that hides nothing

With primitives that can be computed in no time a whole run can be, too. The statements
about runs hold for every suite; this one shows that they are about something.
-/

/-- Keys are all zero, sealing appends an empty tag, and every proof and signature
holds. -/
def Suite.transparent : Suite where
  srp := { modulus := 7, generator := 3, width := 1, hash := fun _ => [1] }
  derive _ _ := Block.zero
  encrypt _ _ _ text := text ++ List.replicate 16 0
  decrypt? _ _ _ sealed := some (sealed.take (sealed.length - 16))
  signingPublic seed := seed
  isSigningPublic _ := true
  sign _ _ := Block.zero
  verify _ _ _ := true
  agreementPublic secret := secret
  agree _ value := value

namespace Event

/-- A first Pair-Setup request. -/
def setupStart (i : Nat) : Event :=
  .request i .pairSetup (Tlv.encode [Tlv.stateField 1, Tlv.methodField Method.pairSetup])

/-- A proof under the transparent suite, where 1 is right and everything else wrong. -/
def setupProof (i : Nat) (proof : UInt8) : Event :=
  .request i .pairSetup
    (Tlv.encode [Tlv.stateField 3, (.publicKey, [2]), (.proof, [proof])])

/-- A controller's identity, as the transparent suite seals it. -/
def setupExchange (i : Nat) (id : String) (key : Key) : Event :=
  let payload : SetupPayload :=
    { id, publicKey := key, signature := (Block.zero : Signature).bytes }
  .request i .pairSetup (Tlv.encode [Tlv.stateField 5,
    (.encryptedData, Suite.transparent.sealMessage Block.zero .setup5 payload.encode)])

/-- What a controller sends to pair. -/
def pairing (i : Nat) (id : String) (key : Key) : List Event :=
  [setupStart i, setupProof i 1, setupExchange i id key]

/-- What a controller sends to verify. -/
def verification (i : Nat) (id : String) : List Event :=
  let payload : VerifyPayload := { id, signature := (Block.zero : Signature).bytes }
  [.request i .pairVerify
      (Tlv.encode [Tlv.stateField 1, (.publicKey, List.replicate 32 1)]),
    .request i .pairVerify (Tlv.encode [Tlv.stateField 3,
      (.encryptedData, Suite.transparent.sealMessage Block.zero .verify3 payload.encode)])]

/-- A request to manage pairings. -/
def management (i : Nat) (request : PairingsRequest) : Event :=
  .request i .pairings request.encode

end Event

/-- A lamp fresh from the factory: three guesses, room for four controllers. -/
def Accessory.lamp : Accessory where
  config := { name := "Lamp", setupCode := ⟨"031-45-154"⟩, maxSetupAttempts := 3, maxPairings := 4 }
  identity := ⟨"AA:BB:CC:DD:EE:FF", Block.zero⟩
  store := .inMemory 4
  failedAttempts := 0
  setupInProgress := false
  slot := 0

/-- A machine with nothing on its disk. -/
def Host.quiet : Host where
  entropy := ⟨fun _ => 1, 0⟩
  disk := .empty
  log := []

end HomePairing
