import HomePairing.Connection

/-!
# An accessory and its connections

All the connections to one accessory, numbered in the order in which they were
opened. They take turns, a whole request at a time (`Hub.handle`). A connection that is
dropped leaves its number unused and gives back the right to run Pair-Setup if it
holds it; a closed one stays until it is dropped.
-/

namespace HomePairing

/-- An accessory and the connections to it. -/
structure Hub where
  accessory : Accessory
  /-- The connections by number; a dropped one has left a gap. -/
  connections : List (Option Connection)
deriving DecidableEq

namespace Hub

def create (accessory : Accessory) : Hub :=
  ⟨accessory, []⟩

def find? (hub : Hub) (i : Nat) : Option Connection :=
  hub.connections[i]?.join

def set (hub : Hub) (i : Nat) (connection : Option Connection) : Hub :=
  { hub with connections := hub.connections.set i connection }

/-- Put back a connection and the accessory as a request has left them. -/
def put (hub : Hub) (i : Nat) (connection : Connection) (accessory : Accessory) : Hub :=
  { hub.set i (some connection) with accessory }

/-- Open a connection. It gets the next number. -/
def connect (hub : Hub) : Nat × Hub :=
  (hub.connections.length,
    { hub with connections := hub.connections ++ [some Connection.create] })

def drop (hub : Hub) (i : Nat) : Hub :=
  match hub.find? i with
  | none => hub
  | some connection =>
    let hub := hub.set i none
    { hub with accessory := hub.accessory.releaseAll connection.setup.lease? }

variable (suite : Suite)

/-- Pass a request on to a connection, if there is one with this number. A request is one step
that nothing comes in between: what it has checked still holds when it acts on it. An accessory
that serves its connections at the same time, so that one request acts between a check of
another and the change that was checked for, is outside of this. -/
def handle (hub : Hub) (host : Host) (i : Nat) (endpoint : Endpoint) (body : Bytes) :
    Hub × Host × Option (Except ConnectionError ConnectionReply) :=
  match hub.find? i with
  | none => (hub, host, none)
  | some connection =>
    let outcome := connection.handle suite hub.accessory host endpoint body
    (hub.put i outcome.connection outcome.accessory, outcome.host, some outcome.answer)

def close (hub : Hub) (i : Nat) : Hub :=
  match hub.find? i with
  | none => hub
  | some connection => hub.set i (some connection.close)

end Hub

end HomePairing
