import HomePairing.Connection.Error
import HomePairing.Handshake.Setup
import HomePairing.Handshake.Verify
import HomePairing.Management
import HomePairing.Session

/-!
# Connections

A connection of a controller to an accessory. It runs both handshakes, keeps the
session once a controller is verified, and answers requests to manage pairings
in the name of that controller. The accessory and the host are shared with other
connections; they are handed in with every request.
-/

namespace HomePairing

/-- Where a request can be sent. -/
inductive Endpoint where
  | pairSetup
  | pairVerify
  | pairings
deriving DecidableEq, Repr

namespace Endpoint

def path : Endpoint → String
  | pairSetup => "/pair-setup"
  | pairVerify => "/pair-verify"
  | pairings => "/pairings"

def name : Endpoint → String
  | pairSetup => "PairSetup"
  | pairVerify => "PairVerify"
  | pairings => "Pairings"

def ofPath (path : String) : Except ConnectionError Endpoint :=
  match [pairSetup, pairVerify, pairings].find? fun endpoint => endpoint.path == path with
  | some endpoint => .ok endpoint
  | none => .error (.unknownEndpoint path)

@[simp] theorem ofPath_path (endpoint : Endpoint) : ofPath endpoint.path = .ok endpoint := by
  cases endpoint <;> rfl

end Endpoint

structure Connection where
  setup : SetupStage
  verify : VerifyStage
  /-- The session, once a controller is verified. -/
  session : Option Session
  /-- The record that the controller was verified with. -/
  controller : Option PairingRecord
  state : ConnectionState
deriving DecidableEq

structure ConnectionReply where
  body : Bytes
  /-- Whether the body goes through the session. -/
  encrypt : Bool
  /-- Whether the connection is to be closed once the body is sent. -/
  closeAfter : Bool
deriving DecidableEq

/-- What a request leaves behind, and its answer. -/
structure ConnectionOutcome (Answer : Type) where
  connection : Connection
  accessory : Accessory
  host : Host
  answer : Answer

namespace Connection

def create : Connection where
  setup := .awaitingStart
  verify := .awaitingStart
  session := none
  controller := none
  state := .plain

def isEncrypted (connection : Connection) : Bool :=
  connection.session.isSome

def controllerId? (connection : Connection) : Option String :=
  connection.controller.map (·.controllerId)

variable (suite : Suite)

/-! ## Requests -/

/-- Pair-Setup, which is open to everyone. -/
def handleSetup (connection : Connection) (accessory : Accessory) (host : Host) (body : Bytes) :
    ConnectionOutcome ConnectionReply :=
  let outcome := connection.setup.handle suite accessory host body
  { connection := { connection with setup := outcome.stage }
    accessory := outcome.accessory
    host := outcome.host
    answer := ⟨outcome.answer, connection.isEncrypted, false⟩ }

/-- Refuse Pair-Verify on a connection that is encrypted already. -/
def refuseVerify (connection : Connection) (accessory : Accessory) (host : Host)
    (body : Bytes) : ConnectionOutcome ConnectionReply :=
  let e := PairingError.sessionActive
  { connection := connection
    accessory := accessory
    host := host.warn (.verifyRefused accessory.pairingId e)
    answer := ⟨Pairing.errorReply (Pairing.replyState body) e.code, true, false⟩ }

/-- Pair-Verify. The reply to a verified controller still goes out in clear;
everything after it is encrypted. -/
def handleVerify (connection : Connection) (accessory : Accessory) (host : Host)
    (body : Bytes) : ConnectionOutcome ConnectionReply :=
  if connection.isEncrypted then
    connection.refuseVerify accessory host body
  else
    let outcome := connection.verify.handle suite accessory host body
    let connection := { connection with verify := outcome.stage }
    match outcome.answer with
    | .respond body =>
      { connection, accessory, host := outcome.host, answer := ⟨body, false, false⟩ }
    | .verified body controller keys =>
      { connection :=
          { connection with
            session := some (Session.accessory keys)
            controller := some controller
            state := .encrypted }
        accessory := accessory
        host := outcome.host
        answer := ⟨body, false, false⟩ }

/-- Whether the verified controller is one of those whose pairings went. -/
def isAmong (connection : Connection) (removed : List String) : Bool :=
  match connection.controllerId? with
  | some id => removed.contains id
  | none => false

/-- The connection after its own pairing went, if it did. -/
def closeWhen (connection : Connection) (gone : Bool) : Connection :=
  if gone then { connection with state := .closed .pairingRemoved } else connection

/-- Manage pairings in the name of the verified controller. If that controller's
own pairing goes, so does the connection. -/
def handlePairings (connection : Connection) (accessory : Accessory) (host : Host)
    (body : Bytes) : ConnectionOutcome ConnectionReply :=
  let outcome := Management.handle accessory host connection.controllerId? body
  let closeAfter := connection.isAmong outcome.answer.removed
  { connection := connection.closeWhen closeAfter
    accessory := outcome.accessory
    host := outcome.host
    answer := ⟨outcome.answer.body, connection.isEncrypted, closeAfter⟩ }

/-- Answer a request. Refusals are replies; only a closed connection fails. -/
def handle (connection : Connection) (accessory : Accessory) (host : Host)
    (endpoint : Endpoint) (body : Bytes) :
    ConnectionOutcome (Except ConnectionError ConnectionReply) :=
  match connection.state with
  | .closed reason => { connection, accessory, host, answer := .error (.closed reason) }
  | .plain | .encrypted =>
    let outcome :=
      match endpoint with
      | .pairSetup => connection.handleSetup suite accessory host body
      | .pairVerify => connection.handleVerify suite accessory host body
      | .pairings => connection.handlePairings accessory host body
    { outcome with answer := .ok outcome.answer }

/-! ## Bytes -/

/-- Encrypt outbound bytes. This still works on a closed connection that has kept
its session, so that the last reply can be sent. -/
def encrypt (connection : Connection) (text : Bytes) :
    Connection × Except ConnectionError Bytes :=
  match connection.session with
  | none => (connection, .error .notEncrypted)
  | some session =>
    let (session, result) := session.encrypt suite text
    ({ connection with session := some session }, result.mapError .session)

/-- Decrypt inbound bytes. A refused frame closes the connection. -/
def decrypt (connection : Connection) (data : Bytes) :
    Connection × Except ConnectionError Bytes :=
  match connection.state with
  | .closed reason => (connection, .error (.closed reason))
  | .plain | .encrypted =>
    match connection.session with
    | none => (connection, .error .notEncrypted)
    | some session =>
      match (session.feed data).decryptAll suite with
      | (session, .ok text) => ({ connection with session := some session }, .ok text)
      -- The poisoned session stays, so nothing can be sent through it either.
      | (session, .error e) =>
        ({ connection with session := some session, state := .closed .sessionFailure },
          .error (.session e))

/-- The warnings that are due after `decrypt` has turned one connection into the
other. -/
def warnings (before after : Connection) : Except ConnectionError Bytes → Log
  | .error (.session e) =>
    match before.session, after.session with
    | some before, some after => Session.warnings before after (.error e : Except _ Bytes)
    | _, _ => []
  | _ => []

def close (connection : Connection) : Connection :=
  { connection with session := none, state := .closed .requested }

def describe (connection : Connection) : String :=
  let controller :=
    match connection.controllerId? with
    | some id => "Some(" ++ Text.quote id ++ ")"
    | none => "None"
  "HapConnection \x7b state: " ++ connection.state.name ++ ", controller: " ++ controller ++
    ", setup: " ++ connection.setup.describe ++ ", verify: " ++ connection.verify.describe ++
    ", .. \x7d"

end Connection

end HomePairing
