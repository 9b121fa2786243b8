import HomePairing.Controller

/-!
# Whole exchanges

A controller that runs a handshake or sends an encrypted request over one
connection, from the first message to the last. The exchange ends at the first
failure on either side.
-/

namespace HomePairing

/-- A controller, a connection of its, the accessory at the other end, and the
host of both. -/
structure Dialogue where
  controller : Controller
  connection : Connection
  accessory : Accessory
  host : Host

namespace Dialogue

variable (suite : Suite)

/-- Send a request in clear. -/
def ask (d : Dialogue) (endpoint : Endpoint) (body : Bytes) :
    Dialogue × Except ServiceError Bytes :=
  let outcome := d.connection.handle suite d.accessory d.host endpoint body
  let d :=
    { d with
      connection := outcome.connection
      accessory := outcome.accessory
      host := outcome.host }
  match outcome.answer with
  | .ok reply => (d, .ok reply.body)
  | .error e => (d, .error (.connection e))

def setupProve (d : Dialogue) (body : Bytes) (code : String) :
    Dialogue × Except ServiceError Bytes :=
  let ((controller, result), entropy) := d.controller.setupProve suite body code d.host.entropy
  ({ d with controller, host := { d.host with entropy } }, result.mapError .pairing)

def setupExchange (d : Dialogue) (body : Bytes) : Dialogue × Except ServiceError Bytes :=
  let (controller, result) := d.controller.setupExchange suite body
  ({ d with controller }, result.mapError .pairing)

def setupFinish (d : Dialogue) (body : Bytes) : Dialogue × Except ServiceError Unit :=
  let (controller, result) := d.controller.setupFinish suite body
  ({ d with controller }, result.mapError .pairing)

/-- Run all of Pair-Setup. -/
def pair (d : Dialogue) (code : String) : Dialogue × Except ServiceError Unit :=
  let (controller, first) := d.controller.setupStart
  match ({ d with controller } : Dialogue).ask suite .pairSetup first with
  | (d, .error e) => (d, .error e)
  | (d, .ok second) =>
    match d.setupProve suite second code with
    | (d, .error e) => (d, .error e)
    | (d, .ok third) =>
      match d.ask suite .pairSetup third with
      | (d, .error e) => (d, .error e)
      | (d, .ok fourth) =>
        match d.setupExchange suite fourth with
        | (d, .error e) => (d, .error e)
        | (d, .ok fifth) =>
          match d.ask suite .pairSetup fifth with
          | (d, .error e) => (d, .error e)
          | (d, .ok sixth) => d.setupFinish suite sixth

def verifyProve (d : Dialogue) (body : Bytes) : Dialogue × Except ServiceError Bytes :=
  let (controller, result) := d.controller.verifyProve suite body
  ({ d with controller }, result.mapError .pairing)

def verifyFinish (d : Dialogue) (body : Bytes) : Dialogue × Except ServiceError Session :=
  let (controller, result) := d.controller.verifyFinish body
  ({ d with controller }, result)

/-- Run all of Pair-Verify. The result is the controller's end of the session. -/
def verify (d : Dialogue) : Dialogue × Except ServiceError Session :=
  let ((controller, first), entropy) := d.controller.verifyStart suite d.host.entropy
  let d := { d with controller, host := { d.host with entropy } }
  match d.ask suite .pairVerify first with
  | (d, .error e) => (d, .error e)
  | (d, .ok second) =>
    match d.verifyProve suite second with
    | (d, .error e) => (d, .error e)
    | (d, .ok third) =>
      match d.ask suite .pairVerify third with
      | (d, .error e) => (d, .error e)
      | (d, .ok fourth) => d.verifyFinish fourth

end Dialogue

/-! ## Encrypted requests -/

/-- What an encrypted request leaves behind, and the reply as the controller
reads it. -/
structure RequestOutcome where
  session : Session
  connection : Connection
  accessory : Accessory
  host : Host
  answer : Except ServiceError Bytes

namespace Session

variable (suite : Suite)

/-- Read a reply at the controller's end. -/
def receive (session : Session) (host : Host) (wire : Bytes) :
    Session × Host × Except ServiceError Bytes :=
  let fed := session.feed wire
  let (after, result) := fed.decryptAll suite
  (after, { host with log := host.log ++ Session.warnings fed after result },
    result.mapError .session)

/-- Put the reply on the wire, through the connection's session if it has to go
that way. -/
def reply (connection : Connection) (reply : ConnectionReply) :
    Connection × Except ServiceError Bytes :=
  if reply.encrypt then
    let (connection, wire) := connection.encrypt suite reply.body
    (connection, wire.mapError .connection)
  else
    (connection, .ok reply.body)

/-- Send a request through the session and read the reply. -/
def request (session : Session) (connection : Connection) (accessory : Accessory) (host : Host)
    (endpoint : Endpoint) (body : Bytes) : RequestOutcome :=
  let (session, sent) := session.encrypt suite body
  match sent with
  | .error e => { session, connection, accessory, host, answer := .error (.session e) }
  | .ok wire =>
    let (received, text) := connection.decrypt suite wire
    let host := { host with log := host.log ++ Connection.warnings connection received text }
    match text with
    | .error e =>
      { session, connection := received, accessory, host, answer := .error (.connection e) }
    | .ok text =>
      let outcome := received.handle suite accessory host endpoint text
      match outcome.answer with
      | .error e =>
        { session
          connection := outcome.connection
          accessory := outcome.accessory
          host := outcome.host
          answer := .error (.connection e) }
      | .ok answer =>
        let (connection, wire) := reply suite outcome.connection answer
        match wire with
        | .error e =>
          { session
            connection := connection
            accessory := outcome.accessory
            host := outcome.host
            answer := .error e }
        | .ok wire =>
          let (session, host, answer) := session.receive suite outcome.host wire
          { session, connection, accessory := outcome.accessory, host, answer }

end Session

end HomePairing
