import HomePairing.Accessory
import HomePairing.Pairing.Message

/-!
# Managing pairings

An admin adds, removes and lists the controllers of an accessory. Whether the
requester is an admin is asked of the store with every request, so one that has
been demoted or removed since it verified is refused.
-/

namespace HomePairing

inductive PairingsRequest where
  /-- Add a controller, or change the permissions of a known one. -/
  | add (id : String) (publicKey : Key) (permissions : Permissions)
  | remove (id : String)
  | list
deriving DecidableEq

/-- The permissions under which a controller is named in a message. The value has
to be one byte before anything else is looked at, and a known one in the end. -/
def requirePermissions (raw : UInt8) : Except PairingError Permissions :=
  match Permissions.ofByte? raw with
  | some permissions => .ok permissions
  | none => .error (.tlv (.invalidValue .permissions))

namespace PairingsRequest

/-- Read the controller that a message names. -/
def readController (message : Tlv.Message) :
    Except PairingError (String × Key × Permissions) := do
  let raw ← (message.requireByte .permissions).mapError .tlv
  let id ← message.requireIdentifier.mapError .tlv
  let publicKey ← (message.requireBlock 32 .publicKey).mapError .tlv
  let permissions ← requirePermissions raw
  return (id, publicKey, permissions)

/-- The request that a message with a given method is. -/
def ofMessage (message : Tlv.Message) (method : UInt8) : Except PairingError PairingsRequest :=
  if method = Method.addPairing then do
    let (id, publicKey, permissions) ← readController message
    return .add id publicKey permissions
  else if method = Method.removePairing then do
    let id ← message.requireIdentifier.mapError .tlv
    return .remove id
  else if method = Method.listPairings then
    .ok .list
  else
    .error (.unsupportedMethod method)

/-- Read a request. Every one belongs to the first step. -/
def parse (body : Bytes) : Except PairingError PairingsRequest := do
  let message ← Pairing.decode body
  let state ← message.state.mapError .tlv
  if state ≠ 1 then
    throw (.unexpectedState 1 state)
  let method ← (message.requireByte .method).mapError .tlv
  ofMessage message method

def encode : PairingsRequest → Bytes
  | add id publicKey permissions =>
    Tlv.encode
      [Tlv.stateField 1, Tlv.methodField Method.addPairing, (.identifier, Bytes.ofString id),
       (.publicKey, publicKey.bytes), (.permissions, [permissions.byte])]
  | remove id =>
    Tlv.encode
      [Tlv.stateField 1, Tlv.methodField Method.removePairing, (.identifier, Bytes.ofString id)]
  | list => Tlv.encode [Tlv.stateField 1, Tlv.methodField Method.listPairings]

end PairingsRequest

/-- The answer to a request: a reply, and the controllers that went. -/
structure PairingsReply where
  body : Bytes
  removed : List String
deriving DecidableEq

structure PairingsOutcome (Answer : Type) where
  accessory : Accessory
  host : Host
  answer : Answer

namespace Management

def doneReply : Bytes :=
  Tlv.encode [Tlv.stateField 2]

/-- One controller in the reply to a list request. -/
def recordFields (record : PairingRecord) : List (Tlv.Tag × Bytes) :=
  [(.identifier, Bytes.ofString record.controllerId), (.publicKey, record.publicKey.bytes),
   (.permissions, [record.permissions.byte])]

/-- The reply to a list request: the controllers, with separators between them. -/
def listReply (records : List PairingRecord) : Bytes :=
  Tlv.encode
    (Tlv.stateField 2 :: ((records.map recordFields).intersperse [Tlv.separatorField]).flatten)

/-- Whether the requester is an admin at this moment. -/
def isAdmin (store : Store) : Option String → Bool
  | some id =>
    match store.find? id with
    | some record => record.permissions.isAdmin
    | none => false
  | none => false

/-- Carry out a request of an admin. -/
def perform (accessory : Accessory) (host : Host) (request : PairingsRequest) :
    PairingsOutcome (Except PairingError PairingsReply) :=
  match request with
  | .add id publicKey permissions =>
    let record : PairingRecord :=
      { accessoryId := accessory.pairingId, controllerId := id, publicKey, permissions }
    match accessory.changeStore host fun store disk => store.add disk record with
    | (.ok (), accessory, host) => { accessory, host, answer := .ok ⟨doneReply, []⟩ }
    | (.error e, accessory, host) => { accessory, host, answer := .error (.ofStore e) }
  | .remove id =>
    match accessory.changeStore host fun store disk => store.removeCascading disk id with
    | (.ok removed, accessory, host) => { accessory, host, answer := .ok ⟨doneReply, removed⟩ }
    | (.error e, accessory, host) => { accessory, host, answer := .error (.ofStore e) }
  | .list =>
    { accessory, host, answer := .ok ⟨listReply accessory.store.list, []⟩ }

/-- Carry out a request, if it comes from an admin. -/
def process (accessory : Accessory) (host : Host) (requester : Option String)
    (request : PairingsRequest) : PairingsOutcome (Except PairingError PairingsReply) :=
  if isAdmin accessory.store requester then
    perform accessory host request
  else
    { accessory, host, answer := .error .notAdmin }

/-- Read a request and carry it out. -/
def attempt (accessory : Accessory) (host : Host) (requester : Option String) (body : Bytes) :
    PairingsOutcome (Except PairingError PairingsReply) :=
  match PairingsRequest.parse body with
  | .ok request => process accessory host requester request
  | .error e => { accessory, host, answer := .error e }

/-- Answer a request. A refusal is a reply like any other, and a warning. -/
def handle (accessory : Accessory) (host : Host) (requester : Option String) (body : Bytes) :
    PairingsOutcome PairingsReply :=
  let outcome := attempt accessory host requester body
  match outcome.answer with
  | .ok reply => { outcome with answer := reply }
  | .error e =>
    { outcome with
      host := outcome.host.warn (.pairingsFailed accessory.pairingId requester e)
      answer := ⟨Pairing.errorReply 2 e.code, []⟩ }

/-! ## Reading a list -/

/-- The controller that a part of a list names. A part without an identifier names
none: it is the head of the reply. -/
def readRecord? (accessoryId : String) (part : Tlv.Message) :
    Except PairingError (Option PairingRecord) :=
  match part.get? .identifier with
  | none => .ok none
  | some _ => do
    let (controllerId, publicKey, permissions) ← PairingsRequest.readController part
    return some { accessoryId, controllerId, publicKey, permissions }

def parseList (accessoryId : String) (body : Bytes) :
    Except PairingError (List PairingRecord) := do
  let message ← Pairing.decode body
  Pairing.expectState message 2
  let records ← message.records.mapM (readRecord? accessoryId)
  return records.filterMap id

end Management

end HomePairing
