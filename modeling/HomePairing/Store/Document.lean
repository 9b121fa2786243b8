import HomePairing.Identity
import HomePairing.Json.Reading
import HomePairing.Json.Writing
import HomePairing.Store.Registry

/-!
# What a store file holds

A store file is one object with the accessory's identity and its pairings. This
module turns a document into a value and reads it back. A file may come from
elsewhere, so reading accepts what the format allows: members in any order and
unknown ones, a row of fields in place of an object, the identity left out.
-/

namespace HomePairing

/-- The content of a store file. -/
structure Document where
  /-- The accessory's identity, once it has one. -/
  identity : Option Identity
  pairings : Registry
deriving DecidableEq

namespace Document

/-- What a file holds before anything is stored. -/
def empty : Document := ⟨none, .empty⟩

/-! ## Writing -/

def textValue (text : String) : Json.Value :=
  .string (Json.Spelling.encode text)

/-- Bytes as a row of numbers. -/
def bytesValue (bytes : Bytes) : Json.Value :=
  .array (bytes.map Json.Value.ofByte)

def objectValue (fields : List (String × Json.Value)) : Json.Value :=
  .object (fields.map fun (name, value) => (Json.Spelling.encode name, value))

def identityValue (identity : Identity) : Json.Value :=
  objectValue
    [("pairing_id", textValue identity.pairingId), ("secret_key", bytesValue identity.seed.bytes)]

def recordValue (record : PairingRecord) : Json.Value :=
  objectValue
    [("accessory_id", textValue record.accessoryId),
     ("controller_id", textValue record.controllerId),
     ("public_key", bytesValue record.publicKey.bytes),
     ("permissions", textValue record.permissions.name)]

def toValue (document : Document) : Json.Value :=
  objectValue
    [("identity", (document.identity.map identityValue).getD .null),
     ("pairings",
      objectValue (document.pairings.entries.map fun (id, record) => (id, recordValue record)))]

/-- A document as a file. -/
def render (document : Document) : Bytes :=
  Json.render document.toValue

/-! ## Reading -/

/-- The text that a value is. -/
def text? : Json.Value → Option String
  | .string spelling => Json.Spelling.decode? spelling
  | _ => none

/-- The row of bytes that a value is. -/
def bytes? : Json.Value → Option Bytes
  | .array elements => elements.mapM Json.Value.byte?
  | _ => none

/-- The key that a value is. -/
def key? (value : Json.Value) : Option Key :=
  (bytes? value).bind Block.ofBytes?

/-- The members of an object, under the texts their keys stand for. -/
def namedMembers? (members : List (Bytes × Json.Value)) : Option (List (String × Json.Value)) :=
  members.mapM fun (key, value) => (Json.Spelling.decode? key).map fun name => (name, value)

/-- The value of a field, absent or given once. A field given twice is refused. -/
def field? (members : List (String × Json.Value)) (name : String) :
    Option (Option Json.Value) :=
  match members.filter fun member => member.1 == name with
  | [] => some none
  | [member] => some (some member.2)
  | _ => none

/-- The values of the named fields of an object, or the elements of a row that
has exactly one for each name. -/
def fields? (names : List String) : Json.Value → Option (List (Option Json.Value))
  | .object members => (namedMembers? members).bind fun members => names.mapM (field? members)
  | .array elements =>
    if elements.length = names.length then some (elements.map some) else none
  | _ => none

def identity? (value : Json.Value) : Option Identity :=
  match fields? ["pairing_id", "secret_key"] value with
  | some [some id, some seed] => do
    let id ← text? id
    let seed ← key? seed
    return ⟨id, seed⟩
  | _ => none

/-- The permissions that a value is: a name, or an object with the name as its
only key and nothing under it. -/
def permissions? : Json.Value → Option Permissions
  | .string spelling => (Json.Spelling.decode? spelling).bind Permissions.ofName?
  | .object [(key, .null)] => (Json.Spelling.decode? key).bind Permissions.ofName?
  | _ => none

def record? (value : Json.Value) : Option PairingRecord :=
  match fields? ["accessory_id", "controller_id", "public_key", "permissions"] value with
  | some [some accessoryId, some controllerId, some publicKey, some permissions] => do
    let accessoryId ← text? accessoryId
    let controllerId ← text? controllerId
    let publicKey ← key? publicKey
    let permissions ← permissions? permissions
    return { accessoryId, controllerId, publicKey, permissions }
  | _ => none

def registry? : Json.Value → Option Registry
  | .object members => do
    let members ← namedMembers? members
    let entries ← members.mapM fun (id, value) => (record? value).map fun record => (id, record)
    return .ofEntries entries
  | _ => none

/-- The identity under a field that may be absent or null. -/
def identityField? : Option Json.Value → Option (Option Identity)
  | none => some none
  | some .null => some none
  | some value => (identity? value).map some

def ofValue? (value : Json.Value) : Option Document :=
  match fields? ["identity", "pairings"] value with
  | some [identity, some pairings] => do
    let identity ← identityField? identity
    let pairings ← registry? pairings
    return ⟨identity, pairings⟩
  | _ => none

/-- Read a file. An empty one holds nothing yet. -/
def parse (file : Bytes) : Except StoreError Document :=
  if file.isEmpty then
    .ok empty
  else
    match (Json.parse? file).bind ofValue? with
    | some document => .ok document
    | none => .error (.serialization "the file is not a store document")

end Document

end HomePairing
