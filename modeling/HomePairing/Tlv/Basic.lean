import HomePairing.Bytes.Block

/-!
# Tagged items

Every message is a row of items, each a tag and a value. This module has the
tags that pairing knows, the items as they are read, and the ways to ask a
message for a value: leniently, by requirement, or as exactly one byte.
-/

namespace HomePairing.Tlv

/-- The tags that pairing knows. -/
inductive Tag where
  | method
  | identifier
  | salt
  | publicKey
  | proof
  | encryptedData
  | state
  | error
  | retryDelay
  | certificate
  | signature
  | permissions
  | fragmentData
  | fragmentLast
  | flags
  | separator
deriving DecidableEq, Repr

namespace Tag

def all : List Tag :=
  [method, identifier, salt, publicKey, proof, encryptedData, state, error, retryDelay,
    certificate, signature, permissions, fragmentData, fragmentLast, flags, separator]

def byte : Tag → UInt8
  | method => 0
  | identifier => 1
  | salt => 2
  | publicKey => 3
  | proof => 4
  | encryptedData => 5
  | state => 6
  | error => 7
  | retryDelay => 8
  | certificate => 9
  | signature => 10
  | permissions => 11
  | fragmentData => 12
  | fragmentLast => 13
  | flags => 19
  | separator => 255

/-- The tag that a byte is, if pairing knows it. -/
def ofByte? (b : UInt8) : Option Tag :=
  all.find? fun tag => tag.byte == b

def name : Tag → String
  | method => "Method"
  | identifier => "Identifier"
  | salt => "Salt"
  | publicKey => "PublicKey"
  | proof => "Proof"
  | encryptedData => "EncryptedData"
  | state => "State"
  | error => "Error"
  | retryDelay => "RetryDelay"
  | certificate => "Certificate"
  | signature => "Signature"
  | permissions => "Permissions"
  | fragmentData => "FragmentData"
  | fragmentLast => "FragmentLast"
  | flags => "Flags"
  | separator => "Separator"

@[simp] theorem ofByte?_byte (tag : Tag) : ofByte? tag.byte = some tag := by
  cases tag <;> rfl

theorem byte_injective {a b : Tag} (h : a.byte = b.byte) : a = b := by
  have := congrArg ofByte? h
  simpa using this

/-- A byte reads as a tag only if it is that tag's byte. -/
theorem byte_of_ofByte? {b : UInt8} {tag : Tag} (h : ofByte? b = some tag) : tag.byte = b := by
  have := List.find?_some h
  simpa using this

end Tag

/-- Why a message cannot be read. -/
inductive Error where
  /-- An item runs past the end: where its header starts, how many bytes it
  needs from there, and how many there are. -/
  | truncated (offset needed available : Nat)
  | missingTag (tag : Tag)
  | invalidValue (tag : Tag)
deriving DecidableEq, Repr

def Error.message : Error → String
  | truncated offset needed available =>
    s!"truncated TLV: item at offset {offset} needs {needed} bytes, {available} left"
  | missingTag tag => "missing required tag: " ++ tag.name
  | invalidValue tag => "invalid value for " ++ tag.name

def Error.name : Error → String
  | truncated .. => "Truncated"
  | missingTag _ => "MissingTag"
  | invalidValue _ => "InvalidValue"

/-- A tag byte, known or not, and its value. -/
structure Item where
  tag : UInt8
  value : Bytes
deriving DecidableEq, Repr

/-- The known tag of an item, if it is one. -/
def Item.knownTag? (item : Item) : Option Tag :=
  Tag.ofByte? item.tag

/-- A message that has been read: its items, in order. -/
structure Message where
  items : List Item
deriving DecidableEq, Repr

namespace Message

variable (message : Message)

/-- The first value under a tag. -/
def get? (tag : Tag) : Option Bytes :=
  (message.items.find? fun item => item.tag == tag.byte).map (·.value)

/-- The first byte of the first value under a tag. -/
def firstByte? (tag : Tag) : Option UInt8 :=
  (message.get? tag).bind (·.head?)

/-- The first value under a tag that must be there. -/
def require (tag : Tag) : Except Error Bytes :=
  match message.get? tag with
  | some value => .ok value
  | none => .error (.missingTag tag)

/-- A required value of exactly one byte. -/
def requireByte (tag : Tag) : Except Error UInt8 :=
  match message.require tag with
  | .ok [b] => .ok b
  | .ok _ => .error (.invalidValue tag)
  | .error e => .error e

/-- A required value of exactly `n` bytes. -/
def requireBlock (n : Nat) (tag : Tag) : Except Error (Block n) :=
  match message.require tag with
  | .ok value =>
    match Block.ofBytes? value with
    | some block => .ok block
    | none => .error (.invalidValue tag)
  | .error e => .error e

/-- The required pairing identifier, which is text. -/
def requireIdentifier : Except Error String :=
  match message.require .identifier with
  | .ok value =>
    match Bytes.toString? value with
    | some text => .ok text
    | none => .error (.invalidValue .identifier)
  | .error e => .error e

/-- The step of the conversation that the message belongs to. -/
def state : Except Error UInt8 :=
  message.requireByte .state

def errorCode? : Option UInt8 :=
  message.firstByte? .error

/-- Put an item in front of the first of the rows that follow it; a separator
starts a new row instead. -/
def splitStep (item : Item) (rows : List (List Item)) : List (List Item) :=
  if item.tag == Tag.separator.byte then
    [] :: rows
  else
    match rows with
    | row :: rows => (item :: row) :: rows
    | [] => [[item]]

/-- The rows of items between separators, without the empty ones. -/
def records : List Message :=
  ((message.items.foldr splitStep [[]]).filter fun row => !row.isEmpty).map Message.mk

end Message

end HomePairing.Tlv
