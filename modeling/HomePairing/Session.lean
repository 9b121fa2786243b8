import HomePairing.Handshake.SessionKeys
import HomePairing.Log

/-!
# The encrypted session

After Pair-Verify all bytes go in frames: the length of the text in two bytes,
the text sealed, the tag. The length is authenticated with the text, and each
direction has a key and a frame counter of its own, the counter being the nonce.

A frame that does not open breaks the stream for good: the session is poisoned,
what was buffered is dropped, and nothing is released any more.
-/

namespace HomePairing

/-- One end of an encrypted session. -/
structure Session where
  readKey : Key
  writeKey : Key
  inboundCounter : Nat
  outboundCounter : Nat
  /-- Bytes received that are not a whole frame yet. -/
  buffer : Bytes
  poisoned : Bool
deriving DecidableEq

namespace Session

/-- Bytes before the sealed text of a frame. -/
def headerSize : Nat := 2

/-- The number that no frame has: the last one a counter can hold. -/
def counterEnd : Nat := UInt64.size - 1

def create (readKey writeKey : Key) : Session where
  readKey := readKey
  writeKey := writeKey
  inboundCounter := 0
  outboundCounter := 0
  buffer := []
  poisoned := false

/-- The accessory's end: it reads what the controller writes. -/
def accessory (keys : SessionKeys) : Session :=
  create keys.controlWrite keys.controlRead

/-- The controller's end: it reads what the accessory writes. -/
def controller (keys : SessionKeys) : Session :=
  create keys.controlRead keys.controlWrite

variable (suite : Suite)

/-! ## Sending -/

/-- The header of a frame: the length of its text, least significant byte first. -/
def header (text : Bytes) : Bytes :=
  Bytes.ofNatLE headerSize text.length

/-- The frame with a given number. -/
def frame (key : Key) (counter : Nat) (text : Bytes) : Bytes :=
  header text ++ suite.encrypt key (Nonce.ofCounter counter) (header text) text

/-- A text cut into the texts of its frames: as much as a frame carries in each
but the last, and nothing for an empty text. -/
def chunks (text : Bytes) : List Bytes :=
  if text.isEmpty then []
  else text.take maxPayload :: chunks (text.drop maxPayload)
termination_by text.length
decreasing_by
  have nonempty : text.length ≠ 0 := by
    intro h
    have : text.isEmpty = true := List.isEmpty_iff.mpr (List.length_eq_zero_iff.mp h)
    contradiction
  rw [List.length_drop, maxPayload]
  omega

/-- Send texts as frames, one after another, as long as there are numbers for
them. -/
def sendFrames (session : Session) : List Bytes → Session × Except SessionError Bytes
  | [] => (session, .ok [])
  | text :: rest =>
    if session.outboundCounter ≥ counterEnd then
      (session, .error .counterExhausted)
    else
      let sent := frame suite session.writeKey session.outboundCounter text
      let session := { session with outboundCounter := session.outboundCounter + 1 }
      match sendFrames session rest with
      | (session, .ok others) => (session, .ok (sent ++ others))
      | (session, .error e) => (session, .error e)

def encrypt (session : Session) (text : Bytes) : Session × Except SessionError Bytes :=
  if session.poisoned then (session, .error .poisoned)
  else sendFrames suite session (chunks text)

/-! ## Receiving -/

/-- Add received bytes to the buffer. -/
def feed (session : Session) (data : Bytes) : Session :=
  { session with buffer := session.buffer ++ data }

/-- Open the frame at the front of the buffer, if it is whole. The result is its
text and the buffer after it. -/
def openFrame (session : Session) : Except SessionError (Option (Bytes × Bytes)) :=
  if session.buffer.length < headerSize then
    .ok none
  else
    let header := session.buffer.take headerSize
    let length := Bytes.toNatLE header
    let size := headerSize + length + Aead.tagSize
    -- Refused before it is whole: waiting for the rest would fill the buffer.
    if length > maxPayload then
      .error (.frameTooLarge length)
    else if session.buffer.length < size then
      .ok none
    else if session.inboundCounter ≥ counterEnd then
      .error .counterExhausted
    else
      let sealed := (session.buffer.take size).drop headerSize
      match suite.decrypt? session.readKey (Nonce.ofCounter session.inboundCounter) header
          sealed with
      | some text => .ok (some (text, session.buffer.drop size))
      | none => .error (.decryptionFailed session.inboundCounter)

/-- Decrypt the next frame. There is none as long as the buffer holds only a part
of it; a refused one poisons the session. -/
def decrypt (session : Session) : Session × Except SessionError (Option Bytes) :=
  if session.poisoned then
    (session, .error .poisoned)
  else
    match openFrame suite session with
    | .ok none => (session, .ok none)
    | .ok (some (text, rest)) =>
      ({ session with inboundCounter := session.inboundCounter + 1, buffer := rest },
        .ok (some text))
    | .error e => ({ session with poisoned := true, buffer := [] }, .error e)

/-- Decrypt frame after frame, at most `count` of them. -/
def decryptMany (session : Session) : (count : Nat) → Session × Except SessionError Bytes
  | 0 => (session, .ok [])
  | count + 1 =>
    match session.decrypt suite with
    | (session, .error e) => (session, .error e)
    | (session, .ok none) => (session, .ok [])
    | (session, .ok (some text)) =>
      match decryptMany session count with
      | (session, .ok others) => (session, .ok (text ++ others))
      | (session, .error e) => (session, .error e)

/-- Decrypt every whole frame in the buffer. Every frame takes at least its header
from the buffer, which bounds their number. The texts before a refused frame are
lost with it. -/
def decryptAll (session : Session) : Session × Except SessionError Bytes :=
  session.decryptMany suite (session.buffer.length + 1)

/-- The warning that is due when an unbroken session has met a failure while
receiving; `after` is the session after it. -/
def warnings {Value : Type} (before after : Session) : Except SessionError Value → Log
  | .ok _ => []
  | .error e => if before.poisoned then [] else [.sessionPoisoned after.inboundCounter e]

/-- The session in one line, without its keys. -/
def describe (session : Session) : String :=
  "SecureSession \x7b inbound_counter: " ++ toString session.inboundCounter ++
    ", outbound_counter: " ++ toString session.outboundCounter ++
    ", buffered: " ++ toString session.buffer.length ++
    ", poisoned: " ++ toString session.poisoned ++ ", .. \x7d"

end Session

end HomePairing
