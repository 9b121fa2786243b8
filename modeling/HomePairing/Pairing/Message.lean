import HomePairing.Pairing.Error
import HomePairing.Tlv.Decoding

/-!
# Requests and replies

A request names the step it belongs to; the reply names the step after it. An
error reply is a step and a code and nothing else.
-/

namespace HomePairing

/-! ## The methods a request can ask for -/

namespace Method

def pairSetup : UInt8 := 0

def addPairing : UInt8 := 3

def removePairing : UInt8 := 4

def listPairings : UInt8 := 5

end Method

namespace Pairing

def decode (body : Bytes) : Except PairingError Tlv.Message :=
  (Tlv.decode body).mapError .tlv

/-- Read what was sealed in a request or a reply. -/
def decodeSealed (payload : Bytes) : Except PairingError Tlv.Message :=
  (Tlv.decode payload).mapError .invalidSubTlv

/-- A reply that refuses a request. -/
def errorReply (state code : UInt8) : Bytes :=
  Tlv.encode [Tlv.stateField state, Tlv.errorField code]

/-- The step after the given one; the last step has none and stays. -/
def nextState (state : UInt8) : UInt8 :=
  if state = 255 then 255 else state + 1

/-- The step that the reply to a request belongs to. Where the request does not
say its own, it is taken for the first. -/
def replyState (body : Bytes) : UInt8 :=
  match Tlv.decode body with
  | .ok message =>
    match message.state with
    | .ok state => nextState state
    | .error _ => 2
  | .error _ => 2

/-- Check that a reply is no error and belongs to the expected step. -/
def expectState (reply : Tlv.Message) (expected : UInt8) : Except PairingError Unit :=
  match reply.errorCode? with
  | some code => .error (.peerError code)
  | none =>
    match reply.state with
    | .error e => .error (.tlv e)
    | .ok actual =>
      if actual = expected then .ok () else .error (.unexpectedState expected actual)

end Pairing

end HomePairing
