import HomePairing.Tlv.Basic

/-!
# Writing items

An item's length is one byte, so a value is written in pieces of 255 bytes and
a last piece that is shorter, all under the same tag. The last piece may be
empty: it marks the end of a value that fills its pieces exactly, and it is the
whole of an empty value. The end of a value can therefore be seen from the
lengths alone, even when the next value has the same tag.
-/

namespace HomePairing.Tlv

/-- The most bytes one piece holds. -/
def pieceSize : Nat := 255

def encodePiece (tag : UInt8) (piece : Bytes) : Bytes :=
  tag :: UInt8.ofNat piece.length :: piece

/-- A value under a tag: its full pieces, then a shorter one. -/
def encodeValue (tag : UInt8) (value : Bytes) : Bytes :=
  let piece := value.take pieceSize
  if piece.length < pieceSize then
    encodePiece tag piece
  else
    encodePiece tag piece ++ encodeValue tag (value.drop pieceSize)
termination_by value.length
decreasing_by
  have h : ¬ (value.take pieceSize).length < pieceSize := by assumption
  simp [pieceSize] at h ⊢
  omega

/-- A row of values under known tags. -/
def encode (fields : List (Tag × Bytes)) : Bytes :=
  fields.flatMap fun (tag, value) => encodeValue tag.byte value

@[simp] theorem encode_nil : encode [] = [] := rfl

@[simp] theorem encode_cons (tag : Tag) (value : Bytes) (fields : List (Tag × Bytes)) :
    encode ((tag, value) :: fields) = encodeValue tag.byte value ++ encode fields := rfl

theorem encode_append (a b : List (Tag × Bytes)) : encode (a ++ b) = encode a ++ encode b := by
  simp [encode]

/-- The field that says which step of a conversation a message is. -/
def stateField (state : UInt8) : Tag × Bytes := (.state, [state])

/-- The field that names the method asked for. -/
def methodField (method : UInt8) : Tag × Bytes := (.method, [method])

/-- The field that carries an error code. -/
def errorField (code : UInt8) : Tag × Bytes := (.error, [code])

/-- The field that stands between two records of a list. -/
def separatorField : Tag × Bytes := (.separator, [])

end HomePairing.Tlv
