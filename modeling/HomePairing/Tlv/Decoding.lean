import HomePairing.Tlv.Basic

/-!
# Reading items

A message is read piece by piece: tag, length, and as many bytes. Pieces that
follow one another under one tag are parts of one value and are joined. A string
that ends inside a piece is refused, with the place where that piece starts.
-/

namespace HomePairing.Tlv

/-- The pieces of a string, each as an item; `offset` is where the string starts
within the message. -/
def pieces (offset : Nat) : Bytes → Except Error (List Item)
  | [] => .ok []
  | [_] => .error (.truncated offset 2 1)
  | tag :: length :: rest =>
    let value := rest.take length.toNat
    if value.length < length.toNat then
      .error (.truncated offset (2 + length.toNat) (2 + rest.length))
    else
      match pieces (offset + 2 + length.toNat) (rest.drop length.toNat) with
      | .ok items => .ok (⟨tag, value⟩ :: items)
      | .error e => .error e
termination_by bytes => bytes.length
decreasing_by simp; omega

/-- Put a piece in front of joined items. -/
def joinStep (piece : Item) : List Item → List Item
  | [] => [piece]
  | item :: rest =>
    if piece.tag = item.tag then
      ⟨piece.tag, piece.value ++ item.value⟩ :: rest
    else
      piece :: item :: rest

/-- Join the neighbours that share a tag. -/
def join (pieces : List Item) : List Item :=
  pieces.foldr joinStep []

def decode (bytes : Bytes) : Except Error Message :=
  match pieces 0 bytes with
  | .ok items => .ok ⟨join items⟩
  | .error e => .error e

end HomePairing.Tlv
