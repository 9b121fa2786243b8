import HomePairing.Proofs.Tlv.RoundTrip

/-!
# Every value can be told from its neighbours

Joining loses where a value ends if the next one has the same tag. The pieces have not
lost it: a value is full pieces and then a short one (`lengths_segments`), so a reader
that ends a value at its first short piece (`gather`) gets every value back
(`gather_segmentsOf`). Two rows of fields that are written alike are therefore the same.
-/

namespace HomePairing.Tlv

/-! ## What a value is written in -/

/-- As many full pieces as the value fills, and exactly one piece with what remains. -/
theorem lengths_segments (tag : UInt8) (value : Bytes) :
    (segments tag value).map (fun piece => (piece.tag, piece.value.length)) =
      List.replicate (value.length / pieceSize) (tag, pieceSize) ++
        [(tag, value.length % pieceSize)] := by
  fun_induction segments tag value with
  | case1 value piece short =>
      have length : piece.length = min pieceSize value.length := List.length_take
      have small : value.length < pieceSize := by omega
      have whole : piece.length = value.length := by omega
      simp [Nat.div_eq_of_lt small, Nat.mod_eq_of_lt small, whole]
  | case2 value piece full ih =>
      have length : piece.length = min pieceSize value.length := List.length_take
      have whole : piece.length = pieceSize := by omega
      have large : pieceSize ≤ value.length := by omega
      have positive : 0 < pieceSize := by decide
      rw [List.map_cons, ih, List.length_drop, whole, Nat.mod_eq_sub_mod large,
        Nat.div_eq_sub_div positive large, List.replicate_succ, List.cons_append]

/-- The pieces hold the value, in order. -/
theorem flatMap_value_segments (tag : UInt8) (value : Bytes) :
    (segments tag value).flatMap Item.value = value := by
  fun_induction segments tag value with
  | case1 value piece short =>
      have length : piece.length = min pieceSize value.length := List.length_take
      have small : value.length ≤ pieceSize := by omega
      show piece ++ [] = value
      rw [List.append_nil]
      exact List.take_of_length_le small
  | case2 value piece full ih =>
      rw [List.flatMap_cons, ih]
      exact List.take_append_drop pieceSize value

/-! ## Reading up to the first short piece -/

/-- Take the pieces of every value together: a full piece is continued by what follows
it, and a short one is the last of its value. -/
def gather : List Item → List Item
  | [] => []
  | piece :: rest =>
    if piece.value.length < pieceSize then piece :: gather rest
    else
      match gather rest with
      | [] => [piece]
      | item :: items => ⟨piece.tag, piece.value ++ item.value⟩ :: items

/-- The values of a string, read without a look at what tag comes next. -/
def values (bytes : Bytes) : Except Error (List Item) :=
  (pieces 0 bytes).map gather

/-- A value ends with its own pieces, whatever follows them. -/
theorem gather_segments_append (tag : UInt8) (value : Bytes) (items : List Item) :
    gather (segments tag value ++ items) = ⟨tag, value⟩ :: gather items := by
  fun_induction segments tag value with
  | case1 value piece short =>
      have length : piece.length = min pieceSize value.length := List.length_take
      have small : value.length ≤ pieceSize := by omega
      have whole : piece = value := List.take_of_length_le small
      show gather (⟨tag, piece⟩ :: items) = ⟨tag, value⟩ :: gather items
      rw [gather, if_pos short, whole]
  | case2 value piece full ih =>
      have parts : piece ++ value.drop pieceSize = value := List.take_append_drop ..
      rw [List.cons_append, gather, if_neg full, ih]
      simp only [parts]

/-- A value that fills its piece ends with an empty one, so the empty piece after that is a
value of its own, under the same tag. -/
example : gather [⟨2, List.replicate 255 7⟩, ⟨2, []⟩, ⟨2, []⟩] =
    [⟨2, List.replicate 255 7⟩, ⟨2, []⟩] := by decide +kernel

theorem gather_segmentsOf (fields : List (Tag × Bytes)) :
    gather (segmentsOf fields) = fields.map itemOf := by
  induction fields with
  | nil => rfl
  | cons field rest ih =>
      rw [segmentsOf, List.flatMap_cons, gather_segments_append]
      exact congrArg (itemOf field :: ·) ih

/-- Every field that was written is read, and nothing else. -/
theorem values_encode (fields : List (Tag × Bytes)) :
    values (encode fields) = .ok (fields.map itemOf) := by
  rw [values, pieces_encode, Except.map, gather_segmentsOf]

theorem itemOf_injective {first second : Tag × Bytes} (same : itemOf first = itemOf second) :
    first = second := by
  injection same with tags contents
  exact Prod.ext (Tag.byte_injective tags) contents

/-- **Unambiguity.** Only the same fields are written alike. A value is written in the
full pieces that it fills and one shorter piece under the same tag, and who ends a value
at its first short piece reads every field that was written. -/
theorem encode_unambiguous :
    (∀ first second : List (Tag × Bytes), encode first = encode second ↔ first = second) ∧
    (∀ (tag : Tag) (value : Bytes) (before after : List (Tag × Bytes)),
      ∃ row : List Item,
        encode (before ++ (tag, value) :: after) =
          encode before ++ encodePieces row ++ encode after ∧
        row.map (fun piece => (piece.tag, piece.value.length)) =
          List.replicate (value.length / 255) (tag.byte, 255) ++
            [(tag.byte, value.length % 255)] ∧
        row.flatMap Item.value = value) ∧
    ∀ fields, values (encode fields) = .ok (fields.map itemOf) := by
  refine ⟨fun first second => ⟨fun alike => ?_, congrArg encode⟩, ?_, values_encode⟩
  · have read := values_encode first
    rw [alike, values_encode second] at read
    have items : second.map itemOf = first.map itemOf := Except.ok.inj read
    exact (List.map_injective_iff.mpr (fun _ _ => itemOf_injective) items).symm
  · intro tag value before after
    refine ⟨segments tag.byte value, ?_, lengths_segments tag.byte value,
      flatMap_value_segments tag.byte value⟩
    rw [encode_append, encode_cons, encodeValue_eq, List.append_assoc]

end HomePairing.Tlv
