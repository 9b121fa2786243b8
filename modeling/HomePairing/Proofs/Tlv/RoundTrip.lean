import HomePairing.Tlv.Decoding
import HomePairing.Tlv.Encoding
import Mathlib.Data.List.Chain

/-!
# Written items read back

A value is written in pieces (`encodeValue_eq`), every row of pieces is read as it was
written (`pieces_encodePieces`), and joining puts the pieces of a value together again
(`join_segments_append`). So what was written is read as it was given, with neighbours
under one tag joined (`decode_encode`), and exactly as it was given if no neighbours have
the same tag (`decode_encode_of_distinct`).
-/

namespace HomePairing.Tlv

/-! ## Pieces -/

/-- The pieces that a value is written in. -/
def segments (tag : UInt8) (value : Bytes) : List Item :=
  let piece := value.take pieceSize
  if piece.length < pieceSize then [⟨tag, piece⟩]
  else ⟨tag, piece⟩ :: segments tag (value.drop pieceSize)
termination_by value.length
decreasing_by
  have h : ¬ (value.take pieceSize).length < pieceSize := by assumption
  simp [pieceSize] at h ⊢
  omega

/-- A row of pieces, each with its header. -/
def encodePieces (items : List Item) : Bytes :=
  items.flatMap fun item => encodePiece item.tag item.value

theorem encodeValue_eq (tag : UInt8) (value : Bytes) :
    encodeValue tag value = encodePieces (segments tag value) := by
  fun_induction segments tag value with
  | case1 value piece short =>
      rw [encodeValue]
      simp only [if_pos short, encodePieces, List.flatMap_cons, List.flatMap_nil,
        List.append_nil, piece]
  | case2 value piece full ih =>
      rw [encodeValue]
      simp only [if_neg full, ih, encodePieces, List.flatMap_cons, piece]

theorem length_le_of_mem_segments {tag : UInt8} {value : Bytes} {item : Item}
    (listed : item ∈ segments tag value) : item.value.length ≤ pieceSize := by
  fun_induction segments tag value with
  | case1 value piece short =>
      rw [List.mem_singleton.mp listed]
      exact List.length_take_le _ _
  | case2 value piece full ih =>
      rcases List.mem_cons.mp listed with first | later
      · rw [first]
        exact List.length_take_le _ _
      · exact ih later

/-- Pieces that are not too long are read as they were written. -/
theorem pieces_encodePieces {items : List Item}
    (small : ∀ item ∈ items, item.value.length ≤ pieceSize) (offset : Nat) :
    pieces offset (encodePieces items) = .ok items := by
  induction items generalizing offset with
  | nil => rw [encodePieces, List.flatMap_nil, pieces]
  | cons item rest ih =>
      obtain ⟨first, later⟩ := List.forall_mem_cons.mp small
      have length : (UInt8.ofNat item.value.length).toNat = item.value.length := by
        rw [UInt8.toNat_ofNat']
        exact Nat.mod_eq_of_lt (Nat.lt_of_le_of_lt first (by decide))
      have others := ih later (offset + 2 + item.value.length)
      rw [encodePieces] at others
      rw [encodePieces, List.flatMap_cons, encodePiece, List.cons_append, List.cons_append,
        pieces]
      simp only [length, List.take_left', List.drop_left', Nat.lt_irrefl, if_false, others]

/-! ## Joining -/

/-- Two pieces of a value can be joined first. -/
theorem joinStep_joinStep (tag : UInt8) (first second : Bytes) (items : List Item) :
    joinStep ⟨tag, first⟩ (joinStep ⟨tag, second⟩ items) =
      joinStep ⟨tag, first ++ second⟩ items := by
  cases items with
  | nil => simp [joinStep]
  | cons item rest =>
      by_cases same : tag = item.tag
      · simp [joinStep, same]
      · simp [joinStep, same]

/-- The pieces of a value are joined to the value. -/
theorem join_segments_append (tag : UInt8) (value : Bytes) (items : List Item) :
    join (segments tag value ++ items) = joinStep ⟨tag, value⟩ (join items) := by
  fun_induction segments tag value with
  | case1 value piece short =>
      have whole : value.take pieceSize = value := by
        refine List.take_of_length_le ?_
        rw [List.length_take] at short
        omega
      rw [show piece = value from whole]
      rfl
  | case2 value piece full ih =>
      rw [List.cons_append, join, List.foldr_cons]
      rw [join] at ih
      rw [ih, joinStep_joinStep, List.take_append_drop]

/-! ## Reading what was written -/

/-- A field as an item. -/
def itemOf (field : Tag × Bytes) : Item :=
  ⟨field.1.byte, field.2⟩

/-- The pieces that fields are written in. -/
def segmentsOf (fields : List (Tag × Bytes)) : List Item :=
  fields.flatMap fun (tag, value) => segments tag.byte value

theorem encode_eq (fields : List (Tag × Bytes)) :
    encode fields = encodePieces (segmentsOf fields) := by
  induction fields with
  | nil => rfl
  | cons field rest ih =>
      have parted : segmentsOf (field :: rest) =
          segments field.1.byte field.2 ++ segmentsOf rest := List.flatMap_cons
      rw [encode_cons, ih, encodeValue_eq, parted]
      exact List.flatMap_append.symm

theorem join_segmentsOf (fields : List (Tag × Bytes)) :
    join (segmentsOf fields) = join (fields.map itemOf) := by
  induction fields with
  | nil => rfl
  | cons field rest ih =>
      rw [segmentsOf, List.flatMap_cons, join_segments_append]
      exact congrArg (joinStep (itemOf field)) ih

/-- The pieces of fields are read as they were written. -/
theorem pieces_encode (fields : List (Tag × Bytes)) (offset : Nat) :
    pieces offset (encode fields) = .ok (segmentsOf fields) := by
  have small : ∀ item ∈ segmentsOf fields, item.value.length ≤ pieceSize := by
    intro item listed
    obtain ⟨field, _, listed⟩ := List.mem_flatMap.mp listed
    exact length_le_of_mem_segments listed
  rw [encode_eq, pieces_encodePieces small]

/-- What was written is read, with neighbours under one tag joined. -/
theorem decode_encode (fields : List (Tag × Bytes)) :
    decode (encode fields) = .ok ⟨join (fields.map itemOf)⟩ := by
  rw [decode, pieces_encode, ← join_segmentsOf]

/-- Without neighbours under one tag there is nothing to join. -/
theorem join_eq_self {items : List Item}
    (distinct : items.IsChain fun a b => a.tag ≠ b.tag) : join items = items := by
  induction items with
  | nil => rfl
  | cons item rest ih =>
      have joined : rest.foldr joinStep [] = rest := ih distinct.tail
      rw [join, List.foldr_cons, joined]
      cases rest with
      | nil => rfl
      | cons next rest => exact if_neg (List.isChain_cons_cons.mp distinct).1

/-! ## Looking up what was written -/

namespace Message

/-- The message of some fields. -/
def ofFields (fields : List (Tag × Bytes)) : Message :=
  ⟨fields.map itemOf⟩

@[simp] theorem get?_ofFields_nil (tag : Tag) : (ofFields []).get? tag = none := rfl

@[simp] theorem get?_ofFields_cons (field : Tag × Bytes) (fields : List (Tag × Bytes))
    (tag : Tag) :
    (ofFields (field :: fields)).get? tag =
      if field.1 = tag then some field.2 else (ofFields fields).get? tag := by
  by_cases same : field.1 = tag
  · simp [get?, ofFields, itemOf, same]
  · have apart : (field.1.byte == tag.byte) = false :=
      beq_eq_false_iff_ne.mpr fun bytes => same (Tag.byte_injective bytes)
    simp [get?, ofFields, itemOf, same, apart]

end Message

/-- Fields are read as they were written if no neighbours have the same tag. -/
theorem decode_encode_of_distinct {fields : List (Tag × Bytes)}
    (distinct : (fields.map Prod.fst).IsChain (· ≠ ·)) :
    decode (encode fields) = .ok (.ofFields fields) := by
  have apart : (fields.map itemOf).IsChain fun a b => a.tag ≠ b.tag := by
    rw [List.isChain_map] at distinct ⊢
    exact distinct.imp fun a b differ same => differ (Tag.byte_injective same)
  rw [decode_encode, join_eq_self apart]
  rfl

end HomePairing.Tlv
