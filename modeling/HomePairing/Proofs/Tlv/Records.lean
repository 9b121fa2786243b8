import HomePairing.Proofs.Tlv.RoundTrip

/-!
# Rows between separators

A message can carry several rows of fields with separators between them. Nothing is joined
across a separator, so a message of such rows is read field by field
(`isChain_separated`), and taking it apart at the separators gives the rows back, one for
one (`Message.records_separated`).
-/

namespace HomePairing.Tlv

/-- What can stand between two separators: some fields, none of them a separator, and no
neighbours under one tag. -/
structure IsRow (fields : List (Tag × Bytes)) : Prop where
  full : fields ≠ []
  plain : ∀ field ∈ fields, field.1 ≠ .separator
  distinct : (fields.map Prod.fst).IsChain (· ≠ ·)

/-- Rows one after another, with separators between them. -/
def separated (rows : List (List (Tag × Bytes))) : List (Tag × Bytes) :=
  (rows.intersperse [separatorField]).flatten

variable {rows : List (List (Tag × Bytes))}

theorem separated_cons_cons (row next : List (Tag × Bytes)) :
    separated (row :: next :: rows) = row ++ separatorField :: separated (next :: rows) := rfl

/-- The first field of a row comes first. -/
theorem head?_separated_cons {row : List (Tag × Bytes)} (full : row ≠ []) :
    (separated (row :: rows)).head? = row.head? := by
  obtain ⟨field, fields, rfl⟩ := List.exists_cons_of_ne_nil full
  cases rows <;> rfl

theorem mem_separated {field : Tag × Bytes} (listed : field ∈ separated rows) :
    field = separatorField ∨ ∃ row ∈ rows, field ∈ row := by
  induction rows with
  | nil => cases listed
  | cons row rest ih =>
      cases rest with
      | nil =>
          rw [separated, List.intersperse_singleton, List.flatten_singleton] at listed
          exact .inr ⟨row, List.mem_singleton_self row, listed⟩
      | cons next rest =>
          rw [separated_cons_cons, List.mem_append, List.mem_cons] at listed
          rcases listed with first | between | later
          · exact .inr ⟨row, List.mem_cons_self, first⟩
          · exact .inl between
          · exact (ih later).imp_right fun ⟨other, among, here⟩ =>
              ⟨other, List.mem_cons_of_mem row among, here⟩

/-- In rows with separators between them no neighbours have the same tag. The induction is on
the rows; a separator differs from both of its neighbours, which belong to rows. -/
theorem isChain_separated (each : ∀ row ∈ rows, IsRow row) :
    ((separated rows).map Prod.fst).IsChain (· ≠ ·) := by
  induction rows with
  | nil => exact .nil
  | cons row rest ih =>
      obtain ⟨first, others⟩ := List.forall_mem_cons.mp each
      cases rest with
      | nil =>
          rw [separated, List.intersperse_singleton, List.flatten_singleton]
          exact first.distinct
      | cons next rest =>
          have second := others next List.mem_cons_self
          rw [separated_cons_cons, List.map_append, List.map_cons, List.isChain_append,
            List.isChain_cons]
          refine ⟨first.distinct, ⟨?_, ih others⟩, ?_⟩
          · intro tag heads
            rw [List.head?_map, head?_separated_cons second.full] at heads
            obtain ⟨field, front, rfl⟩ := Option.map_eq_some_iff.mp heads
            exact (second.plain field (List.mem_of_mem_head? front)).symm
          · intro tag lasts other heads
            cases heads
            obtain ⟨field, listed, rfl⟩ := List.mem_map.mp (List.mem_of_mem_getLast? lasts)
            exact first.plain field listed

/-! ## Taking a message apart -/

/-- An item that starts a new row. -/
def Item.separates (item : Item) : Bool :=
  item.tag == Tag.separator.byte

/-- A message is taken apart at its separators. -/
theorem foldr_splitStep (items : List Item) :
    items.foldr Message.splitStep [[]] = items.splitOnP Item.separates := by
  induction items with
  | nil => rfl
  | cons item rest ih =>
      rw [List.foldr_cons, ih, List.splitOnP_cons_eq_if_modifyHead, Message.splitStep.eq_def]
      refine ite_congr rfl (fun _ => rfl) fun _ => ?_
      -- There is always a row to put the item in front of.
      cases rows : rest.splitOnP Item.separates with
      | nil => exact (List.splitOnP_ne_nil _ rest rows).elim
      | cons row rows => rfl

theorem IsRow.not_separates {row : List (Tag × Bytes)} (is : IsRow row) :
    ∀ item ∈ row.map itemOf, item.separates = false := by
  intro item listed
  obtain ⟨field, among, rfl⟩ := List.mem_map.mp listed
  refine beq_eq_false_iff_ne.mpr fun same => ?_
  exact is.plain field among (Tag.byte_injective same)

theorem splitOnP_separated (each : ∀ row ∈ rows, IsRow row) (filled : rows ≠ []) :
    ((separated rows).map itemOf).splitOnP Item.separates = rows.map (·.map itemOf) := by
  induction rows with
  | nil => contradiction
  | cons row rest ih =>
      obtain ⟨first, others⟩ := List.forall_mem_cons.mp each
      cases rest with
      | nil =>
          rw [separated, List.intersperse_singleton, List.flatten_singleton,
            List.splitOnP_eq_singleton first.not_separates]
          rfl
      | cons next rest =>
          rw [separated_cons_cons, List.map_append, List.map_cons,
            List.splitOnP_append_cons_of_forall_mem first.not_separates _ rfl,
            ih others nofun]
          rfl

namespace Message

/-- Rows that were written with separators between them are the records of the message. -/
theorem records_separated (each : ∀ row ∈ rows, IsRow row) (filled : rows ≠ []) :
    (ofFields (separated rows)).records = rows.map ofFields := by
  have kept : (rows.map (·.map itemOf)).filter (!·.isEmpty) = rows.map (·.map itemOf) := by
    refine List.filter_eq_self.mpr fun items listed => ?_
    obtain ⟨row, among, rfl⟩ := List.mem_map.mp listed
    simpa using (each row among).full
  rw [records, ofFields, foldr_splitStep, splitOnP_separated each filled, kept, List.map_map]
  rfl

/-- What no field is under is not found. -/
theorem get?_ofFields_eq_none {fields : List (Tag × Bytes)} {tag : Tag}
    (absent : ∀ field ∈ fields, field.1 ≠ tag) : (ofFields fields).get? tag = none := by
  induction fields with
  | nil => rfl
  | cons field rest ih =>
      obtain ⟨first, others⟩ := List.forall_mem_cons.mp absent
      rw [get?_ofFields_cons, if_neg first, ih others]

end Message

end HomePairing.Tlv
