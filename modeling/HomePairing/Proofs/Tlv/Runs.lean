import HomePairing.Proofs.Tlv.RoundTrip
import Mathlib.Data.List.SplitBy

/-!
# Runs of one tag

Reading joins neighbours that share a tag, one step at a time. Here that is said of the
row as a whole: `runs` cuts it into the longest runs of one tag, `merged` makes one item
of each run, and joining does exactly this (`join_eq_merged`). No value byte gets lost
(`flatMap_value_join`) and no neighbours share a tag afterwards (`isChain_join`).

So fields that are written are read with their runs merged, and a message that was read,
with known tags only, is the same after it has been written and read again (`roundTrip`).
-/

namespace HomePairing.Tlv

/-! ## Runs -/

/-- The longest runs of items under one tag, in order. -/
def runs (items : List Item) : List (List Item) :=
  items.splitBy fun a b => a.tag == b.tag

/-- One item for a run: its tag, and its values one after another. -/
def Item.ofRun (run : List Item) : Item :=
  ⟨(run.head?.map Item.tag).getD 0, run.flatMap Item.value⟩

/-- A row of items, with every run made into one. -/
def merged (items : List Item) : List Item :=
  (runs items).map Item.ofRun

/-- Everything in a run has the tag of the run. -/
theorem tag_of_mem_run {run : List Item}
    (alike : run.IsChain fun a b => (a.tag == b.tag) = true) :
    ∀ item ∈ run, item.tag = (Item.ofRun run).tag := by
  induction run with
  | nil => simp
  | cons first run ih =>
      intro item listed
      rcases List.mem_cons.mp listed with here | later
      · rw [here]
        rfl
      · cases run with
        | nil => cases later
        | cons next run =>
            obtain ⟨same, others⟩ := List.isChain_cons_cons.mp alike
            have tags : first.tag = next.tag := by simpa using same
            have rest := ih others item later
            simp only [Item.ofRun, List.head?_cons, Option.map_some, Option.getD_some]
              at rest ⊢
            exact rest.trans tags.symm

/-! ## Joining merges runs -/

theorem joinStep_of_ne {piece : Item} {items : List Item}
    (apart : ∀ item ∈ items.head?, piece.tag ≠ item.tag) :
    joinStep piece items = piece :: items := by
  cases items with
  | nil => rfl
  | cons item rest => exact if_neg (apart item rfl)

/-- A piece that is put in front keeps its tag, whatever it is joined to. -/
theorem head?_joinStep (piece : Item) (items : List Item) :
    (joinStep piece items).head?.map Item.tag = some piece.tag := by
  cases items with
  | nil => rfl
  | cons item rest =>
      by_cases same : piece.tag = item.tag
      · simp [joinStep, same]
      · simp [joinStep, same]

/-- A run in front of other pieces is joined to one item, which is put in front of them. -/
theorem join_append_of_run {run : List Item} (filled : run ≠ [])
    (alike : run.IsChain fun a b => (a.tag == b.tag) = true) (rest : List Item) :
    join (run ++ rest) = joinStep (Item.ofRun run) (join rest) := by
  induction run with
  | nil => exact absurd rfl filled
  | cons item run ih =>
      show joinStep item (join (run ++ rest)) = joinStep (Item.ofRun (item :: run)) (join rest)
      cases run with
      | nil => simp [Item.ofRun]
      | cons next run =>
          obtain ⟨same, others⟩ := List.isChain_cons_cons.mp alike
          have tags : item.tag = next.tag := by simpa using same
          have one : Item.ofRun (item :: next :: run) =
              ⟨item.tag, item.value ++ (Item.ofRun (next :: run)).value⟩ := rfl
          have other : Item.ofRun (next :: run) =
              ⟨item.tag, (Item.ofRun (next :: run)).value⟩ := by
            rw [tags]
            rfl
          rw [ih (by simp) others, one, other]
          exact joinStep_joinStep item.tag item.value _ (join rest)

/-- Runs that are not prolonged by their neighbours are joined one by one. -/
theorem join_flatten {rows : List (List Item)} (filled : [] ∉ rows)
    (alike : ∀ run ∈ rows, run.IsChain fun a b => (a.tag == b.tag) = true)
    (apart : rows.IsChain fun a b =>
      ∃ ha hb, ((a.getLast ha).tag == (b.head hb).tag) = false) :
    join rows.flatten = rows.map Item.ofRun := by
  induction rows with
  | nil => rfl
  | cons run rows ih =>
      obtain ⟨first, others⟩ := List.forall_mem_cons.mp alike
      have run_filled : run ≠ [] := fun empty => filled (empty ▸ List.mem_cons_self)
      have rows_filled : [] ∉ rows := fun listed => filled (List.mem_cons_of_mem _ listed)
      rw [List.flatten_cons, join_append_of_run run_filled first, List.map_cons,
        ih rows_filled others apart.tail]
      apply joinStep_of_ne
      intro item ahead
      cases rows with
      | nil => cases ahead
      | cons next rows =>
          cases ahead
          obtain ⟨⟨_, hb, differ⟩, _⟩ := List.isChain_cons_cons.mp apart
          -- The last of a run and the first of the next stand for their runs.
          rw [← tag_of_mem_run first _ (List.getLast_mem run_filled),
            ← tag_of_mem_run (List.forall_mem_cons.mp others).1 _ (List.head_mem hb)]
          exact beq_eq_false_iff_ne.mp differ

theorem join_eq_merged (items : List Item) : join items = merged items := by
  have cut : items = (runs items).flatten := (List.flatten_splitBy _ items).symm
  have joined : join (runs items).flatten = (runs items).map Item.ofRun :=
    join_flatten (List.nil_notMem_splitBy _ items)
      (fun _ listed => List.isChain_of_mem_splitBy listed)
      (List.isChain_getLast_head_splitBy (fun a b : Item => a.tag == b.tag) items)
  rw [← cut] at joined
  exact joined

/-! ## What joining keeps -/

/-- Every byte of a value stays, once and in its place. -/
theorem flatMap_value_join (items : List Item) :
    (join items).flatMap Item.value = items.flatMap Item.value := by
  induction items with
  | nil => rfl
  | cons piece items ih =>
      show (joinStep piece (join items)).flatMap Item.value = _
      rw [List.flatMap_cons, ← ih]
      cases join items with
      | nil => rfl
      | cons item rest =>
          by_cases same : piece.tag = item.tag
          · simp [joinStep, same]
          · simp [joinStep, same]

/-- Joining brings no tags of its own. -/
theorem exists_tag_of_mem_join {items : List Item} {item : Item} (listed : item ∈ join items) :
    ∃ piece ∈ items, piece.tag = item.tag := by
  rw [join_eq_merged] at listed
  obtain ⟨run, among, rfl⟩ := List.mem_map.mp listed
  have filled : run ≠ [] := List.ne_nil_of_mem_splitBy among
  have first : run.head filled ∈ items := by
    rw [← List.flatten_splitBy (fun a b : Item => a.tag == b.tag) items]
    exact List.mem_flatten.mpr ⟨run, among, List.head_mem filled⟩
  exact ⟨_, first, tag_of_mem_run (List.isChain_of_mem_splitBy among) _ (List.head_mem filled)⟩

theorem isChain_joinStep {piece : Item} {items : List Item}
    (distinct : items.IsChain fun a b => a.tag ≠ b.tag) :
    (joinStep piece items).IsChain fun a b => a.tag ≠ b.tag := by
  cases items with
  | nil => exact List.isChain_singleton piece
  | cons item rest =>
      by_cases same : piece.tag = item.tag
      · rw [joinStep, if_pos same, same]
        rw [List.isChain_cons] at distinct ⊢
        exact distinct
      · rw [joinStep, if_neg same]
        exact List.isChain_cons_cons.mpr ⟨same, distinct⟩

/-- After joining no neighbours share a tag. -/
theorem isChain_join (items : List Item) :
    (join items).IsChain fun a b => a.tag ≠ b.tag := by
  induction items with
  | nil => exact List.isChain_nil
  | cons piece items ih => exact isChain_joinStep ih

theorem isChain_of_decode {bytes : Bytes} {message : Message}
    (decoded : decode bytes = .ok message) :
    message.items.IsChain fun a b => a.tag ≠ b.tag := by
  unfold decode at decoded
  cases read : pieces 0 bytes with
  | error e =>
      rw [read] at decoded
      cases decoded
  | ok items =>
      rw [read] at decoded
      cases decoded
      exact isChain_join items

/-! ## Writing again what was read -/

/-- An item under a known tag, as the field that it was written from. -/
def Item.field? (item : Item) : Option (Tag × Bytes) :=
  item.knownTag?.map fun tag => (tag, item.value)

/-- Items under known tags are the items of their fields. -/
theorem map_itemOf_filterMap {items : List Item}
    (known : ∀ item ∈ items, item.knownTag?.isSome) :
    (items.filterMap Item.field?).map itemOf = items := by
  induction items with
  | nil => rfl
  | cons item items ih =>
      obtain ⟨first, others⟩ := List.forall_mem_cons.mp known
      obtain ⟨tag, found⟩ := Option.isSome_iff_exists.mp first
      have field : item.field? = some (tag, item.value) := by
        rw [Item.field?, found]
        rfl
      have same : itemOf (tag, item.value) = item := by
        rw [itemOf, Tag.byte_of_ofByte? found]
      rw [List.filterMap_cons_some field, List.map_cons, ih others, same]

/-- Fields that are written are read as they were given, with every longest run of
neighbours under one tag made into one item. Without neighbours under one tag that is
what was written. And what was read, if all its tags are known, can be written and read
again without a change. -/
theorem roundTrip :
    (∀ fields, decode (encode fields) = .ok ⟨merged (fields.map itemOf)⟩) ∧
      (∀ fields : List (Tag × Bytes), (fields.map Prod.fst).IsChain (· ≠ ·) →
        decode (encode fields) = .ok ⟨fields.map itemOf⟩) ∧
      (∀ bytes message, decode bytes = .ok message →
        (∀ item ∈ message.items, item.knownTag?.isSome) →
        decode (encode (message.items.filterMap Item.field?)) = .ok message) := by
  refine ⟨?_, ?_, ?_⟩
  · intro fields
    rw [decode_encode, join_eq_merged]
  · intro fields distinct
    exact decode_encode_of_distinct distinct
  · intro bytes message decoded known
    rw [decode_encode, map_itemOf_filterMap known, join_eq_self (isChain_of_decode decoded)]

/-- A value that fills its pieces exactly, with a value under the same tag behind it. -/
theorem roundTrip_full :
    let full : Bytes := List.replicate 255 7
    let message : Message := ⟨[⟨3, full ++ [8]⟩, ⟨6, [1]⟩]⟩
    decode (encode [(.publicKey, full), (.publicKey, [8]), Tlv.stateField 1]) = .ok message ∧
      (∀ item ∈ message.items, item.knownTag?.isSome) ∧
      decode (encode (message.items.filterMap Item.field?)) = .ok message := by
  intro full message
  have decoded : decode (encode [(.publicKey, full), (.publicKey, [8]), Tlv.stateField 1]) =
      .ok message := by
    decide +kernel
  have known : ∀ item ∈ message.items, item.knownTag?.isSome := by
    simp only [message, List.forall_mem_cons]
    exact ⟨rfl, rfl, nofun⟩
  exact ⟨decoded, known, roundTrip.2.2 _ message decoded known⟩

end HomePairing.Tlv
