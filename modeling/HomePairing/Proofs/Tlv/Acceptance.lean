import HomePairing.Proofs.Tlv.Runs

/-!
# What can be read

A string can be read exactly if it is made of complete items: `Complete`. Every other
string is complete items and then a broken one (`exists_parts`), and the part before it is
the longest beginning that can be read (`length_le_of_complete`). The error says where that
part ends, and what the broken item lacks (`decode_exact`).

`walk` reads the same items in the way of a cursor: it asks for each byte by its position,
and joins each item to the last one before it. It would fail at a position that is not in
the string, and it never does (`walk_eq`).
-/

namespace HomePairing.Tlv

/-! ## Complete and broken items -/

/-- A string that is made of complete items, and these items in order. -/
inductive Complete : Bytes → List Item → Prop
  | nil : Complete [] []
  | cons {tag length : UInt8} {value rest : Bytes} {items : List Item} :
      value.length = length.toNat → Complete rest items →
      Complete (tag :: length :: (value ++ rest)) (⟨tag, value⟩ :: items)

/-- A string that ends within its first item, and how many bytes that item needs. -/
inductive Broken : Bytes → Nat → Prop
  /-- The tag is all there is. -/
  | loneTag (tag : UInt8) : Broken [tag] 2
  | short {tag length : UInt8} {rest : Bytes} :
      rest.length < length.toNat → Broken (tag :: length :: rest) (2 + length.toNat)

theorem Broken.length_lt {bytes : Bytes} {needed : Nat} (broken : Broken bytes needed) :
    bytes.length < needed := by
  cases broken with
  | loneTag tag =>
      show 1 < 2
      omega
  | short lacking =>
      simp only [List.length_cons]
      omega

/-- Every string is complete items, and then nothing or a broken one. -/
theorem exists_parts : (bytes : Bytes) →
    ∃ front items tail, bytes = front ++ tail ∧ Complete front items ∧
      (tail = [] ∨ ∃ needed, Broken tail needed)
  | [] => ⟨[], [], [], rfl, .nil, .inl rfl⟩
  | [tag] => ⟨[], [], [tag], rfl, .nil, .inr ⟨2, .loneTag tag⟩⟩
  | tag :: length :: rest => by
      by_cases lacking : rest.length < length.toNat
      · exact ⟨[], [], tag :: length :: rest, rfl, .nil, .inr ⟨_, .short lacking⟩⟩
      · have whole : (rest.take length.toNat).length = length.toNat := by
          rw [List.length_take]
          omega
        obtain ⟨front, items, tail, parts, complete, ending⟩ :=
          exists_parts (rest.drop length.toNat)
        refine ⟨tag :: length :: (rest.take length.toNat ++ front), _, tail, ?_,
          .cons whole complete, ending⟩
        rw [List.cons_append, List.cons_append, List.append_assoc, ← parts,
          List.take_append_drop]
termination_by bytes => bytes.length
decreasing_by
  simp only [List.length_cons, List.length_drop]
  omega

/-- Behind complete items the items of a longer string go on. -/
theorem Complete.rest {front more : Bytes} {items others : List Item}
    (complete : Complete front items) (longer : Complete (front ++ more) others) :
    ∃ remaining, Complete more remaining := by
  induction complete generalizing others with
  | nil => exact ⟨others, longer⟩
  | @cons tag length value rest items whole complete ih =>
      rw [List.cons_append, List.cons_append, List.append_assoc] at longer
      -- The header settles how long the first item is.
      generalize same : value ++ (rest ++ more) = body at longer
      cases longer with
      | @cons _ _ value' rest' others whole' others_complete =>
          obtain ⟨_, remaining⟩ := List.append_inj same (whole.trans whole'.symm)
          exact ih (remaining ▸ others_complete)

/-- A broken item starts with no complete one. -/
theorem Broken.eq_nil_of_prefix {tail more : Bytes} {needed : Nat} {items : List Item}
    (broken : Broken tail needed) (complete : Complete more items) (ahead : more <+: tail) :
    more = [] := by
  obtain ⟨back, parts⟩ := ahead
  cases complete with
  | nil => rfl
  | @cons tag length value rest items whole complete =>
      cases broken with
      | loneTag tag' => simp at parts
      | @short tag' length' rest' lacking =>
          simp only [List.cons_append, List.cons.injEq] at parts
          obtain ⟨_, lengths, body⟩ := parts
          have long : value.length ≤ rest'.length := by
            rw [← body, List.length_append, List.length_append]
            omega
          rw [← lengths] at lacking
          omega

/-- No longer beginning of a string is complete than what stands before its broken item. -/
theorem length_le_of_complete {front tail beginning : Bytes} {items others : List Item}
    {needed : Nat} (complete : Complete front items) (broken : Broken tail needed)
    (other : Complete beginning others) (ahead : beginning <+: front ++ tail) :
    beginning.length ≤ front.length := by
  by_contra longer
  obtain ⟨more, parts⟩ : front <+: beginning :=
    List.prefix_of_prefix_length_le (List.prefix_append front tail) ahead (by omega)
  rw [← parts] at other ahead
  obtain ⟨remaining, complete_more⟩ := complete.rest other
  have nothing : more = [] :=
    broken.eq_nil_of_prefix complete_more ((List.prefix_append_right_inj front).mp ahead)
  rw [← parts, nothing, List.append_nil] at longer
  omega

/-! ## Reading piece by piece -/

/-- Complete items are read first, whatever comes after them. -/
theorem pieces_append {front : Bytes} {items : List Item} (complete : Complete front items)
    (offset : Nat) (tail : Bytes) :
    pieces offset (front ++ tail) =
      (pieces (offset + front.length) tail).map (items ++ ·) := by
  induction complete generalizing offset with
  | nil =>
      show pieces offset tail = (pieces offset tail).map fun others => others
      cases pieces offset tail <;> rfl
  | @cons tag length value rest items whole complete ih =>
      have place : offset + 2 + length.toNat + rest.length =
          offset + (tag :: length :: (value ++ rest)).length := by
        simp only [List.length_cons, List.length_append]
        omega
      show pieces offset (tag :: length :: (value ++ rest ++ tail)) = _
      rw [List.append_assoc, pieces]
      simp only [← whole, List.take_left', List.drop_left', Nat.lt_irrefl, if_false]
      rw [whole, ih, place]
      cases pieces (offset + (tag :: length :: (value ++ rest)).length) tail <;> rfl

theorem pieces_of_broken {bytes : Bytes} {needed : Nat} (broken : Broken bytes needed)
    (offset : Nat) : pieces offset bytes = .error (.truncated offset needed bytes.length) := by
  cases broken with
  | loneTag tag =>
      rw [pieces]
      rfl
  | @short tag length rest lacking =>
      have available : (tag :: length :: rest).length = 2 + rest.length := by
        simp only [List.length_cons]
        omega
      have short : (rest.take length.toNat).length < length.toNat := by
        rw [List.length_take]
        omega
      rw [pieces, available]
      exact if_pos short

theorem pieces_of_complete {bytes : Bytes} {items : List Item} (complete : Complete bytes items)
    (offset : Nat) : pieces offset bytes = .ok items := by
  have read := pieces_append complete offset []
  rw [List.append_nil, pieces] at read
  rw [read]
  show Except.ok (items ++ []) = Except.ok items
  rw [List.append_nil]

theorem decode_of_complete {bytes : Bytes} {items : List Item}
    (complete : Complete bytes items) : decode bytes = .ok ⟨merged items⟩ := by
  rw [decode, pieces_of_complete complete, ← join_eq_merged]

theorem decode_of_broken {front tail : Bytes} {items : List Item} {needed : Nat}
    (complete : Complete front items) (broken : Broken tail needed) :
    decode (front ++ tail) = .error (.truncated front.length needed tail.length) := by
  rw [decode, pieces_append complete, pieces_of_broken broken, Nat.zero_add]
  rfl

/-! ## Reading by position -/

/-- Join a piece to the last item if that has its tag, and put it behind the items if not. -/
def extend (items : List Item) (piece : Item) : List Item :=
  match items.getLast? with
  | some last =>
    if last.tag = piece.tag then items.dropLast ++ [⟨last.tag, last.value ++ piece.value⟩]
    else items ++ [piece]
  | none => [piece]

/-- The bytes from one position up to another, if the string goes that far. -/
def slice? (bytes : Bytes) (start stop : Nat) : Option Bytes :=
  if start ≤ stop ∧ stop ≤ bytes.length then some ((bytes.take stop).drop start) else none

/-- Read on from a position, with the items read so far. There is no result if a position
is asked for that is not in the string. -/
def walkFrom (bytes : Bytes) (position : Nat) (items : List Item) :
    Option (Except Error (List Item)) :=
  if position < bytes.length then
    let available := bytes.length - position
    if available < 2 then
      some (.error (.truncated position 2 available))
    else
      match bytes[position]?, bytes[position + 1]? with
      | some tag, some length =>
        let stop := position + 2 + length.toNat
        if available < 2 + length.toNat then
          some (.error (.truncated position (2 + length.toNat) available))
        else
          match slice? bytes (position + 2) stop with
          | some value => walkFrom bytes stop (extend items ⟨tag, value⟩)
          | none => none
      | _, _ => none
  else
    some (.ok items)
termination_by bytes.length - position
decreasing_by omega

/-- Read a string by position, from its beginning. -/
def walk (bytes : Bytes) : Option (Except Error Message) :=
  (walkFrom bytes 0 []).map fun result => result.map Message.mk

theorem extend_append (front : List Item) (last piece : Item) :
    extend (front ++ [last]) piece =
      if last.tag = piece.tag then front ++ [⟨last.tag, last.value ++ piece.value⟩]
      else front ++ [last] ++ [piece] := by
  rw [extend, List.getLast?_concat]
  simp only [List.dropLast_concat]

/-- Joining each piece to what stands before it comes to joining it to what follows. -/
theorem foldl_extend_append (pieces front : List Item) (last : Item) :
    pieces.foldl extend (front ++ [last]) = front ++ joinStep last (join pieces) := by
  induction pieces generalizing front last with
  | nil => rfl
  | cons piece pieces ih =>
      rw [List.foldl_cons, extend_append]
      show _ = front ++ joinStep last (joinStep piece (join pieces))
      by_cases same : last.tag = piece.tag
      · rw [if_pos same, ih]
        have joined := joinStep_joinStep last.tag last.value piece.value (join pieces)
        rw [show (⟨last.tag, piece.value⟩ : Item) = piece by rw [same]] at joined
        rw [← joined]
      · rw [if_neg same, ih, List.append_assoc]
        -- The piece stays apart from the last item, which so stays as it is.
        have apart : joinStep last (joinStep piece (join pieces)) =
            last :: joinStep piece (join pieces) := by
          apply joinStep_of_ne
          intro item ahead
          have tags := head?_joinStep piece (join pieces)
          rw [Option.mem_def.mp ahead] at tags
          simp only [Option.map_some, Option.some.injEq] at tags
          rw [tags]
          exact same
        rw [apart]
        rfl

theorem foldl_extend (pieces : List Item) : pieces.foldl extend [] = join pieces := by
  cases pieces with
  | nil => rfl
  | cons piece pieces => exact foldl_extend_append pieces [] piece

theorem slice?_append (front value back : Bytes) :
    slice? (front ++ (value ++ back)) front.length (front.length + value.length) =
      some value := by
  have inside : front.length ≤ front.length + value.length ∧
      front.length + value.length ≤ (front ++ (value ++ back)).length := by
    simp only [List.length_append]
    omega
  rw [slice?, if_pos inside, ← List.append_assoc, ← List.length_append, List.take_left' rfl,
    List.drop_left' rfl]

theorem walkFrom_end (bytes : Bytes) (items : List Item) :
    walkFrom bytes bytes.length items = some (.ok items) := by
  rw [walkFrom, if_neg (Nat.lt_irrefl _)]

/-- An item that is whole is read, and the cursor moves behind it. -/
theorem walkFrom_of_whole {front value back : Bytes} {tag length : UInt8}
    (whole : value.length = length.toNat) (items : List Item) :
    walkFrom (front ++ tag :: length :: (value ++ back)) front.length items =
      walkFrom (front ++ tag :: length :: (value ++ back))
        (front ++ tag :: length :: value).length (extend items ⟨tag, value⟩) := by
  have size : (front ++ tag :: length :: (value ++ back)).length =
      front.length + (2 + value.length + back.length) := by
    simp only [List.length_append, List.length_cons]
    omega
  have tag_read : (front ++ tag :: length :: (value ++ back))[front.length]? = some tag := by
    simp
  have length_read :
      (front ++ tag :: length :: (value ++ back))[front.length + 1]? = some length := by
    simp
  have value_read : slice? (front ++ tag :: length :: (value ++ back)) (front.length + 2)
      (front.length + 2 + length.toNat) = some value := by
    have read := slice?_append (front ++ [tag, length]) value back
    rw [List.length_append, whole] at read
    simpa using read
  have stop : (front ++ tag :: length :: value).length = front.length + 2 + length.toNat := by
    simp only [List.length_append, List.length_cons]
    omega
  rw [walkFrom, if_pos (by omega), size, Nat.add_sub_cancel_left, if_neg (by omega), tag_read,
    length_read, stop]
  simp only [if_neg (show ¬ 2 + value.length + back.length < 2 + length.toNat by omega),
    value_read]

theorem walkFrom_of_broken {tail : Bytes} {needed : Nat} (broken : Broken tail needed)
    (front : Bytes) (items : List Item) :
    walkFrom (front ++ tail) front.length items =
      some (.error (.truncated front.length needed tail.length)) := by
  have size : (front ++ tail).length = front.length + tail.length := List.length_append
  cases broken with
  | loneTag tag =>
      rw [walkFrom, if_pos (by simp), size, Nat.add_sub_cancel_left]
      exact if_pos (show 1 < 2 by omega)
  | @short tag length rest lacking =>
      have tag_read : (front ++ tag :: length :: rest)[front.length]? = some tag := by simp
      have length_read : (front ++ tag :: length :: rest)[front.length + 1]? = some length := by
        simp
      have available : (tag :: length :: rest).length = 2 + rest.length := by
        simp only [List.length_cons]
        omega
      rw [walkFrom, if_pos (by omega), size, Nat.add_sub_cancel_left, available,
        if_neg (by omega), tag_read, length_read]
      exact if_pos (show 2 + rest.length < 2 + length.toNat by omega)

/-- The cursor goes through complete items and extends what it has by each of them. -/
theorem walkFrom_of_complete {middle : Bytes} {pieces : List Item}
    (complete : Complete middle pieces) (front tail : Bytes) (items : List Item) :
    walkFrom (front ++ (middle ++ tail)) front.length items =
      walkFrom (front ++ (middle ++ tail)) (front ++ middle).length
        (pieces.foldl extend items) := by
  induction complete generalizing front items with
  | nil => rw [List.append_nil, List.foldl_nil]
  | @cons tag length value rest pieces whole complete ih =>
      have behind := ih (front ++ tag :: length :: value) (extend items ⟨tag, value⟩)
      simp only [List.append_assoc, List.cons_append] at behind ⊢
      rw [walkFrom_of_whole whole, behind]
      rfl

/-- Reading by position is reading: no position is asked for that is not in the string. -/
theorem walk_eq (bytes : Bytes) : walk bytes = some (decode bytes) := by
  obtain ⟨front, items, tail, parts, complete, ending⟩ := exists_parts bytes
  have begins := walkFrom_of_complete complete [] tail []
  rw [List.nil_append, foldl_extend] at begins
  rw [walk, parts]
  rw [show ([] : Bytes).length = 0 from rfl] at begins
  rcases ending with nothing | ⟨needed, broken⟩
  · rw [begins, nothing, List.append_nil, List.nil_append, walkFrom_end,
      decode_of_complete complete, ← join_eq_merged]
    rfl
  · rw [begins, List.nil_append, walkFrom_of_broken broken, decode_of_broken complete broken]
    rfl

/-! ## Acceptance -/

/-- Where the reading of a string stops, how many bytes the item there needs, and how many
there are. -/
structure Stop (bytes : Bytes) (offset needed available : Nat) : Prop where
  complete : ∃ items, Complete (bytes.take offset) items
  longest : ∀ beginning items, beginning <+: bytes → Complete beginning items →
    beginning.length ≤ offset
  rest : offset + available = bytes.length
  /-- A tag alone needs a length beside it; a header says what the item needs. -/
  header : (∃ tag, bytes.drop offset = [tag] ∧ needed = 2) ∨
    ∃ tag length value, bytes.drop offset = tag :: length :: value ∧
      needed = 2 + length.toNat
  lacking : available < needed

theorem stop_of_broken {front tail : Bytes} {items : List Item} {needed : Nat}
    (complete : Complete front items) (broken : Broken tail needed) :
    Stop (front ++ tail) front.length needed tail.length where
  complete := ⟨items, by rw [List.take_left' rfl]; exact complete⟩
  longest beginning others ahead other := length_le_of_complete complete broken other ahead
  rest := List.length_append.symm
  header := by
    rw [List.drop_left' rfl]
    cases broken with
    | loneTag tag => exact .inl ⟨tag, rfl, rfl⟩
    | short _ => exact .inr ⟨_, _, _, rfl, rfl⟩
  lacking := broken.length_lt

/-- What cannot be read is refused where its broken item starts. -/
theorem exists_stop {bytes : Bytes} (incomplete : ¬ ∃ items, Complete bytes items) :
    ∃ offset needed available, decode bytes = .error (.truncated offset needed available) ∧
      Stop bytes offset needed available := by
  obtain ⟨front, items, tail, parts, complete, ending⟩ := exists_parts bytes
  rcases ending with nothing | ⟨needed, broken⟩
  · rw [nothing, List.append_nil] at parts
    exact absurd ⟨items, parts ▸ complete⟩ incomplete
  · rw [parts]
    exact ⟨_, _, _, decode_of_broken complete broken, stop_of_broken complete broken⟩

/-- A string is read exactly if it is made of complete items. What is read is these items
with their runs merged: every byte of a value is kept, once and in order, and no neighbours
have one tag. Of any other string the error says where the longest beginning that is made of
complete items ends, how much the broken item there needs and how much there is. No position
outside the string is ever asked for. -/
theorem decode_exact (bytes : Bytes) :
    ((∃ message, decode bytes = .ok message) ↔ ∃ items, Complete bytes items) ∧
      (∀ items, Complete bytes items →
        ∃ message, decode bytes = .ok message ∧ message.items = merged items ∧
          message.items.flatMap Item.value = items.flatMap Item.value ∧
          message.items.IsChain fun a b => a.tag ≠ b.tag) ∧
      ((¬ ∃ items, Complete bytes items) →
        ∃ offset needed available,
          decode bytes = .error (.truncated offset needed available) ∧
            Stop bytes offset needed available) ∧
      walk bytes = some (decode bytes) := by
  refine ⟨⟨?_, ?_⟩, ?_, exists_stop, walk_eq bytes⟩
  · rintro ⟨message, read⟩
    by_contra incomplete
    obtain ⟨_, _, _, refused, _⟩ := exists_stop incomplete
    rw [read] at refused
    cases refused
  · rintro ⟨items, complete⟩
    exact ⟨_, decode_of_complete complete⟩
  · intro items complete
    refine ⟨_, decode_of_complete complete, rfl, ?_, ?_⟩
    · show (merged items).flatMap Item.value = _
      rw [← join_eq_merged, flatMap_value_join]
    · show (merged items).IsChain _
      rw [← join_eq_merged]
      exact isChain_join items

/-- Two pieces of a key, an item with an unknown tag, and an item that lacks a byte. -/
theorem decode_exact_short :
    let whole : Bytes := [3, 2, 10, 11, 3, 1, 12, 200, 0]
    let items : List Item := [⟨3, [10, 11]⟩, ⟨3, [12]⟩, ⟨200, []⟩]
    Complete whole items ∧ (¬ ∃ items, Complete (whole ++ [6, 2, 1]) items) ∧
      (∃ message, decode whole = .ok message ∧ message.items = merged items) ∧
      Stop (whole ++ [6, 2, 1]) 9 4 3 := by
  intro whole items
  have complete : Complete whole items :=
    @Complete.cons 3 2 [10, 11] _ _ rfl <|
      @Complete.cons 3 1 [12] _ _ rfl <|
        @Complete.cons 200 0 [] _ _ rfl .nil
  have refused : decode (whole ++ [6, 2, 1]) = .error (.truncated 9 4 3) := by decide +kernel
  have incomplete : ¬ ∃ items, Complete (whole ++ [6, 2, 1]) items := by
    intro readable
    obtain ⟨message, read⟩ := (decode_exact (whole ++ [6, 2, 1])).1.mpr readable
    rw [refused] at read
    cases read
  obtain ⟨message, read, same, _⟩ := (decode_exact whole).2.1 items complete
  obtain ⟨offset, needed, available, error, stop⟩ :=
    (decode_exact (whole ++ [6, 2, 1])).2.2.1 incomplete
  rw [refused] at error
  cases error
  exact ⟨complete, incomplete, ⟨message, read, same⟩, stop⟩

end HomePairing.Tlv
