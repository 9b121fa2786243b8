import HomePairing.Store.Registry

/-!
# What the changes of a registry do

Every operation is described by what a lookup finds after it, so nobody who reads
these lemmas has to look into the sorted entries. Three properties come out of that:

* **filing** — a record lies under its own controller's identifier
  (`Registry.WellFiled`);
* **keys** — a checked insertion and a cascading removal never exchange the key of
  a controller that keeps its place;
* **manageability** — there is nobody, or there is an admin
  (`Registry.Manageable`). The cascade restores it by itself; an insertion keeps it
  unless it turns the only admin into a user (`manageable_insert_iff`).
-/

namespace HomePairing.Registry

/-! ## Lookups -/

/-- Strictly ascending identifiers name at most one entry each. -/
theorem find?_eq_some_iff {registry : Registry} {id : String} {record : PairingRecord} :
    registry.find? id = some record ↔ (id, record) ∈ registry.entries := by
  obtain ⟨entries, ascending⟩ := registry
  simp only [find?]
  induction entries with
  | nil => simp
  | cons head rest ih =>
      obtain ⟨hhead, hrest⟩ := List.pairwise_cons.mp ascending
      by_cases same : head.1 = id
      -- The rest lies strictly above the head, so only the head has its identifier.
      · subst same
        have absent : (head.1, record) ∉ rest := fun mem =>
          absurd (hhead _ mem) (String.lt_irrefl _)
        simp [absent, Prod.ext_iff, eq_comm]
      · have apart : (id, record) ≠ head := fun h => same (h ▸ rfl)
        simpa [same, apart] using ih hrest

theorem find?_insert (registry : Registry) (id other : String) (record : PairingRecord) :
    (registry.insert id record).find? other =
      if other = id then some record else registry.find? other := by
  by_cases same : other = id
  · rw [if_pos same, same, find?_insert_self]
  · rw [if_neg same, find?_insert_of_ne registry record same]

theorem find?_erase (registry : Registry) (id other : String) :
    (registry.erase id).find? other = if other = id then none else registry.find? other := by
  by_cases same : other = id
  · rw [if_pos same, same, find?_erase_self]
  · rw [if_neg same, find?_erase_of_ne registry same]

@[simp] theorem find?_empty (id : String) : empty.find? id = none := rfl

theorem isEmpty_iff {registry : Registry} :
    registry.isEmpty = true ↔ ∀ id, registry.find? id = none := by
  constructor
  · intro h id
    have none_filed : registry.entries = [] := List.isEmpty_iff.mp h
    simp [find?, none_filed]
  · intro h
    refine List.isEmpty_iff.mpr (List.eq_nil_iff_forall_not_mem.mpr ?_)
    rintro ⟨id, record⟩ mem
    have found := find?_eq_some_iff.mpr mem
    rw [h id] at found
    exact absurd found (by simp)

theorem mem_ids_iff {registry : Registry} {id : String} :
    id ∈ registry.ids ↔ (registry.find? id).isSome = true := by
  simp only [ids, List.mem_map, Option.isSome_iff_exists, find?_eq_some_iff, Prod.exists,
    exists_and_right, exists_eq_right]

/-- The first record is the only one. -/
theorem entries_insert_of_isEmpty {registry : Registry} (empty : registry.isEmpty = true)
    (id : String) (record : PairingRecord) :
    (registry.insert id record).entries = [(id, record)] := by
  have none_filed : registry.entries = [] := List.isEmpty_iff.mp empty
  simp [insert, insertEntry, none_filed]

theorem size_of_isEmpty {registry : Registry} (empty : registry.isEmpty = true) :
    registry.size = 0 :=
  List.length_eq_zero_iff.mpr (List.isEmpty_iff.mp empty)

theorem hasAdmin_iff {registry : Registry} :
    registry.hasAdmin = true ↔
      ∃ id record, registry.find? id = some record ∧ record.permissions = .admin := by
  simp only [hasAdmin, List.any_eq_true, Permissions.isAdmin_iff]
  constructor
  · rintro ⟨⟨id, record⟩, mem, admin⟩
    exact ⟨id, record, find?_eq_some_iff.mpr mem, admin⟩
  · rintro ⟨id, record, found, admin⟩
    exact ⟨(id, record), find?_eq_some_iff.mp found, admin⟩

/-! ## Changes with conditions -/

theorem insertBounded_eq_ok {registry next : Registry} {capacity : Nat}
    {record : PairingRecord} (h : registry.insertBounded capacity record = .ok next) :
    next = registry.insert record.controllerId record := by
  unfold insertBounded at h
  split at h
  · cases h
  · injection h with h
    exact h.symm

/-- A bounded insertion fails for lack of room, and only a new record needs any. -/
theorem insertBounded_eq_error {registry : Registry} {capacity : Nat} {record : PairingRecord}
    {e : StoreError} (h : registry.insertBounded capacity record = .error e) :
    e = .full capacity ∧ registry.find? record.controllerId = none ∧
      capacity ≤ registry.size := by
  unfold insertBounded at h
  split at h
  · next full =>
      cases h
      simpa using full
  · cases h

/-- A checked insertion that goes through files the record, and finds the same key
if the controller was there before. -/
theorem insertChecked_eq_ok {registry next : Registry} {capacity : Nat}
    {record : PairingRecord} (h : registry.insertChecked capacity record = .ok next) :
    next = registry.insert record.controllerId record ∧
      ∀ known, registry.find? record.controllerId = some known →
        known.publicKey = record.publicKey := by
  unfold insertChecked at h
  split at h
  · next known found =>
      split at h
      · next same =>
          refine ⟨insertBounded_eq_ok h, fun other hother => ?_⟩
          rw [found] at hother
          cases hother
          exact same
      · cases h
  · next absent =>
      refine ⟨insertBounded_eq_ok h, fun other hother => ?_⟩
      rw [absent] at hother
      cases hother

/-- A checked insertion fails for another key, or for lack of room. -/
theorem insertChecked_eq_error {registry : Registry} {capacity : Nat} {record : PairingRecord}
    {e : StoreError} (h : registry.insertChecked capacity record = .error e) :
    e = .keyMismatch record.controllerId ∨ e = .full capacity := by
  unfold insertChecked at h
  split at h
  · split at h
    · exact .inr (insertBounded_eq_error h).1
    · cases h
      exact .inl rfl
  · exact .inr (insertBounded_eq_error h).1

/-- A new controller is filed if there is room. -/
theorem insertChecked_of_absent {registry : Registry} {capacity : Nat} {record : PairingRecord}
    (absent : registry.find? record.controllerId = none) (room : registry.size < capacity) :
    registry.insertChecked capacity record =
      .ok (registry.insert record.controllerId record) := by
  simp only [insertChecked, insertBounded, absent]
  rw [if_neg (by simpa using room)]

/-- What goes through had a record already, or room for one more. -/
theorem room_of_insertBounded {registry next : Registry} {capacity : Nat}
    {record : PairingRecord} (h : registry.insertBounded capacity record = .ok next) :
    (registry.find? record.controllerId).isSome = true ∨ registry.size < capacity := by
  unfold insertBounded at h
  split at h
  · cases h
  · next fits =>
      cases found : registry.find? record.controllerId with
      | some known => exact .inl rfl
      | none => simpa [found] using fits

theorem room_of_insertChecked {registry next : Registry} {capacity : Nat}
    {record : PairingRecord} (h : registry.insertChecked capacity record = .ok next) :
    (registry.find? record.controllerId).isSome = true ∨ registry.size < capacity := by
  unfold insertChecked at h
  split at h
  · next known found => exact .inl (by rw [found]; rfl)
  · exact room_of_insertBounded h

theorem find?_eraseCascading (registry : Registry) (id other : String) :
    (registry.eraseCascading id).2.find? other =
      if (registry.erase id).hasAdmin = true ∧ other ≠ id then registry.find? other
      else none := by
  unfold eraseCascading
  by_cases admin : (registry.erase id).hasAdmin = true
  · by_cases same : other = id <;> simp [admin, same, find?_erase]
  · simp [admin]

/-! ## Filing -/

/-- Every record lies under its own controller's identifier. -/
def WellFiled (registry : Registry) : Prop :=
  ∀ id record, registry.find? id = some record → record.controllerId = id

theorem wellFiled_empty : WellFiled empty := by
  intro id record found
  cases found

/-- Filing a record under its controller's identifier keeps the order of filing. -/
theorem WellFiled.insert {registry : Registry} (h : registry.WellFiled)
    (record : PairingRecord) :
    (registry.insert record.controllerId record).WellFiled := by
  intro id other found
  rw [find?_insert] at found
  split at found
  · next same =>
      cases found
      exact same.symm
  · exact h id other found

theorem WellFiled.eraseCascading {registry : Registry} (h : registry.WellFiled)
    (id : String) : (registry.eraseCascading id).2.WellFiled := by
  intro other record found
  rw [find?_eraseCascading] at found
  split at found
  · exact h other record found
  · cases found

/-- Those who are taken out are those who were there and are not any more. -/
theorem WellFiled.mem_eraseCascading_iff {registry : Registry} (filed : registry.WellFiled)
    (id other : String) :
    other ∈ (registry.eraseCascading id).1 ↔
      (registry.find? other).isSome = true ∧
        (registry.eraseCascading id).2.find? other = none := by
  have first : other ∈ (registry.find? id).toList.map (·.controllerId) ↔
      other = id ∧ (registry.find? id).isSome = true := by
    cases found : registry.find? id with
    | none => simp
    | some record => simp [filed id record found]
  have rest : other ∈ (registry.erase id).ids ↔
      other ≠ id ∧ (registry.find? other).isSome = true := by
    rw [mem_ids_iff, find?_erase]
    by_cases same : other = id <;> simp [same]
  rw [find?_eraseCascading, Registry.eraseCascading]
  cases admin : (registry.erase id).hasAdmin with
  | true =>
      rw [if_pos rfl, first]
      by_cases same : other = id
      · simp [same]
      · rw [if_pos ⟨rfl, same⟩]
        refine iff_of_false (fun named => same named.1) ?_
        rintro ⟨there, gone⟩
        rw [gone] at there
        cases there
  | false =>
      rw [if_neg Bool.false_ne_true, List.mem_append, first, rest, if_neg (by simp)]
      by_cases same : other = id <;> simp [same]

/-! ## Size -/

theorem length_insertEntry_le (id : String) (record : PairingRecord)
    (entries : List (String × PairingRecord)) :
    (insertEntry id record entries).length ≤ entries.length + 1 := by
  induction entries with
  | nil => exact Nat.le_refl 1
  | cons entry rest ih =>
      unfold insertEntry
      split
      · exact Nat.le_refl _
      · split
        · exact Nat.le_succ _
        · exact Nat.succ_le_succ ih

/-- A record under an identifier that is there already takes no room. -/
theorem length_insertEntry_of_mem {id : String} {known : PairingRecord}
    (record : PairingRecord) {entries : List (String × PairingRecord)}
    (ascending : entries.Pairwise fun a b => a.1 < b.1) (listed : (id, known) ∈ entries) :
    (insertEntry id record entries).length = entries.length := by
  induction entries with
  | nil => cases listed
  | cons entry rest ih =>
      obtain ⟨first, others⟩ := List.pairwise_cons.mp ascending
      unfold insertEntry
      rcases List.mem_cons.mp listed with here | later
      · have same : id = entry.1 := congrArg Prod.fst here
        rw [if_neg (same ▸ String.lt_irrefl _), if_pos same]
        rfl
      · -- Whatever comes later lies above the first entry.
        have above : entry.1 < id := first _ later
        have apart : id ≠ entry.1 := fun same => String.lt_irrefl _ (same ▸ above)
        rw [if_neg (String.lt_asymm above), if_neg apart]
        exact congrArg (· + 1) (ih others later)

theorem length_insertEntry_of_notMem {id : String} (record : PairingRecord)
    {entries : List (String × PairingRecord)} (new : id ∉ entries.map Prod.fst) :
    (insertEntry id record entries).length = entries.length + 1 := by
  induction entries with
  | nil => rfl
  | cons entry rest ih =>
      rw [List.map_cons, List.mem_cons, not_or] at new
      obtain ⟨apart, later⟩ := new
      unfold insertEntry
      rw [if_neg apart]
      split
      · rfl
      · exact congrArg (· + 1) (ih later)

theorem size_insert_le_succ (registry : Registry) (id : String) (record : PairingRecord) :
    (registry.insert id record).size ≤ registry.size + 1 :=
  length_insertEntry_le id record registry.entries

theorem size_insert_of_isSome {registry : Registry} {id : String}
    (there : (registry.find? id).isSome = true) (record : PairingRecord) :
    (registry.insert id record).size = registry.size := by
  obtain ⟨known, found⟩ := Option.isSome_iff_exists.mp there
  exact length_insertEntry_of_mem record registry.ascending (find?_eq_some_iff.mp found)

theorem size_insert_of_absent {registry : Registry} {id : String}
    (absent : registry.find? id = none) (record : PairingRecord) :
    (registry.insert id record).size = registry.size + 1 := by
  refine length_insertEntry_of_notMem record fun taken => ?_
  have there := mem_ids_iff.mp taken
  rw [absent] at there
  cases there

theorem size_eraseCascading_le (registry : Registry) (id : String) :
    (registry.eraseCascading id).2.size ≤ registry.size := by
  unfold eraseCascading
  by_cases admin : (registry.erase id).hasAdmin = true
  · simp only [if_pos admin]
    exact List.length_filter_le _ _
  · simp only [if_neg admin]
    exact Nat.zero_le _

/-! ## Manageability -/

/-- Nobody is paired, or an admin is: the pairings can be managed, or there are none. -/
def Manageable (registry : Registry) : Prop :=
  registry.isEmpty = true ∨ registry.hasAdmin = true

/-- After a cascading removal somebody can manage what is left. -/
theorem manageable_eraseCascading (registry : Registry) (id : String) :
    (registry.eraseCascading id).2.Manageable := by
  unfold eraseCascading
  by_cases admin : (registry.erase id).hasAdmin = true
  · simp only [if_pos admin]
    exact .inr admin
  · simp only [if_neg admin]
    exact .inl rfl

theorem isEmpty_insert (registry : Registry) (id : String) (record : PairingRecord) :
    (registry.insert id record).isEmpty = false := by
  refine Bool.eq_false_iff.mpr fun h => ?_
  have found := isEmpty_iff.mp h id
  rw [find?_insert_self] at found
  cases found

/-- An insertion leaves something that can be managed exactly if it files an admin,
or an admin stands under another identifier. -/
theorem manageable_insert_iff {registry : Registry} {id : String} {record : PairingRecord} :
    (registry.insert id record).Manageable ↔
      record.permissions = .admin ∨
        ∃ other known, other ≠ id ∧ registry.find? other = some known ∧
          known.permissions = .admin := by
  rw [Manageable, isEmpty_insert, hasAdmin_iff]
  constructor
  · rintro (h | ⟨other, known, found, admin⟩)
    · cases h
    · rw [find?_insert] at found
      split at found
      · cases found
        exact .inl admin
      · next apart => exact .inr ⟨other, known, apart, found, admin⟩
  · rintro (admin | ⟨other, known, apart, found, admin⟩)
    · exact .inr ⟨id, record, find?_insert_self .., admin⟩
    · refine .inr ⟨other, known, ?_, admin⟩
      rw [find?_insert, if_neg apart]
      exact found

end HomePairing.Registry
