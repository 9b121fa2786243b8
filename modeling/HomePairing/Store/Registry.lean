import HomePairing.Record
import HomePairing.Store.Error

/-!
# The table of records

A registry files records under identifiers, in strictly ascending order of the
identifiers, so there is one record to an identifier and one order to list them
in. What the operations do is said through `find?`.
-/

namespace HomePairing

/-- Records filed under strictly ascending identifiers. -/
structure Registry where
  entries : List (String × PairingRecord)
  ascending : entries.Pairwise fun a b => a.1 < b.1
deriving DecidableEq

namespace Registry

def empty : Registry := ⟨[], .nil⟩

instance : Inhabited Registry := ⟨empty⟩

def ids (registry : Registry) : List String :=
  registry.entries.map (·.1)

def records (registry : Registry) : List PairingRecord :=
  registry.entries.map (·.2)

def size (registry : Registry) : Nat :=
  registry.entries.length

def isEmpty (registry : Registry) : Bool :=
  registry.entries.isEmpty

def hasAdmin (registry : Registry) : Bool :=
  registry.entries.any fun entry => entry.2.permissions.isAdmin

def find? (registry : Registry) (id : String) : Option PairingRecord :=
  (registry.entries.find? fun entry => entry.1 == id).map (·.2)

/-! ## Filing and taking out -/

/-- File a record among ordered entries; one under the same identifier gives way. -/
def insertEntry (id : String) (record : PairingRecord) :
    List (String × PairingRecord) → List (String × PairingRecord)
  | [] => [(id, record)]
  | entry :: rest =>
    if id < entry.1 then (id, record) :: entry :: rest
    else if id = entry.1 then (id, record) :: rest
    else entry :: insertEntry id record rest

theorem fst_mem_insertEntry {id : String} {record : PairingRecord}
    {entries : List (String × PairingRecord)} {entry : String × PairingRecord}
    (h : entry ∈ insertEntry id record entries) : entry = (id, record) ∨ entry ∈ entries := by
  induction entries with
  | nil => simpa [insertEntry] using h
  | cons head rest ih =>
    unfold insertEntry at h
    split at h
    · simpa using h
    · split at h
      · rcases List.mem_cons.1 h with rfl | h
        · exact .inl rfl
        · exact .inr (List.mem_cons_of_mem _ h)
      · rcases List.mem_cons.1 h with rfl | h
        · exact .inr List.mem_cons_self
        · exact (ih h).imp_right (List.mem_cons_of_mem _)

theorem pairwise_insertEntry {id : String} {record : PairingRecord}
    {entries : List (String × PairingRecord)}
    (h : entries.Pairwise fun a b => a.1 < b.1) :
    (insertEntry id record entries).Pairwise fun a b => a.1 < b.1 := by
  induction entries with
  | nil => simp [insertEntry]
  | cons head rest ih =>
    obtain ⟨hhead, hrest⟩ := List.pairwise_cons.1 h
    unfold insertEntry
    split
    · next hlt =>
      refine List.pairwise_cons.2 ⟨fun b hb => ?_, h⟩
      rcases List.mem_cons.1 hb with rfl | hb
      · exact hlt
      · exact String.lt_trans hlt (hhead b hb)
    · next hnlt =>
      split
      · next heq => exact List.pairwise_cons.2 ⟨fun b hb => heq ▸ hhead b hb, hrest⟩
      · next hne =>
        refine List.pairwise_cons.2 ⟨fun b hb => ?_, ih hrest⟩
        rcases fst_mem_insertEntry hb with rfl | hb
        · have hle : head.1 ≤ id := String.not_lt.1 hnlt
          exact Classical.byContradiction fun hge =>
            hne (String.le_antisymm (String.not_lt.1 hge) hle)
        · exact hhead b hb

def insert (registry : Registry) (id : String) (record : PairingRecord) : Registry :=
  ⟨insertEntry id record registry.entries, pairwise_insertEntry registry.ascending⟩

def erase (registry : Registry) (id : String) : Registry :=
  ⟨registry.entries.filter fun entry => entry.1 != id, registry.ascending.filter _⟩

/-- The registry of these entries; of two under one identifier the later stays. -/
def ofEntries (entries : List (String × PairingRecord)) : Registry :=
  entries.foldl (fun registry entry => registry.insert entry.1 entry.2) empty

/-! ## What a lookup finds afterwards -/

theorem find?_insert_self (registry : Registry) (id : String) (record : PairingRecord) :
    (registry.insert id record).find? id = some record := by
  unfold find? insert
  simp only
  induction registry.entries with
  | nil => simp [insertEntry]
  | cons head rest ih =>
    unfold insertEntry
    split
    · simp
    · split
      · simp
      · next hne => simpa [Ne.symm hne] using ih

theorem find?_insert_of_ne (registry : Registry) {id other : String} (record : PairingRecord)
    (h : other ≠ id) : (registry.insert id record).find? other = registry.find? other := by
  unfold find? insert
  simp only
  induction registry.entries with
  | nil => simp [insertEntry, Ne.symm h]
  | cons head rest ih =>
    unfold insertEntry
    split
    · simp [Ne.symm h]
    · split
      · next heq => simp [← heq, Ne.symm h]
      · by_cases ho : head.1 = other
        · simp [ho]
        · simpa [ho] using ih

@[simp] theorem find?_erase_self (registry : Registry) (id : String) :
    (registry.erase id).find? id = none := by
  simp [find?, erase]

theorem find?_erase_of_ne (registry : Registry) {id other : String} (h : other ≠ id) :
    (registry.erase id).find? other = registry.find? other := by
  unfold find? erase
  simp only
  induction registry.entries with
  | nil => rfl
  | cons head rest ih =>
    by_cases ho : head.1 = other
    · simp [ho, h]
    · by_cases hi : head.1 = id
      · simpa [ho, hi, Ne.symm h] using ih
      · simpa [ho, hi] using ih

/-! ## Changes with conditions -/

/-- File a record under its controller's identifier, if that identifier has a
record already or there is room for one more. -/
def insertBounded (registry : Registry) (capacity : Nat) (record : PairingRecord) :
    Except StoreError Registry :=
  if (registry.find? record.controllerId).isNone && registry.size ≥ capacity then
    .error (.full capacity)
  else
    .ok (registry.insert record.controllerId record)

/-- File a record unless its controller is there with another key. -/
def insertChecked (registry : Registry) (capacity : Nat) (record : PairingRecord) :
    Except StoreError Registry :=
  match registry.find? record.controllerId with
  | some known =>
    if known.publicKey = record.publicKey then registry.insertBounded capacity record
    else .error (.keyMismatch record.controllerId)
  | none => registry.insertBounded capacity record

/-- Take out a record, and every other record if no admin is left. The result
names what went: the given one first, then the rest in order. -/
def eraseCascading (registry : Registry) (id : String) : List String × Registry :=
  let first := (registry.find? id).toList.map (·.controllerId)
  let rest := registry.erase id
  -- Without an admin nobody could manage what is left, or ever take it out.
  if rest.hasAdmin then (first, rest) else (first ++ rest.ids, empty)

end Registry

end HomePairing
