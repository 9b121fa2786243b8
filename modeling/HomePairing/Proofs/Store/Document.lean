import HomePairing.Proofs.Json.Rendering
import HomePairing.Store.Document
import Mathlib.Data.List.Induction

/-!
# A document is read from its file

What a store saves it finds again: `Document.parse` undoes `Document.render`. The value of a
document is legible, part by part, and each part is read from its own value.
-/

namespace HomePairing

/-! ## The table -/

namespace Registry

/-- An identifier above all others is filed behind them. -/
theorem insertEntry_of_above {id : String} {record : PairingRecord}
    {entries : List (String × PairingRecord)} (above : ∀ entry ∈ entries, entry.1 < id) :
    insertEntry id record entries = entries ++ [(id, record)] := by
  induction entries with
  | nil => rfl
  | cons head rest ih =>
      have below : head.1 < id := above head List.mem_cons_self
      have apart : id ≠ head.1 := fun same => String.lt_irrefl id (same ▸ below)
      have notBelow : ¬ id < head.1 := fun back =>
        String.lt_irrefl id (String.lt_trans back below)
      rw [insertEntry, if_neg notBelow, if_neg apart,
        ih fun entry member => above entry (List.mem_cons_of_mem _ member)]
      rfl

/-- Entries that are in order already are filed as they stand. -/
theorem entries_ofEntries {entries : List (String × PairingRecord)}
    (ascending : entries.Pairwise fun a b => a.1 < b.1) :
    (ofEntries entries).entries = entries := by
  induction entries using List.reverseRecOn with
  | nil => rfl
  | append_singleton front last ih =>
      obtain ⟨front_ascending, _, above⟩ := List.pairwise_append.mp ascending
      have filed := ih front_ascending
      unfold ofEntries at filed ⊢
      rw [List.foldl_append]
      show insertEntry last.1 last.2 (List.foldl _ empty front).entries = front ++ [last]
      rw [filed]
      exact insertEntry_of_above fun entry member => above entry member last List.mem_cons_self

/-- A registry is filed from its own entries. -/
@[simp] theorem ofEntries_entries (registry : Registry) :
    ofEntries registry.entries = registry := by
  obtain ⟨entries, ascending⟩ := registry
  have same : (ofEntries entries).entries = entries := entries_ofEntries ascending
  show ofEntries entries = ⟨entries, ascending⟩
  generalize ofEntries entries = filed at same
  cases filed
  cases same
  rfl

end Registry

namespace Document

open Json

/-! ## Legible parts -/

theorem legible_textValue (text : String) : Legible (textValue text) :=
  legible_string (Spelling.scan_encode text)

theorem legible_bytesValue (bytes : Bytes) : Legible (bytesValue bytes) := by
  refine legible_array fun element member => ?_
  obtain ⟨b, _, rfl⟩ := List.mem_map.mp member
  exact legible_number (numeral_ofByte b)

theorem legible_objectValue {fields : List (String × Value)}
    (legible : ∀ field ∈ fields, Legible field.2) : Legible (objectValue fields) := by
  refine legible_object fun member within => ?_
  obtain ⟨field, among, rfl⟩ := List.mem_map.mp within
  exact ⟨Spelling.scan_encode field.1, legible field among⟩

theorem legible_identityValue (identity : Identity) : Legible (identityValue identity) := by
  refine legible_objectValue ?_
  simp only [List.forall_mem_cons]
  exact ⟨legible_textValue _, legible_bytesValue _, by simp⟩

theorem legible_recordValue (record : PairingRecord) : Legible (recordValue record) := by
  refine legible_objectValue ?_
  simp only [List.forall_mem_cons]
  exact ⟨legible_textValue _, legible_textValue _, legible_bytesValue _, legible_textValue _,
    by simp⟩

theorem legible_toValue (document : Document) : Legible document.toValue := by
  refine legible_objectValue ?_
  simp only [List.forall_mem_cons]
  refine ⟨?_, ?_, by simp⟩
  · cases document.identity with
    | none => exact legible_null
    | some identity => exact legible_identityValue identity
  · refine legible_objectValue fun field member => ?_
    obtain ⟨entry, _, rfl⟩ := List.mem_map.mp member
    exact legible_recordValue entry.2

/-! ## Parts read back -/

/-- What each element is read back from, a whole row is. -/
theorem mapM_map_of_inverse {Part Written : Type} {write : Part → Written}
    {read : Written → Option Part} (inverse : ∀ part, read (write part) = some part)
    (parts : List Part) : (parts.map write).mapM read = some parts := by
  induction parts with
  | nil => rfl
  | cons part rest ih =>
      rw [List.map_cons, List.mapM_cons, inverse, ih]
      rfl

@[simp] theorem text?_textValue (text : String) : text? (textValue text) = some text :=
  Spelling.decode?_encode text

@[simp] theorem bytes?_bytesValue (bytes : Bytes) : bytes? (bytesValue bytes) = some bytes :=
  mapM_map_of_inverse byte?_ofByte bytes

@[simp] theorem key?_bytesValue (key : Key) : key? (bytesValue key.bytes) = some key := by
  simp [key?]

/-- The members of an object are read under the names they were written with. -/
theorem namedMembers?_fields (fields : List (String × Value)) :
    namedMembers? (fields.map fun field => (Spelling.encode field.1, field.2)) =
      some fields := by
  refine mapM_map_of_inverse (fun field => ?_) fields
  show (Spelling.decode? (Spelling.encode field.1)).map (fun name => (name, field.2)) = some field
  rw [Spelling.decode?_encode]
  rfl

@[simp] theorem fields?_objectValue (names : List String) (fields : List (String × Value)) :
    fields? names (objectValue fields) = names.mapM (field? fields) := by
  show (namedMembers? (fields.map fun field => (Spelling.encode field.1, field.2))).bind
    (fun members => names.mapM (field? members)) = names.mapM (field? fields)
  rw [namedMembers?_fields]
  rfl

@[simp] theorem identity?_identityValue (identity : Identity) :
    identity? (identityValue identity) = some identity := by
  simp [identity?, identityValue, field?]

@[simp] theorem permissions?_textValue (permissions : Permissions) :
    permissions? (textValue permissions.name) = some permissions := by
  simp [permissions?, textValue]

@[simp] theorem record?_recordValue (record : PairingRecord) :
    record? (recordValue record) = some record := by
  simp [record?, recordValue, field?]

@[simp] theorem registry?_objectValue (registry : Registry) :
    registry? (objectValue (registry.entries.map fun entry => (entry.1, recordValue entry.2))) =
      some registry := by
  show (namedMembers? _).bind (fun members => Option.bind (List.mapM _ members)
    fun entries => some (.ofEntries entries)) = some registry
  rw [namedMembers?_fields, Option.bind_some, mapM_map_of_inverse, Option.bind_some,
    Registry.ofEntries_entries]
  intro entry
  show (record? (recordValue entry.2)).map (fun record => (entry.1, record)) = some entry
  rw [record?_recordValue]
  rfl

@[simp] theorem identityField?_getD (identity : Option Identity) :
    identityField? (some ((identity.map identityValue).getD .null)) = some identity := by
  cases identity with
  | none => rfl
  | some identity =>
      show (identity? (identityValue identity)).map some = some (some identity)
      rw [identity?_identityValue]
      rfl

/-- A document is read from its value. -/
theorem ofValue?_toValue (document : Document) : ofValue? document.toValue = some document := by
  simp [ofValue?, toValue, field?]

/-- What is saved is found again. -/
theorem parse_render (document : Document) : parse document.render = .ok document := by
  have written : document.render.isEmpty = false := by
    obtain ⟨first, more, same, _⟩ := (legible_toValue document).starts 0
    rw [render, Json.render, same]
    rfl
  have read : Json.parse? document.render = some document.toValue :=
    parse?_render (legible_toValue document)
  simp [parse, written, read, ofValue?_toValue]

end Document

end HomePairing
