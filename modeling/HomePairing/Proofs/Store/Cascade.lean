import Mathlib.Data.List.Sort
import HomePairing.Proofs.Store.Update

/-!
# The cascading removal

To take out a controller is to take out everybody when no admin is left beside it. The
law of this removal (`Registry.Cascaded`) speaks of lookups and of the list of those who
went; it holds of every removal (`cascaded_eraseCascading`) and leaves no choice what a
removal does (`Cascaded.unique`).
-/

namespace HomePairing.Registry

/-- An admin is filed under an identifier other than this one. -/
def AdminBeside (registry : Registry) (id : String) : Prop :=
  ∃ other record, other ≠ id ∧ registry.find? other = some record ∧
    record.permissions = .admin

theorem hasAdmin_erase_iff {registry : Registry} {id : String} :
    (registry.erase id).hasAdmin = true ↔ registry.AdminBeside id := by
  rw [hasAdmin_iff]
  constructor
  · rintro ⟨other, record, found, admin⟩
    rw [find?_erase] at found
    split at found
    · cases found
    · next apart => exact ⟨other, record, apart, found, admin⟩
  · rintro ⟨other, record, apart, found, admin⟩
    exact ⟨other, record, (find?_erase_of_ne registry apart).trans found, admin⟩

/-- A removal of `id` that takes out `removed`, and what it leaves. -/
structure Cascaded (before : Registry) (id : String) (removed : List String)
    (after : Registry) : Prop where
  /-- Nobody is left, or an admin is. -/
  manageable : after.Manageable
  /-- Beside an admin, everybody but `id` stays as it was. -/
  kept : before.AdminBeside id →
    ∀ other, after.find? other = if other = id then none else before.find? other
  /-- Without one, nobody stays. -/
  swept : ¬before.AdminBeside id → after = empty
  nodup : removed.Nodup
  mem_removed : ∀ other,
    other ∈ removed ↔ (before.find? other).isSome = true ∧ after.find? other = none
  /-- `id` comes first, if it was there, and the rest by ascending identifiers. -/
  ordered : ∃ rest : List String,
    removed = (if (before.find? id).isSome = true then [id] else []) ++ rest ∧
      rest.Pairwise (· < ·)

/-! ## The law holds -/

/-- Under its own identifier a record names that identifier. -/
theorem WellFiled.named {registry : Registry} (filed : registry.WellFiled) (id : String) :
    (registry.find? id).toList.map (·.controllerId) =
      if (registry.find? id).isSome = true then [id] else [] := by
  cases found : registry.find? id with
  | none => rfl
  | some record => simp [filed id record found]

theorem pairwise_ids (registry : Registry) : registry.ids.Pairwise (· < ·) :=
  List.pairwise_map.mpr registry.ascending

/-- Nobody is named twice: an erased identifier is not among those that are left. -/
theorem nodup_named_append (registry : Registry) (id : String) :
    ((if (registry.find? id).isSome = true then [id] else []) ++
      (registry.erase id).ids).Nodup := by
  have rest : (registry.erase id).ids.Nodup :=
    (pairwise_ids _).imp fun below => String.ne_of_lt below
  have absent : id ∉ (registry.erase id).ids := by
    rw [mem_ids_iff, find?_erase_self]
    simp
  split
  · exact List.nodup_cons.mpr ⟨absent, rest⟩
  · exact rest

/-- Every cascading removal keeps the law. -/
theorem cascaded_eraseCascading {registry : Registry} (filed : registry.WellFiled)
    (id : String) :
    Cascaded registry id (registry.eraseCascading id).1 (registry.eraseCascading id).2 := by
  have lookup := find?_eraseCascading registry id
  refine
    { manageable := manageable_eraseCascading registry id
      kept := fun beside other => ?_
      swept := fun alone => ?_
      nodup := ?_
      mem_removed := filed.mem_eraseCascading_iff id
      ordered := ?_ }
  · rw [lookup other]
    by_cases same : other = id
    · simp [same]
    · simp [same, hasAdmin_erase_iff.mpr beside]
  · have swept : ¬(registry.erase id).hasAdmin = true := fun admin =>
      alone (hasAdmin_erase_iff.mp admin)
    simp [eraseCascading, swept]
  · have both := nodup_named_append registry id
    rw [← filed.named id] at both
    unfold eraseCascading
    by_cases admin : (registry.erase id).hasAdmin = true
    · simpa only [if_pos admin] using (List.nodup_append.mp both).1
    · simpa only [if_neg admin] using both
  · rw [← filed.named id]
    unfold eraseCascading
    by_cases admin : (registry.erase id).hasAdmin = true
    · exact ⟨[], by simp only [if_pos admin, List.append_nil], .nil⟩
    · exact ⟨(registry.erase id).ids, by simp only [if_neg admin], pairwise_ids _⟩

/-! ## The law leaves no choice -/

/-- Registries in which every lookup finds the same are the same. -/
@[ext] theorem ext_find? {first second : Registry}
    (same : ∀ id, first.find? id = second.find? id) : first = second := by
  obtain ⟨entries, ascending⟩ := first
  obtain ⟨others, ascending'⟩ := second
  have members : ∀ entry, entry ∈ entries ↔ entry ∈ others := by
    rintro ⟨id, record⟩
    have found := @find?_eq_some_iff ⟨entries, ascending⟩ id record
    rw [same id, find?_eq_some_iff] at found
    exact found.symm
  have irreflexive : Std.Irrefl fun a b : String × PairingRecord => a.1 < b.1 :=
    ⟨fun _ => String.lt_irrefl _⟩
  have antisymmetric : Std.Antisymm fun a b : String × PairingRecord => a.1 < b.1 :=
    ⟨fun _ _ below above => absurd above (String.lt_asymm below)⟩
  have equal : entries = others := ascending.eq_of_mem_iff ascending' members
  subst equal
  rfl

/-- Two lists that begin alike, go on in order and name the same are equal. -/
theorem eq_of_ordered {start first second : List String}
    (distinct : (start ++ first).Nodup) (distinct' : (start ++ second).Nodup)
    (ascending : first.Pairwise (· < ·)) (ascending' : second.Pairwise (· < ·))
    (same : ∀ id, id ∈ start ++ first ↔ id ∈ start ++ second) : first = second := by
  have shuffled : (start ++ first).Perm (start ++ second) :=
    (List.perm_ext_iff_of_nodup distinct distinct').mpr same
  have rest : first.Perm second := (List.perm_append_left_iff start).mp shuffled
  apply rest.eq_of_pairwise _ ascending ascending'
  intro a b _ _ below above
  exact absurd above (String.lt_asymm below)

/-- What a removal that keeps the law takes out and leaves is determined. -/
theorem Cascaded.unique {before : Registry} {id : String} {removed removed' : List String}
    {after after' : Registry} (first : Cascaded before id removed after)
    (second : Cascaded before id removed' after') : removed = removed' ∧ after = after' := by
  have left : after = after' := by
    by_cases beside : before.AdminBeside id
    · ext1 other
      rw [first.kept beside, second.kept beside]
    · rw [first.swept beside, second.swept beside]
  subst left
  have same : ∀ other, other ∈ removed ↔ other ∈ removed' := fun other =>
    (first.mem_removed other).trans (second.mem_removed other).symm
  obtain ⟨rest, named, ascending⟩ := first.ordered
  obtain ⟨rest', named', ascending'⟩ := second.ordered
  have distinct := first.nodup
  have distinct' := second.nodup
  subst named named'
  exact ⟨congrArg _ (eq_of_ordered distinct distinct' ascending ascending' same), rfl⟩

/-! ## One controller under the law -/

/-- The one who was to go is gone in every case. -/
theorem Cascaded.absent {before after : Registry} {id : String} {removed : List String}
    (cascaded : Cascaded before id removed after) : after.find? id = none := by
  by_cases beside : before.AdminBeside id
  · rw [cascaded.kept beside, if_pos rfl]
  · rw [cascaded.swept beside, find?_empty]

/-- Beside an admin only the one who was to go is gone. -/
theorem Cascaded.find?_of_admin {before after : Registry} {id other : String}
    {removed : List String} {record : PairingRecord}
    (cascaded : Cascaded before id removed after) (apart : other ≠ id)
    (found : before.find? other = some record) (admin : record.permissions = .admin)
    (third : String) :
    after.find? third = if third = id then none else before.find? third :=
  cascaded.kept ⟨other, record, apart, found, admin⟩ third

/-- An admin goes only if it is the one to go. -/
theorem Cascaded.mem_iff_of_admin {before after : Registry} {id other : String}
    {removed : List String} {record : PairingRecord}
    (cascaded : Cascaded before id removed after)
    (found : before.find? other = some record) (admin : record.permissions = .admin) :
    other ∈ removed ↔ id = other := by
  rw [cascaded.mem_removed, found]
  by_cases same : other = id
  · subst same
    exact iff_of_true ⟨rfl, cascaded.absent⟩ rfl
  · rw [cascaded.find?_of_admin same found admin, if_neg same, found]
    simp [Ne.symm same]

/-! ## A second removal -/

/-- Where the one to go has no record and somebody can manage the others, there is
nothing to do. -/
theorem Cascaded.nothing {registry : Registry} {id : String}
    (absent : registry.find? id = none) (manageable : registry.Manageable) :
    Cascaded registry id [] registry := by
  refine
    { manageable := manageable
      kept := fun _ other => ?_
      swept := fun alone => ?_
      nodup := .nil
      mem_removed := fun other => ?_
      ordered := ⟨[], by simp [absent], .nil⟩ }
  · by_cases same : other = id
    · rw [if_pos same, same, absent]
    · rw [if_neg same]
  · rcases manageable with nobody | somebody
    · ext1 other
      rw [isEmpty_iff.mp nobody other, find?_empty]
    · -- The admin that is left has a record, so it stands beside.
      obtain ⟨other, record, found, admin⟩ := hasAdmin_iff.mp somebody
      have apart : other ≠ id := by
        rintro rfl
        rw [absent] at found
        cases found
      exact absurd ⟨other, record, apart, found, admin⟩ alone
  · cases registry.find? other <;> simp

/-- Whoever is taken out twice takes nobody along the second time. -/
theorem eraseCascading_again {registry : Registry} (filed : registry.WellFiled)
    (id : String) :
    (registry.eraseCascading id).2.eraseCascading id = ([], (registry.eraseCascading id).2) := by
  have first := cascaded_eraseCascading filed id
  have second := cascaded_eraseCascading (filed.eraseCascading id) id
  obtain ⟨nobody, same⟩ := second.unique (.nothing first.absent first.manageable)
  exact Prod.ext nobody same

end HomePairing.Registry

namespace HomePairing.Store

/-- A store takes out what the records say, or its disk fails and it stays as it was. -/
theorem removeCascading_or_io (store : Store) (disk : Disk) (id : String) :
    ((store.removeCascading disk id).result = .ok (store.registry.eraseCascading id).1 ∧
      (store.removeCascading disk id).store.registry = (store.registry.eraseCascading id).2) ∨
    ∃ kind, (store.removeCascading disk id).result = .error (.io kind) ∧
      (store.removeCascading disk id).store = store := by
  rcases removeCascading_cases store disk id with ⟨done, after⟩ | ⟨e, failed, kept⟩
  · exact .inl ⟨done, by rw [after, registry_withRegistry]⟩
  · rcases eq_error_of_update failed with refused | ⟨kind, rfl⟩
    · cases refused
    · exact .inr ⟨kind, failed, kept⟩

end HomePairing.Store

namespace HomePairing.Registry

/-- **The cascading removal.** It keeps its law, a second one of the same controller
does nothing, and a store of either kind carries out just this or fails with its disk. -/
theorem cascading_removal {registry : Registry} (filed : registry.WellFiled) (id : String) :
    Cascaded registry id (registry.eraseCascading id).1 (registry.eraseCascading id).2 ∧
      (registry.eraseCascading id).2.eraseCascading id =
        ([], (registry.eraseCascading id).2) ∧
      ∀ (store : Store) (disk : Disk), store.registry = registry →
        ((store.removeCascading disk id).result = .ok (registry.eraseCascading id).1 ∧
          (store.removeCascading disk id).store.registry = (registry.eraseCascading id).2) ∨
        ∃ kind, (store.removeCascading disk id).result = .error (.io kind) ∧
          (store.removeCascading disk id).store = store := by
  refine ⟨cascaded_eraseCascading filed id, eraseCascading_again filed id, ?_⟩
  rintro store disk rfl
  exact store.removeCascading_or_io disk id

/-- The last admin of three goes, and the guests go after it, in order. -/
theorem cascading_removal_of_owner :
    let owner : PairingRecord := ⟨"AA:00", "CC:03", Block.zero, .admin⟩
    let guest : PairingRecord := ⟨"AA:00", "CC:02", Block.zero, .user⟩
    let friend : PairingRecord := ⟨"AA:00", "CC:01", Block.zero, .user⟩
    let household :=
      ((empty.insert "CC:03" owner).insert "CC:02" guest).insert "CC:01" friend
    household.WellFiled ∧
      Cascaded household "CC:03" ["CC:03", "CC:01", "CC:02"] empty ∧
      empty.eraseCascading "CC:03" = ([], empty) := by
  intro owner guest friend household
  have filed : household.WellFiled :=
    ((wellFiled_empty.insert owner).insert guest).insert friend
  have swept : household.eraseCascading "CC:03" = (["CC:03", "CC:01", "CC:02"], empty) := by
    decide +kernel
  obtain ⟨cascaded, again, -⟩ := cascading_removal filed "CC:03"
  rw [swept] at cascaded again
  exact ⟨filed, cascaded, again⟩

end HomePairing.Registry
