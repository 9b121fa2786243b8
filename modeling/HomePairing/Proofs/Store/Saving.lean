import HomePairing.Proofs.Store.Places

/-!
# What a save leaves behind

A save writes beside a file and then moves over it. Each step has a list of what it can leave
behind: `Written`, `Moved` and, for letting go, `entry_discard`. Until the move nothing changes
but the file beside (`Disk.Beside`), so whatever step fails, the file is whole: it holds what
it held before, or all of the new content (`Disk.saved_save`).
-/

namespace HomePairing.Disk

/-! ## The steps of a save -/

theorem placeOfFile_eq_ok {disk : Disk} {path : Path} {place : Place}
    (given : disk.placeOfFile path = .ok place) :
    disk.locate path = .ok place ∧ disk.entry place ≠ some .directory := by
  unfold placeOfFile at given
  cases located : disk.locate path with
  | error kind => simp [located] at given
  | ok found =>
      simp only [located] at given
      cases ending : path.ending <;> rcases lies : disk.entry found with _ | _ | _ <;>
        simp only [lies, ending] at given <;> cases given
      · exact ⟨rfl, by simp [lies]⟩
      · exact ⟨rfl, by simp [lies]⟩

theorem placeOfMoved_eq_ok {disk : Disk} {path : Path} {place : Place}
    (given : disk.placeOfMoved path = .ok place) :
    disk.locate path = .ok place ∧ path.ending = .bare := by
  unfold placeOfMoved at given
  cases located : disk.locate path with
  | error kind => simp [located] at given
  | ok found =>
      simp only [located] at given
      cases ending : path.ending <;> rcases lies : disk.entry found with _ | _ | _ <;>
        simp only [lies, ending] at given <;> cases given
      · exact ⟨rfl, rfl⟩
      · exact ⟨rfl, rfl⟩

/-- What a write leaves behind: nothing, or a part of the content, or all of it. -/
inductive Written (disk : Disk) (path : Path) (content : Bytes) :
    Except IoKind Unit → Disk → Prop
  | refused {kind after} : after.entry = disk.entry → Written disk path content (.error kind) after
  | broken {kind place part after} : disk.locate path = .ok place →
      disk.entry place ≠ some .directory →
      after.entry = (disk.set place (some (.file part))).entry →
      Written disk path content (.error kind) after
  | done {place after} : disk.locate path = .ok place → disk.entry place ≠ some .directory →
      after.entry = (disk.set place (some (.file content))).entry →
      Written disk path content (.ok ()) after

theorem written_write (disk : Disk) (path : Path) (content : Bytes) :
    Written disk path content (disk.write path content).1 (disk.write path content).2 := by
  have same : ({ disk with faults := disk.faults.tail } : Disk).placeOfFile path =
      disk.placeOfFile path := rfl
  unfold write nextFault
  simp only [same]
  cases given : disk.placeOfFile path with
  | error kind => exact .refused rfl
  | ok place =>
      obtain ⟨located, free⟩ := placeOfFile_eq_ok given
      cases disk.faults.head?.join with
      | none => exact .done located free rfl
      | some fault => exact .broken located free rfl

theorem entry_flush (disk : Disk) : disk.flush.2.entry = disk.entry := by
  unfold flush nextFault
  simp only
  split <;> rfl

/-- What a move leaves behind: everything, or what was moved at its new place. -/
inductive Moved (disk : Disk) (source target : Path) : Except IoKind Unit → Disk → Prop
  | refused {kind after} : after.entry = disk.entry → Moved disk source target (.error kind) after
  | done {place goal entry after} : disk.find source = .ok (place, some entry) →
      disk.locate target = .ok goal → target.ending = .bare →
      after.entry = ((disk.set place none).set goal (some entry)).entry →
      Moved disk source target (.ok ()) after

theorem moved_rename (disk : Disk) (source target : Path) :
    Moved disk source target (disk.rename source target).1 (disk.rename source target).2 := by
  have sameFind : ({ disk with faults := disk.faults.tail } : Disk).find source =
      disk.find source := rfl
  have samePlace : ({ disk with faults := disk.faults.tail } : Disk).placeOfMoved target =
      disk.placeOfMoved target := rfl
  unfold rename nextFault
  simp only [sameFind, samePlace]
  rcases found : disk.find source with _ | ⟨place, _ | entry⟩
  · exact .refused rfl
  · exact .refused rfl
  · cases given : disk.placeOfMoved target with
    | error kind => exact .refused rfl
    | ok goal =>
        obtain ⟨located, bare⟩ := placeOfMoved_eq_ok given
        cases disk.faults.head?.join with
        | none => exact .done found located bare rfl
        | some fault => exact .refused rfl

/-- Only files are let go of. -/
theorem entry_discard (disk : Disk) (path : Path) :
    (disk.discard path).entry = disk.entry ∨ ∃ place, disk.locate path = .ok place ∧
      disk.entry place ≠ some .directory ∧
        (disk.discard path).entry = (disk.set place none).entry := by
  unfold discard
  rcases found : disk.find path with _ | ⟨place, _ | _ | _⟩
  · exact .inl rfl
  · exact .inl rfl
  · obtain ⟨located, lies⟩ := find_eq_ok found
    exact .inr ⟨place, located, by simp [lies], rfl⟩
  · exact .inl rfl

/-! ## Saving -/

/-- Nothing has changed, unless at one place without a directory. -/
structure Beside (before after : Disk) (place : Place) : Prop where
  same : ∀ other, other ≠ place → after.entry other = before.entry other
  free : before.entry place = some .directory → after.entry place = some .directory

theorem Beside.of_entry {before after : Disk} (same : after.entry = before.entry)
    (place : Place) : before.Beside after place where
  same _ _ := congrFun same _
  free lies := (congrFun same place).trans lies

theorem Beside.of_set {before after : Disk} {place : Place} {entry : Option Entry}
    (free : before.entry place ≠ some .directory)
    (set : after.entry = (before.set place entry).entry) : before.Beside after place where
  same other apart := (congrFun set other).trans (entry_set_of_ne before entry apart)
  free lies := absurd lies free

theorem Beside.trans {first second third : Disk} {place : Place}
    (before : first.Beside second place) (after : second.Beside third place) :
    first.Beside third place where
  same other apart := (after.same other apart).trans (before.same other apart)
  free lies := after.free (before.free lies)

theorem Beside.stays {before after : Disk} {place : Place} (beside : before.Beside after place) :
    before.Stays after := by
  intro other lies
  by_cases here : other = place
  · subst here
    exact beside.free lies
  · rw [beside.same other here]
    exact lies

theorem Beside.berth {before after : Disk} {path : Path} {room : Place} {name : String}
    (beside : before.Beside after (room ++ [name ++ ".tmp"]))
    (berth : before.Berth path room name) :
    after.Berth path room name ∧
      after.entry (room ++ [name]) = before.entry (room ++ [name]) := by
  have same := beside.same _ (Path.concat_tmp_ne room name).symm
  refine ⟨berth.of_stays beside.stays ?_, same⟩
  rw [same]
  exact berth.free

/-- Letting go of the file beside changes nothing else. -/
theorem Beside.discard {before after : Disk} {path : Path} {room : Place} {name : String}
    (beside : before.Beside after (room ++ [name ++ ".tmp"]))
    (berth : before.Berth path room name) :
    before.Beside (after.discard path.temporary) (room ++ [name ++ ".tmp"]) := by
  rcases entry_discard after path.temporary with same | ⟨place, located, free, set⟩
  · exact beside.trans (.of_entry same _)
  · rw [(beside.berth berth).1.located_temporary located] at free set
    exact beside.trans (.of_set free set)

/-- Moving the file beside over the file takes no directory away. -/
theorem Beside.stays_of_moved {before written after : Disk} {path : Path} {room : Place}
    {name : String} (beside : before.Beside written (room ++ [name ++ ".tmp"]))
    (berth : before.Berth path room name)
    (free : before.entry (room ++ [name ++ ".tmp"]) ≠ some .directory) {file : Entry}
    (moved : after.entry = ((written.set (room ++ [name ++ ".tmp"]) none).set
      (room ++ [name]) (some file)).entry) : before.Stays after := by
  intro other lies
  have notLive : other ≠ room ++ [name] := by
    rintro rfl
    exact berth.free lies
  have notBeside : other ≠ room ++ [name ++ ".tmp"] := by
    rintro rfl
    exact free lies
  rw [moved, entry_set_of_ne _ _ notLive, entry_set_of_ne _ _ notBeside,
    beside.same other notBeside]
  exact lies

/-- What a save leaves behind: the file as it was, or all of the new content. -/
inductive Saved (disk : Disk) (content : Bytes) (path : Path) (place : Place) :
    Except IoKind Unit → Disk → Prop
  | failed {kind after} : after.entry place = disk.entry place →
      Saved disk content path place (.error kind) after
  | done {after} : path.ending = .bare → after.entry place = some (.file content) →
      Saved disk content path place (.ok ()) after

/-- A save has one of these outcomes, and can be repeated. -/
theorem saved_save {disk : Disk} {path : Path} {room : Place} {name : String}
    (berth : disk.Berth path room name) (content : Bytes) :
    Saved disk content path (room ++ [name]) (disk.save path content).1
        (disk.save path content).2 ∧
      (disk.save path content).2.Berth path room name := by
  have written := written_write disk path.temporary content
  unfold save
  generalize disk.write path.temporary content = wrote at written ⊢
  obtain ⟨result, first⟩ := wrote
  cases written with
  | refused same =>
      obtain ⟨kept, live⟩ := (Beside.of_entry same _).berth berth
      exact ⟨.failed live, kept⟩
  | broken located free set =>
      cases berth.located_temporary located
      obtain ⟨kept, live⟩ := (Beside.of_set free set).berth berth
      exact ⟨.failed live, kept⟩
  | done located free set =>
      cases berth.located_temporary located
      have flushed := entry_flush first
      dsimp only
      generalize first.flush = flush at flushed ⊢
      obtain ⟨result, second⟩ := flush
      have beside : disk.Beside second (room ++ [name ++ ".tmp"]) :=
        .of_set free (flushed.trans set)
      obtain ⟨kept, live⟩ := beside.berth berth
      cases result with
      | error kind => exact ⟨.failed live, kept⟩
      | ok _ =>
          have moved := moved_rename second path.temporary path
          dsimp only
          generalize second.rename path.temporary path = rename at moved ⊢
          obtain ⟨result, third⟩ := rename
          cases moved with
          | refused same =>
              have unmoved := beside.trans (.of_entry same _)
              obtain ⟨kept, live⟩ := (unmoved.discard berth).berth berth
              exact ⟨.failed live, kept⟩
          | done found target bare entries =>
              obtain ⟨source, lies⟩ := find_eq_ok found
              cases kept.located_temporary source
              cases kept.located.symm.trans target
              -- What is moved is what was written.
              rw [flushed, set, entry_set_self] at lies
              cases lies
              have live : third.entry (room ++ [name]) = some (.file content) := by
                rw [entries, entry_set_self]
              refine ⟨.done bare live, berth.of_stays ?_ (by simp [live])⟩
              exact beside.stays_of_moved berth free entries

/-! ## Disks that fail no save -/

/-- Saves at a path go through: no step is fated to fail, a file can be written beside the path,
and what is there can be moved to it. -/
structure Sound (disk : Disk) (path : Path) : Prop where
  quiet : disk.faults = []
  beside : ∃ place, disk.placeOfFile path.temporary = .ok place
  target : ∃ place, disk.placeOfMoved path = .ok place

theorem placeOfFile_of_bare {disk : Disk} {path : Path} {place : Place}
    (bare : path.ending = .bare) (located : disk.locate path = .ok place)
    (free : disk.entry place ≠ some .directory) : disk.placeOfFile path = .ok place := by
  unfold placeOfFile
  rcases lies : disk.entry place with _ | _ | _ <;> simp only [located, bare, lies]
  exact absurd lies free

theorem placeOfMoved_of_bare {disk : Disk} {path : Path} {place : Place}
    (bare : path.ending = .bare) (located : disk.locate path = .ok place)
    (free : disk.entry place ≠ some .directory) : disk.placeOfMoved path = .ok place := by
  unfold placeOfMoved
  rcases lies : disk.entry place with _ | _ | _ <;> simp only [located, bare, lies]
  exact absurd lies free

theorem nextFault_of_quiet {disk : Disk} (quiet : disk.faults = []) :
    disk.nextFault = (none, disk) := by
  obtain ⟨entry, faults⟩ := disk
  cases quiet
  rfl

/-- A disk on which saves go through goes through with one and stays like that. -/
theorem save_of_sound {disk : Disk} {path : Path} {room : Place} {name : String}
    (sound : disk.Sound path) (berth : disk.Berth path room name) (content : Bytes) :
    (disk.save path content).1 = .ok () ∧ (disk.save path content).2.Sound path := by
  obtain ⟨quiet, ⟨place, writable⟩, ⟨goal, movable⟩⟩ := sound
  obtain ⟨located, free⟩ := placeOfFile_eq_ok writable
  obtain ⟨-, bare⟩ := placeOfMoved_eq_ok movable
  cases berth.located_temporary located
  have hidden : path.temporary.ending = .bare := berth.names.ending_temporary
  -- After the write the file beside is there, and nothing else has changed.
  let written := disk.set (room ++ [name ++ ".tmp"]) (some (.file content))
  have wrote : disk.write path.temporary content = (.ok (), written) := by
    simp only [write, nextFault_of_quiet quiet, writable]
    rfl
  have calm : written.nextFault = (none, written) := nextFault_of_quiet quiet
  have flushed : written.flush = (.ok (), written) := by simp only [flush, calm]
  have beside : disk.Beside written (room ++ [name ++ ".tmp"]) := .of_set free rfl
  obtain ⟨kept, -⟩ := beside.berth berth
  have source : written.find path.temporary =
      .ok (room ++ [name ++ ".tmp"], some (.file content)) := by
    have still := locate_of_stays beside.stays located
    simp only [find, still, hidden]
    simp [written]
  have goal : written.placeOfMoved path = .ok (room ++ [name]) :=
    placeOfMoved_of_bare bare kept.located kept.free
  -- After the move it is gone, and the file at the path has its content.
  let moved := (written.set (room ++ [name ++ ".tmp"]) none).set (room ++ [name])
    (some (.file content))
  have renamed : written.rename path.temporary path = (.ok (), moved) := by
    simp only [rename, calm, source, goal, moved]
  have stays : disk.Stays moved := beside.stays_of_moved berth free rfl
  have saved : disk.save path content = (.ok (), moved) := by
    simp only [save, wrote, flushed, renamed]
  have gone : moved.entry (room ++ [name ++ ".tmp"]) = none := by
    rw [entry_set_of_ne _ _ (Path.concat_tmp_ne room name), entry_set_self]
  rw [saved]
  refine ⟨rfl, quiet, ⟨_, placeOfFile_of_bare hidden (locate_of_stays stays located) ?_⟩,
    ⟨_, placeOfMoved_of_bare bare (locate_of_stays stays berth.located) ?_⟩⟩
  · simp [gone]
  · simp [moved]

end HomePairing.Disk
