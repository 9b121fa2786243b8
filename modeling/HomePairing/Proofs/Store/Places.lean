import HomePairing.Store.Disk
import Mathlib.Data.List.Induction

/-!
# Where a file is saved

A path leads to the same place as long as no directory on the way goes (`Disk.Stays`). A path
that can be asked about, in a directory that is there, names something in that directory
(`Disk.Berth`). The path beside it leads to the same directory and another name, so neither
file is in the way of the other.
-/

namespace HomePairing

/-! ## The last step of a path -/

namespace Path

/-- What is cut off a path at the end takes no step. -/
theorem filterMap_trim (parts : List String) :
    (trim parts).filterMap Step.ofPart? = parts.filterMap Step.ofPart? := by
  induction parts with
  | nil => rfl
  | cons part rest ih =>
      by_cases dropped : (trim rest).isEmpty && (Step.ofPart? part).isNone
      · obtain ⟨none_left, no_step⟩ := Bool.and_eq_true_iff.mp dropped
        rw [List.isEmpty_iff.mp none_left] at ih
        rw [trim, if_pos dropped, List.filterMap_cons_none (Option.isNone_iff_eq_none.mp no_step),
          ← ih]
      · rw [trim, if_neg dropped, List.filterMap_cons, List.filterMap_cons, ih]

/-- A trimmed path ends in a step, unless it takes none. -/
theorem exists_last {parts : List String} (steps : trim parts ≠ []) :
    ∃ front part step, trim parts = front ++ [part] ∧ Step.ofPart? part = some step := by
  induction parts with
  | nil => exact absurd rfl steps
  | cons part rest ih =>
      by_cases dropped : (trim rest).isEmpty && (Step.ofPart? part).isNone
      · rw [trim, if_pos dropped] at steps
        exact absurd rfl steps
      · rw [trim, if_neg dropped]
        by_cases last : trim rest = []
        · rw [last, List.isEmpty_nil, Bool.true_and, Option.isNone_iff_eq_none] at dropped
          obtain ⟨step, taken⟩ := Option.ne_none_iff_exists'.mp dropped
          exact ⟨[], part, step, by rw [last]; rfl, taken⟩
        · obtain ⟨front, last, step, same, taken⟩ := ih last
          exact ⟨part :: front, last, step, by rw [same]; rfl, taken⟩

/-- A path ends in the name of what it leads to. -/
def Names (path : Path) (name : String) : Prop :=
  ∃ front, trim path.parts = front ++ [name] ∧ Step.ofPart? name = some (.down name)

theorem steps_of_trim {path : Path} {front : List String} {part : String} {step : Step}
    (ends : trim path.parts = front ++ [part]) (taken : Step.ofPart? part = some step) :
    path.steps = path.parent.steps ++ [step] := by
  have parent_steps : path.parent.steps = front.filterMap Step.ofPart? := by
    rw [steps, parent, ends, List.dropLast_concat, filterMap_trim]
  rw [parent_steps, steps, ← filterMap_trim, ends, List.filterMap_append]
  simp [taken]

theorem Names.steps_eq {path : Path} {name : String} (names : path.Names name) :
    path.steps = path.parent.steps ++ [.down name] := by
  obtain ⟨front, ends, taken⟩ := names
  exact steps_of_trim ends taken

/-- A path that takes no step lies at the root, and so does its parent. -/
theorem steps_eq_nil {path : Path} (none_taken : trim path.parts = []) :
    path.steps = [] ∧ path.parent.steps = [] := by
  constructor
  · rw [steps, ← filterMap_trim, none_taken]
    rfl
  · rw [parent, none_taken]
    rfl

/-- Whether a path takes no step, one back, or one to a name. -/
theorem last_cases (path : Path) :
    (path.steps = [] ∧ path.parent.steps = []) ∨ path.steps = path.parent.steps ++ [.up] ∨
      ∃ name, path.Names name := by
  by_cases none_taken : trim path.parts = []
  · exact .inl (steps_eq_nil none_taken)
  obtain ⟨front, part, step, ends, taken⟩ := exists_last none_taken
  cases step with
  | up => exact .inr (.inl (steps_of_trim ends taken))
  | down name =>
      have same : part = name := by
        unfold Step.ofPart? at taken
        split at taken
        · cases taken
        · split at taken
          · cases taken
          · cases taken
            rfl
      subst same
      exact .inr (.inr ⟨part, front, ends, taken⟩)

/-! ## The path beside a path -/

theorem length_append_tmp (name : String) : (name ++ ".tmp").length = name.length + 4 := by
  rw [String.length_append]
  rfl

/-- With its ending a name is neither empty nor a dot or two. -/
theorem append_tmp_ne_of_short {name short : String} (small : short.length < 4) :
    name ++ ".tmp" ≠ short := by
  intro same
  have long := length_append_tmp name
  rw [same] at long
  omega

theorem append_tmp_ne (name : String) : name ++ ".tmp" ≠ name := by
  intro same
  have long := length_append_tmp name
  rw [same] at long
  omega

/-- The two files have different places. -/
theorem concat_tmp_ne (room : Place) (name : String) :
    room ++ [name ++ ".tmp"] ≠ room ++ [name] := by
  intro same
  have names := List.append_cancel_left same
  exact append_tmp_ne name (List.cons.inj names).1

theorem temporary_of_names {path : Path} {name : String} (names : path.Names name) :
    path.temporary = ⟨path.parent.parts ++ [name ++ ".tmp"]⟩ := by
  obtain ⟨front, ends, taken⟩ := names
  have notUp : name ≠ ".." := by
    rintro rfl
    exact absurd taken (by decide)
  simp only [temporary, parent, ends, List.getLast?_concat, if_neg notUp, List.dropLast_concat]

theorem Names.steps_temporary {path : Path} {name : String} (names : path.Names name) :
    path.temporary.steps = path.parent.steps ++ [.down (name ++ ".tmp")] := by
  have taken : Step.ofPart? (name ++ ".tmp") = some (.down (name ++ ".tmp")) := by
    have dot : name ++ ".tmp" ≠ "." := append_tmp_ne_of_short (by decide)
    have dots : name ++ ".tmp" ≠ ".." := append_tmp_ne_of_short (by decide)
    simp [Step.ofPart?, dot, dots]
  rw [temporary_of_names names, steps, List.filterMap_append]
  simp [taken, steps]

theorem Names.ending_temporary {path : Path} {name : String} (names : path.Names name) :
    path.temporary.ending = .bare := by
  have dot : name ++ ".tmp" ≠ "." := append_tmp_ne_of_short (by decide)
  have blank : name ++ ".tmp" ≠ "" := append_tmp_ne_of_short (by decide)
  have last : ((path.parent.parts ++ [name ++ ".tmp"]).filter fun part => part != "").getLast? =
      some (name ++ ".tmp") := by
    simp [blank]
  rw [temporary_of_names names, ending, last]
  simp [blank, dot]

end Path

namespace Disk

/-! ## Where a path leads -/

theorem locate_eq_ok {disk : Disk} {path : Path} {place : Place} :
    disk.locate path = .ok place ↔
      path.isSpeakable = true ∧ path.length ≤ pathLimit ∧
        path.steps.foldlM disk.enter [] = .ok place := by
  unfold locate
  cases speakable : path.isSpeakable with
  | false => simp
  | true =>
      by_cases long : path.length > pathLimit
      · simp only [Bool.not_true, Bool.false_eq_true, if_false, if_pos long]
        constructor
        · intro refused
          cases refused
        · rintro ⟨_, short, _⟩
          omega
      · simp only [Bool.not_true, Bool.false_eq_true, if_false, if_neg long, true_and]
        exact ⟨fun reached => ⟨by omega, reached⟩, fun ⟨_, reached⟩ => reached⟩

/-- What is not found was looked for. -/
theorem foldlM_of_locate_notFound {disk : Disk} {path : Path}
    (lost : disk.locate path = .error .notFound) :
    path.steps.foldlM disk.enter [] = .error .notFound := by
  unfold locate at lost
  split at lost
  · cases lost
  split at lost
  · cases lost
  exact lost

/-- Steps are taken from directories only. -/
theorem directory_of_enter {disk : Disk} {place next : Place} {step : Path.Step}
    (entered : disk.enter place step = .ok next) : disk.entry place = some .directory := by
  unfold enter at entered
  split at entered
  · cases entered
  · cases entered
  · next isDirectory => exact isDirectory
  · next isDirectory => exact isDirectory

theorem eq_of_enter_down {disk : Disk} {place next : Place} {name : String}
    (entered : disk.enter place (.down name) = .ok next) : next = place ++ [name] := by
  simp only [enter, directory_of_enter entered] at entered
  split at entered
  · cases entered
  · exact (Except.ok.inj entered).symm

/-- The last step of a way is taken where the steps before it lead. -/
theorem foldlM_concat {disk : Disk} {steps : List Path.Step} {start room : Place}
    (reached : steps.foldlM disk.enter start = .ok room) (step : Path.Step) :
    (steps ++ [step]).foldlM disk.enter start = disk.enter room step := by
  rw [List.foldlM_append, reached]
  show [step].foldlM disk.enter room = disk.enter room step
  rw [List.foldlM_cons]
  cases disk.enter room step <;> rfl

/-- No directory goes. -/
def Stays (before after : Disk) : Prop :=
  ∀ place, before.entry place = some .directory → after.entry place = some .directory

theorem enter_of_stays {before after : Disk} (stays : before.Stays after) {place next : Place}
    {step : Path.Step} (entered : before.enter place step = .ok next) :
    after.enter place step = .ok next := by
  have here := directory_of_enter entered
  have there := stays place here
  rw [← entered]
  simp only [enter, here, there]

/-- What a way leads to, its first step and the rest of it lead to. -/
theorem exists_of_foldlM_cons {disk : Disk} {step : Path.Step} {rest : List Path.Step}
    {start place : Place} (reached : (step :: rest).foldlM disk.enter start = .ok place) :
    ∃ next, disk.enter start step = .ok next ∧ rest.foldlM disk.enter next = .ok place := by
  rw [List.foldlM_cons] at reached
  cases entered : disk.enter start step with
  | error kind =>
      rw [entered] at reached
      cases reached
  | ok next =>
      rw [entered] at reached
      exact ⟨next, rfl, reached⟩

theorem foldlM_enter_of_stays {before after : Disk} (stays : before.Stays after)
    {steps : List Path.Step} : ∀ {start place : Place},
    steps.foldlM before.enter start = .ok place → steps.foldlM after.enter start = .ok place := by
  induction steps with
  | nil => exact fun reached => reached
  | cons step rest ih =>
      intro start place reached
      obtain ⟨next, entered, onward⟩ := exists_of_foldlM_cons reached
      rw [List.foldlM_cons, enter_of_stays stays entered]
      exact ih onward

/-- A path leads to the same place as long as the directories stay. -/
theorem locate_of_stays {before after : Disk} (stays : before.Stays after) {path : Path}
    {place : Place} (located : before.locate path = .ok place) :
    after.locate path = .ok place := by
  obtain ⟨speakable, short, reached⟩ := locate_eq_ok.mp located
  exact locate_eq_ok.mpr ⟨speakable, short, foldlM_enter_of_stays stays reached⟩

/-- Whatever a place lies in is a directory. -/
def Enclosed (disk : Disk) (place : Place) : Prop :=
  ∀ outer, outer <+: place → outer ≠ place → disk.entry outer = some .directory

theorem Enclosed.enter {disk : Disk} {place next : Place} {step : Path.Step}
    (enclosed : disk.Enclosed place) (entered : disk.enter place step = .ok next) :
    disk.Enclosed next := by
  have isDirectory := directory_of_enter entered
  intro outer inside apart
  have within : outer <+: place → disk.entry outer = some .directory := by
    intro inside
    by_cases same : outer = place
    · rw [same]
      exact isDirectory
    · exact enclosed outer inside same
  cases step with
  | up =>
      have back : next = place.dropLast := by
        simp only [Disk.enter, isDirectory] at entered
        exact (Except.ok.inj entered).symm
      rw [back] at inside
      exact within (inside.trans (List.dropLast_prefix place))
  | down name =>
      rw [eq_of_enter_down entered] at inside apart
      rcases List.prefix_concat_iff.mp inside with same | inside
      · exact absurd same apart
      · exact within inside

theorem enclosed_of_foldlM {disk : Disk} {steps : List Path.Step} : ∀ {start place : Place},
    disk.Enclosed start → steps.foldlM disk.enter start = .ok place → disk.Enclosed place := by
  induction steps with
  | nil =>
      intro start place enclosed reached
      cases reached
      exact enclosed
  | cons step rest ih =>
      intro start place enclosed reached
      obtain ⟨next, entered, onward⟩ := exists_of_foldlM_cons reached
      exact ih (enclosed.enter entered) onward

/-- A step back from a directory leads to a directory. -/
theorem directory_dropLast {disk : Disk} {steps : List Path.Step} {room : Place}
    (reached : steps.foldlM disk.enter [] = .ok room)
    (directory : disk.entry room = some .directory) :
    disk.entry room.dropLast = some .directory := by
  have root : disk.Enclosed [] := by
    intro outer inside apart
    exact absurd (List.prefix_nil.mp inside) apart
  by_cases same : room.dropLast = room
  · rw [same]
    exact directory
  · exact enclosed_of_foldlM root reached _ (List.dropLast_prefix room) same

theorem find_eq_ok {disk : Disk} {path : Path} {place : Place} {entry : Option Entry}
    (found : disk.find path = .ok (place, entry)) :
    disk.locate path = .ok place ∧ disk.entry place = entry := by
  unfold find at found
  cases located : disk.locate path with
  | error kind => simp [located] at found
  | ok reached =>
      simp only [located] at found
      cases ending : path.ending <;> rcases lies : disk.entry reached with _ | _ | _ <;>
        simp only [lies, ending] at found <;> cases found <;> exact ⟨rfl, lies⟩

/-- A place is looked at wherever there is one. -/
theorem locate_of_find_notFound {disk : Disk} {path : Path}
    (lost : disk.find path = .error .notFound) : disk.locate path = .error .notFound := by
  unfold find at lost
  cases located : disk.locate path with
  | error kind =>
      simp only [located] at lost
      cases lost
      rfl
  | ok reached =>
      simp only [located] at lost
      split at lost <;> cases lost

theorem isDirectory_iff {disk : Disk} {path : Path} :
    disk.isDirectory path = true ↔
      ∃ place, disk.locate path = .ok place ∧ disk.entry place = some .directory := by
  constructor
  · intro holds
    unfold isDirectory at holds
    split at holds
    · next place found => exact ⟨place, find_eq_ok found⟩
    · cases holds
  · rintro ⟨place, located, lies⟩
    have found : disk.find path = .ok (place, some .directory) := by
      unfold find
      cases path.ending <;> simp [located, lies]
    simp only [isDirectory, found]

/-! ## Directories on the way -/

theorem makeDirectories_of_isDirectory {disk : Disk} {path : Path}
    (there : disk.isDirectory path = true) : disk.makeDirectories path = (.ok (), disk) := by
  obtain ⟨place, located, lies⟩ := isDirectory_iff.mp there
  have refused : disk.makeDirectory path = .error .alreadyExists := by
    simp [makeDirectory, located, lies]
  have ensured : disk.ensureDirectory path = (.ok (), disk) := by
    simp [ensureDirectory, refused, there]
  unfold makeDirectories
  rw [ensured]

/-- A directory is made where nothing was. -/
theorem makeDirectory_eq_ok {disk after : Disk} {path : Path}
    (made : disk.makeDirectory path = .ok after) :
    ∃ place, disk.locate path = .ok place ∧ disk.entry place = none ∧
      after = disk.set place (some .directory) := by
  unfold makeDirectory at made
  cases located : disk.locate path with
  | error kind => simp [located] at made
  | ok place =>
      simp only [located] at made
      cases ending : path.ending <;> rcases lies : disk.entry place with _ | _ | _ <;>
        simp only [lies, ending] at made <;> cases made <;> exact ⟨place, rfl, lies, rfl⟩

theorem isDirectory_of_ensureDirectory {disk : Disk} {path : Path}
    (made : (disk.ensureDirectory path).1 = .ok ()) :
    (disk.ensureDirectory path).2.isDirectory path = true := by
  unfold ensureDirectory at made ⊢
  cases created : disk.makeDirectory path with
  | ok after =>
      obtain ⟨place, located, nothing, rfl⟩ := makeDirectory_eq_ok created
      have stays : disk.Stays (disk.set place (some .directory)) := by
        intro other lies
        by_cases here : other = place
        · rw [here, entry_set_self]
        · rw [entry_set_of_ne _ _ here]
          exact lies
      exact isDirectory_iff.mpr ⟨place, locate_of_stays stays located, entry_set_self ..⟩
  | error kind =>
      simp only [created] at made ⊢
      split at made
      · next there =>
          rw [if_pos there]
          exact there.2
      · cases made

/-- Making directories ends with a directory. -/
theorem isDirectory_of_makeDirectories {disk : Disk} {path : Path}
    (made : (disk.makeDirectories path).1 = .ok ()) :
    (disk.makeDirectories path).2.isDirectory path = true := by
  rw [makeDirectories] at made ⊢
  split at made
  · next lost =>
      split at made
      · cases made
      · next steps =>
        split at made
        · simp only [if_neg steps]
          exact isDirectory_of_ensureDirectory made
        · cases made
  · exact isDirectory_of_ensureDirectory made

/-! ## Where a file is saved -/

/-- A path names something in a directory that is there, and no directory is in the way. -/
structure Berth (disk : Disk) (path : Path) (room : Place) (name : String) : Prop where
  names : path.Names name
  parent : disk.locate path.parent = .ok room
  directory : disk.entry room = some .directory
  located : disk.locate path = .ok (room ++ [name])
  free : disk.entry (room ++ [name]) ≠ some .directory

theorem Berth.of_stays {before after : Disk} {path : Path} {room : Place} {name : String}
    (berth : before.Berth path room name) (stays : before.Stays after)
    (free : after.entry (room ++ [name]) ≠ some .directory) : after.Berth path room name where
  names := berth.names
  parent := locate_of_stays stays berth.parent
  directory := stays room berth.directory
  located := locate_of_stays stays berth.located
  free := free

/-- Whatever can be asked about at a path, in a directory that is there, can be saved. -/
theorem exists_berth {disk : Disk} {path : Path}
    (parent : disk.isDirectory path.parent = true)
    (asked : disk.locate path = .error .notFound ∨
      ∃ place, disk.locate path = .ok place ∧ disk.entry place ≠ some .directory) :
    ∃ room name, disk.Berth path room name := by
  obtain ⟨room, located, directory⟩ := isDirectory_iff.mp parent
  have reached := (locate_eq_ok.mp located).2.2
  -- The parent is found, so whatever is wrong with the path is wrong with its last step.
  have asked : path.steps.foldlM disk.enter [] = .error .notFound ∨
      ∃ place, path.steps.foldlM disk.enter [] = .ok place ∧
        disk.locate path = .ok place ∧ disk.entry place ≠ some .directory := by
    rcases asked with lost | ⟨place, found, free⟩
    · exact .inl (foldlM_of_locate_notFound lost)
    · exact .inr ⟨place, (locate_eq_ok.mp found).2.2, found, free⟩
  rcases Path.last_cases path with ⟨none_taken, none_before⟩ | back | ⟨name, names⟩
  · rw [none_before] at reached
    rw [none_taken, reached] at asked
    rcases asked with lost | ⟨place, same, _, free⟩
    · cases lost
    · cases same
      exact absurd directory free
  · have entered : disk.enter room .up = .ok room.dropLast := by
      simp only [enter, directory]
    rw [back, foldlM_concat reached, entered] at asked
    rcases asked with lost | ⟨place, same, _, free⟩
    · cases lost
    · cases same
      exact absurd (directory_dropLast reached directory) free
  · rw [names.steps_eq, foldlM_concat reached] at asked
    rcases asked with lost | ⟨place, entered, found, free⟩
    · simp only [enter, directory] at lost
      split at lost <;> cases lost
    · rw [eq_of_enter_down entered] at found free
      exact ⟨room, name, names, located, directory, found, free⟩

/-- The file beside lies in the same directory. -/
theorem Berth.located_temporary {disk : Disk} {path : Path} {room : Place} {name : String}
    (berth : disk.Berth path room name) {place : Place}
    (located : disk.locate path.temporary = .ok place) : place = room ++ [name ++ ".tmp"] := by
  have before := (locate_eq_ok.mp berth.parent).2.2
  have reached := (locate_eq_ok.mp located).2.2
  rw [berth.names.steps_temporary, foldlM_concat before] at reached
  exact eq_of_enter_down reached

end Disk

end HomePairing
