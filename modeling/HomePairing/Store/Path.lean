/-!
# Paths

A path is a way through directories as it was written down, part by part between
its slashes. Where it leads is for the disk to say, for a step counts only if there
is a directory to take it from. Two ways to one place can still differ: a slash or a
dot after the last step says that a directory has to be there, and how long a path
is counts the parts that take no step.
-/

namespace HomePairing

/-- Where something lies: the names of the directories it is in, outermost first,
and its own. -/
abbrev Place := List String

/-- A path from the root. -/
structure Path where
  /-- What stands after each of the slashes. -/
  parts : List String
deriving DecidableEq, Repr

namespace Path

inductive Step where
  /-- To the entry with this name. -/
  | down (name : String)
  /-- To the directory that this one lies in. -/
  | up
deriving DecidableEq, Repr

/-- What is written after the last step. -/
inductive Ending where
  | bare
  | slash
  | dot
deriving DecidableEq, Repr

/-- The working directory: where a path starts that does not start with a slash. -/
def home : Place := ["var", "home"]

def ofString (text : String) : Path :=
  match text.splitOn "/" with
  | "" :: part :: rest => ⟨part :: rest⟩
  | parts => ⟨home ++ parts⟩

/-! ## Steps -/

/-- The step that a part is; none for a dot, and none between two slashes. -/
def Step.ofPart? (part : String) : Option Step :=
  if part = "" || part = "." then none
  else if part = ".." then some .up
  else some (.down part)

def steps (path : Path) : List Step :=
  path.parts.filterMap Step.ofPart?

/-- What is written after the last step of a path. -/
def ending (path : Path) : Ending :=
  match (path.parts.filter fun part => part != "").getLast? with
  | some "." => .dot
  | _ => if path.parts.getLast? = some "" then .slash else .bare

/-! ## Ways beside a way -/

/-- Parts up to the last step. -/
def trim : List String → List String
  | [] => []
  | part :: rest =>
    let rest := trim rest
    if rest.isEmpty && (Step.ofPart? part).isNone then [] else part :: rest

theorem length_trim_le (parts : List String) : (trim parts).length ≤ parts.length := by
  induction parts with
  | nil => exact Nat.le_refl 0
  | cons part rest ih =>
    simp only [trim]
    split
    · exact Nat.zero_le _
    · exact Nat.succ_le_succ ih

/-- The way to the directory before the last step. -/
def parent (path : Path) : Path :=
  ⟨trim (trim path.parts).dropLast⟩

/-- The parent of a path that takes a step is shorter. -/
theorem length_parent_lt {path : Path} (h : trim path.parts ≠ []) :
    path.parent.parts.length < path.parts.length := by
  have positive := List.length_pos_iff.mpr h
  have shorter := length_trim_le (trim path.parts).dropLast
  have whole := length_trim_le path.parts
  rw [List.length_dropLast] at shorter
  show (trim (trim path.parts).dropLast).length < path.parts.length
  omega

/-- The path beside the given one that a save goes to first. -/
def temporary (path : Path) : Path :=
  let parts := trim path.parts
  match parts.getLast? with
  | some name =>
    if name = ".." then ⟨parts ++ [".tmp"]⟩
    else ⟨trim parts.dropLast ++ [name ++ ".tmp"]⟩
  | none => ⟨[".tmp"]⟩

/-! ## Paths that no disk looks at -/

/-- Whether a path can be asked for at all: a zero character ends a text. -/
def isSpeakable (path : Path) : Bool :=
  path.parts.all fun part => !part.toList.contains '\x00'

/-- The bytes of a path as it is written. -/
def length (path : Path) : Nat :=
  path.parts.foldl (fun length part => length + (part.utf8ByteSize + 1)) 0

end Path

end HomePairing
