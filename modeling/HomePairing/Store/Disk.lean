import HomePairing.Bytes
import HomePairing.Store.Error
import HomePairing.Store.Path

/-!
# Files and directories

A disk says what lies at each place. An operation on a path first walks to the
place it leads to; a step from something else than a directory fails, and so does an
operation that meets the wrong kind of entry in the end.

Saving has three steps that hardware can fail: writing, flushing and renaming.
`faults` is the fate of the coming ones, in order: a law that holds "whatever
step fails" quantifies over it, and the empty list is a disk that never fails.
A rename that fails changes nothing; a write that fails may leave a part of the
content behind.
-/

namespace HomePairing

/-- What can lie at a place. -/
inductive Entry where
  | file (content : Bytes)
  | directory
deriving DecidableEq

/-- A failure of one step, and how much of a write it lets through. -/
structure Fault where
  kind : IoKind
  /-- The number of bytes that reach the file if the step is a write. -/
  kept : Nat
deriving DecidableEq

/-- What lies at each place, and the fate of the coming steps. -/
structure Disk where
  entry : Place → Option Entry
  faults : List (Option Fault)

namespace Disk

def empty : Disk where
  entry place := if place.isPrefixOf Path.home then some .directory else none
  faults := []

def set (disk : Disk) (place : Place) (entry : Option Entry) : Disk :=
  { disk with entry := fun p => if p = place then entry else disk.entry p }

@[simp] theorem entry_set_self (disk : Disk) (place : Place) (entry : Option Entry) :
    (disk.set place entry).entry place = entry := by
  simp [set]

theorem entry_set_of_ne (disk : Disk) {place other : Place} (entry : Option Entry)
    (h : other ≠ place) : (disk.set place entry).entry other = disk.entry other := by
  simp [set, h]

/-! ## Finding the way -/

/-- The most bytes a name can have. -/
def nameLimit : Nat := 255

/-- The most bytes a path can have. -/
def pathLimit : Nat := 4095

/-- Take one step from a place. -/
def enter (disk : Disk) (place : Place) (step : Path.Step) : Except IoKind Place :=
  match disk.entry place, step with
  | none, _ => .error .notFound
  | some (.file _), _ => .error .notADirectory
  | some .directory, .up => .ok place.dropLast
  | some .directory, .down name =>
    if name.utf8ByteSize > nameLimit then .error .invalidFilename
    else .ok (place ++ [name])

/-- The place that a path leads to. There may be nothing at it, but there is a
directory that it would lie in. -/
def locate (disk : Disk) (path : Path) : Except IoKind Place :=
  if !path.isSpeakable then .error .invalidInput
  else if path.length > pathLimit then .error .invalidFilename
  else path.steps.foldlM disk.enter []

/-- The place that a path leads to and what lies there. A file is not what a path
means that ends in a slash or a dot. -/
def find (disk : Disk) (path : Path) : Except IoKind (Place × Option Entry) :=
  match disk.locate path with
  | .error kind => .error kind
  | .ok place =>
    match path.ending, disk.entry place with
    | .bare, entry => .ok (place, entry)
    | _, some (.file _) => .error .notADirectory
    | _, entry => .ok (place, entry)

/-! ## Questions -/

/-- Whether something lies at a path. Not finding the way is a plain no. -/
def exists? (disk : Disk) (path : Path) : Except IoKind Bool :=
  match disk.find path with
  | .ok (_, entry) => .ok entry.isSome
  | .error .notFound => .ok false
  | .error kind => .error kind

/-- Whether something is found at a path; where it cannot be told, nothing is. -/
def isThere (disk : Disk) (path : Path) : Bool :=
  match disk.exists? path with
  | .ok there => there
  | .error _ => false

def isDirectory (disk : Disk) (path : Path) : Bool :=
  match disk.find path with
  | .ok (_, some .directory) => true
  | _ => false

def read (disk : Disk) (path : Path) : Except IoKind Bytes :=
  match disk.find path with
  | .ok (_, some (.file content)) => .ok content
  | .ok (_, some .directory) => .error .isADirectory
  | .ok (_, none) => .error .notFound
  | .error kind => .error kind

/-! ## Directories -/

/-- Make a directory in one that is there. The dot of a directory is not made before
the directory. -/
def makeDirectory (disk : Disk) (path : Path) : Except IoKind Disk :=
  match disk.locate path with
  | .error kind => .error kind
  | .ok place =>
    match path.ending, disk.entry place with
    | .dot, none => .error .notFound
    | .dot, some (.file _) => .error .notADirectory
    | _, some _ => .error .alreadyExists
    | _, none => .ok (disk.set place (some .directory))

/-- Make a directory in one that is there, unless it is there itself. -/
def ensureDirectory (disk : Disk) (path : Path) : Except IoKind Unit × Disk :=
  match disk.makeDirectory path with
  | .ok disk => (.ok (), disk)
  | .error kind =>
    if kind = .alreadyExists ∧ disk.isDirectory path then (.ok (), disk)
    else (.error kind, disk)

/-- Make a directory and those it lies in, as far as they are missing. What was made
on the way stays even if the last one cannot be made. -/
def makeDirectories (disk : Disk) (path : Path) : Except IoKind Unit × Disk :=
  match disk.ensureDirectory path with
  | (.error .notFound, _) =>
    if Path.trim path.parts = [] then
      (.error .notFound, disk)
    else
      match disk.makeDirectories path.parent with
      | (.ok (), disk) => disk.ensureDirectory path
      | (.error kind, disk) => (.error kind, disk)
  | done => done
termination_by path.parts.length
decreasing_by exact Path.length_parent_lt (by assumption)

/-! ## Files -/

/-- The place where a file can be written under a path. -/
def placeOfFile (disk : Disk) (path : Path) : Except IoKind Place :=
  match disk.locate path with
  | .error kind => .error kind
  | .ok place =>
    match path.ending, disk.entry place with
    | .slash, _ => .error .isADirectory
    | _, some .directory => .error .isADirectory
    | .bare, _ => .ok place
    | .dot, some (.file _) => .error .notADirectory
    | .dot, none => .error .notFound

/-- The fate of the next step, which is then past. -/
def nextFault (disk : Disk) : Option Fault × Disk :=
  (disk.faults.head?.join, { disk with faults := disk.faults.tail })

/-- Write a file whole. -/
def write (disk : Disk) (path : Path) (content : Bytes) : Except IoKind Unit × Disk :=
  let (fault, disk) := disk.nextFault
  match disk.placeOfFile path, fault with
  | .error kind, _ => (.error kind, disk)
  | .ok place, none => (.ok (), disk.set place (some (.file content)))
  -- What was there is gone already: a part of the new content is in its place.
  | .ok place, some fault =>
    (.error fault.kind, disk.set place (some (.file (content.take fault.kept))))

/-- Make sure that what was written stays. -/
def flush (disk : Disk) : Except IoKind Unit × Disk :=
  let (fault, disk) := disk.nextFault
  match fault with
  | none => (.ok (), disk)
  | some fault => (.error fault.kind, disk)

/-- The place that a file can be moved to under a path. A slash asks for a directory,
which a file is not, and the dot of a directory is in use. -/
def placeOfMoved (disk : Disk) (path : Path) : Except IoKind Place :=
  match disk.locate path with
  | .error kind => .error kind
  | .ok place =>
    match path.ending, disk.entry place with
    | .slash, _ => .error .notADirectory
    | .bare, some .directory => .error .isADirectory
    | .bare, _ => .ok place
    | .dot, some .directory => .error .busy
    | .dot, some (.file _) => .error .notADirectory
    | .dot, none => .error .notFound

/-- Move a file over whatever file lies at the other path. -/
def rename (disk : Disk) (source target : Path) : Except IoKind Unit × Disk :=
  let (fault, disk) := disk.nextFault
  match disk.find source, disk.placeOfMoved target, fault with
  | .error kind, _, _ => (.error kind, disk)
  | .ok (_, none), _, _ => (.error .notFound, disk)
  | .ok (_, some _), .error kind, _ => (.error kind, disk)
  | .ok (_, some _), .ok _, some fault => (.error fault.kind, disk)
  | .ok (place, some entry), .ok target, none =>
    (.ok (), (disk.set place none).set target (some entry))

/-- Let go of a file that may be there. -/
def discard (disk : Disk) (path : Path) : Disk :=
  match disk.find path with
  | .ok (place, some (.file _)) => disk.set place none
  | _ => disk

/-- Save a file so that it is never seen half written: the content goes to a file
beside it, which then takes its place. -/
def save (disk : Disk) (path : Path) (content : Bytes) : Except IoKind Unit × Disk :=
  match disk.write path.temporary content with
  | (.error kind, disk) => (.error kind, disk)
  | (.ok (), disk) =>
    match disk.flush with
    | (.error kind, disk) => (.error kind, disk)
    | (.ok (), disk) =>
      match disk.rename path.temporary path with
      | (.ok (), disk) => (.ok (), disk)
      | (.error kind, disk) => (.error kind, disk.discard path.temporary)

/-! ## Removing -/

def clear (disk : Disk) (place : Place) : Disk :=
  { disk with
    entry := fun p => if place.isPrefixOf p && p != place then none else disk.entry p }

def removeDirectory (disk : Disk) (path : Path) : Except IoKind Disk :=
  match disk.locate path with
  | .error kind => .error kind
  | .ok place =>
    if path.ending = .dot then .error .invalidInput else .ok (disk.set place none)

/-- Remove what lies at a path, and everything in it. -/
def remove (disk : Disk) (path : Path) : Except IoKind Unit × Disk :=
  match disk.find path with
  | .error kind => (.error kind, disk)
  | .ok (_, none) => (.error .notFound, disk)
  | .ok (place, some (.file _)) => (.ok (), disk.set place none)
  | .ok (place, some .directory) =>
    let cleared := disk.clear place
    match cleared.removeDirectory path with
    | .ok disk => (.ok (), disk)
    -- The way led through what has just been removed, so there is nothing left to do.
    | .error .notFound => (.ok (), cleared)
    | .error kind => (.error kind, cleared)

end Disk

end HomePairing
