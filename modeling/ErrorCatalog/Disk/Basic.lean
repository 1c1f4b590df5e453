import ErrorCatalog.Disk.Fault
import ErrorCatalog.Disk.Path
import ErrorCatalog.SortedTable
import ErrorCatalog.Text.Utf8
/-!
# Files and directories

A disk is a table from locations to files and directories, with the location that relative paths
start from. A location is the list of names that leads to it from the root. Nothing requires that
what lies below a file is absent from the table: it cannot be reached, since walking a path looks at
every directory on the way.

Reading operations are functions of the disk. Changing operations give the new disk; one that fails
leaves the disk as it was, but for `Disk.makeDirectories`, which may have made directories before it
failed and gives the disk in both cases.
-/

namespace ErrorCatalog

/-- The names that lead from the root to a file or directory. -/
abbrev Location := List Text

inductive Object where
  | file (content : Bytes)
  | directory
  deriving DecidableEq, Repr

def Object.isDirectory : Object → Bool
  | .file _ => false
  | .directory => true

/-- Files and directories, and where relative paths start. -/
structure Disk where
  -- What stands at each location but the root.
  objects : SortedTable Location Object
  workingDirectory : Location

namespace Disk

/-! ## Objects -/

/-- What stands at a location; at the root there is always a directory. -/
def objectAt (disk : Disk) (place : Location) : Option Object :=
  if place.isEmpty then some .directory else SortedTable.get? disk.objects place

def put (disk : Disk) (place : Location) (object : Object) : Disk :=
  { disk with objects := SortedTable.put place object disk.objects }

/-- The path that leads to a location from the root. -/
def absolutePath (place : Location) : Path :=
  '/' :: Text.joinWith "/" place

/-! ## Walking paths -/

def maxNameLength : Nat :=
  255

def maxPathLength : Nat :=
  4095

def isTooLong (name : Text) : Bool :=
  maxNameLength < (Text.encode name).length

/-- Follows segments from a location. Each of them, an idle one too, needs a directory to start
from, and two dots lead to the directory above. -/
def walk (disk : Disk) (place : Location) : List Text → Except DiskFault Location
  | [] => .ok place
  | segment :: rest =>
    -- Whatever stands here must be a directory before its names are looked at.
    match disk.objectAt place with
    | none => .error .notFound
    | some (.file _) => .error .notDirectory
    | some .directory =>
      if segment.isEmpty || segment = ['.'] then walk disk place rest
      else if segment = ['.', '.'] then walk disk place.dropLast rest
      else if isTooLong segment then .error .nameTooLong
      else
        match disk.objectAt (place ++ [segment]) with
        | none => .error .notFound
        | some _ => walk disk (place ++ [segment]) rest

def start (disk : Disk) (p : Path) : Location :=
  if Path.isAbsolute p then [] else disk.workingDirectory

def isTooLongPath (p : Path) : Bool :=
  maxPathLength < (Text.encode p).length

def checkText (p : Path) : Except DiskFault Unit :=
  if p.contains '\x00' then .error .nulInPath
  else if p.isEmpty then .error .notFound
  else .ok ()

/-- Refuses what is no path that the system takes. -/
def checkPath (p : Path) : Except DiskFault Unit :=
  match checkText p with
  | .error fault => .error fault
  | .ok () => if isTooLongPath p then .error .nameTooLong else .ok ()

def locate (disk : Disk) (p : Path) : Except DiskFault Location :=
  match checkPath p with
  | .error fault => .error fault
  | .ok () => disk.walk (disk.start p) (Text.pieces '/' p)

/-- The location that a path leads to, looked up segment by segment: the path may have any length,
if only the path that leads straight to the location is not too long. -/
def canonical (disk : Disk) (p : Path) : Except DiskFault Location :=
  match checkText p with
  | .error fault => .error fault
  | .ok () =>
    match disk.walk (disk.start p) (Text.pieces '/' p) with
    | .error fault => .error fault
    | .ok place =>
      if isTooLongPath (absolutePath place) then .error .nameTooLong else .ok place

def find (disk : Disk) (p : Path) : Except DiskFault Object :=
  match disk.locate p with
  | .error fault => .error fault
  | .ok place =>
    match disk.objectAt place with
    | none => .error .notFound
    | some object => .ok object

/-! ## Looking -/

def exists? (disk : Disk) (p : Path) : Bool :=
  match disk.find p with
  | .ok _ => true
  | .error _ => false

def isFile (disk : Disk) (p : Path) : Bool :=
  match disk.find p with
  | .ok (.file _) => true
  | _ => false

def isDirectory (disk : Disk) (p : Path) : Bool :=
  match disk.find p with
  | .ok .directory => true
  | _ => false

def readFile (disk : Disk) (p : Path) : Except DiskFault Bytes :=
  match disk.find p with
  | .ok (.file content) => .ok content
  | .ok .directory => .error .isDirectory
  | .error fault => .error fault

/-! ## Changing -/

/-- The end of a path, as seen from where the rest of the path leads. -/
inductive Ending where
  -- A name in a directory, and whether a slash follows it.
  | name (directory : Location) (name : Text) (slash : Bool)
  -- A directory that is there already: the root, or one reached by dots.
  | present

/-- The end of a path, when the rest of the path leads to a directory. -/
def ending (disk : Disk) (p : Path) : Except DiskFault Ending :=
  match checkPath p with
  | .error fault => .error fault
  | .ok () =>
    let body := Text.trimEnd (· = '/') p
    if body.isEmpty then .ok .present
    else
      let name := Text.afterLast (· = '/') body
      match disk.walk (disk.start p) (Text.pieces '/' (Text.trimEnd (· != '/') body)) with
      | .error fault => .error fault
      | .ok directory =>
        if name = ['.'] || name = ['.', '.'] then .ok .present
        else .ok (.name directory name (body.length != p.length))

/-- Makes a directory where nothing stands yet. -/
def makeDirectory (disk : Disk) (p : Path) : Except DiskFault Disk :=
  match disk.ending p with
  | .error fault => .error fault
  | .ok .present => .error .alreadyExists
  | .ok (.name directory name _) =>
    if isTooLong name then .error .nameTooLong
    else
      match disk.objectAt (directory ++ [name]) with
      | some _ => .error .alreadyExists
      | none => .ok (disk.put (directory ++ [name]) .directory)

/-- Gives the file that a path leads to a content, and makes the file if it is not there. A path
that ends in a slash cannot lead to a file. -/
def overwrite (disk : Disk) (p : Path) (content : Bytes) : Except DiskFault Disk :=
  match disk.ending p with
  | .error fault => .error fault
  | .ok .present => .error .isDirectory
  | .ok (.name directory name slash) =>
    if slash then .error .isDirectory
    else if isTooLong name then .error .nameTooLong
    else
      match disk.objectAt (directory ++ [name]) with
      | some .directory => .error .isDirectory
      | _ => .ok (disk.put (directory ++ [name]) (.file content))

/-- Makes a directory and all that are missing above it. The disk in the result has those that were
made before a fault. -/
def makeDirectories (disk : Disk) (p : Path) : Except DiskFault Unit × Disk :=
  if p.isEmpty then (.ok (), disk)
  else
    match disk.makeDirectory p with
    | .ok made => (.ok (), made)
    | .error .notFound =>
      match h : Path.parent? p with
      | none => (.error (.other "failed to create whole tree"), disk)
      | some parent =>
        have := Path.length_lt_of_parent? h
        match makeDirectories disk parent with
        | (.error fault, changed) => (.error fault, changed)
        | (.ok (), changed) =>
          -- A path such as `a/..` is there as soon as its parent is.
          match changed.makeDirectory p with
          | .ok made => (.ok (), made)
          | .error fault => (if changed.isDirectory p then .ok () else .error fault, changed)
    | .error fault => (if disk.isDirectory p then .ok () else .error fault, disk)
termination_by p.length

/-- The disk without the file that a path leads to. -/
def remove (disk : Disk) (p : Path) : Except DiskFault Disk :=
  match disk.locate p with
  | .error fault => .error fault
  | .ok place => .ok { disk with objects := disk.objects.filter fun row => row.1 != place }

/-! ## Comparing -/

/-- The locations where `after` has something else than `before`, with what it has. -/
def changes (before after : Disk) : List (Location × Object) :=
  after.objects.filter fun (place, object) => before.objectAt place != some object

/-- The locations where `before` has a file or a directory and `after` has nothing of that kind. -/
def removals (before after : Disk) : List Location :=
  (before.objects.filter fun (place, object) =>
    (after.objectAt place).map Object.isDirectory != some object.isDirectory).map Prod.fst

/-! ## First facts -/

/-- Putting an object somewhere changes nothing elsewhere. -/
theorem objectAt_put (disk : Disk) (place other : Location) (object : Object) (h : place ≠ []) :
    (disk.put place object).objectAt other =
      if place = other then some object else disk.objectAt other := by
  unfold objectAt put
  by_cases hroot : other = []
  · subst hroot
    simp [h]
  · simp [hroot, SortedTable.get?_put]

/-- The working directory stays where it is. -/
@[simp]
theorem workingDirectory_put (disk : Disk) (place : Location) (object : Object) :
    (disk.put place object).workingDirectory = disk.workingDirectory := rfl

end Disk

end ErrorCatalog
