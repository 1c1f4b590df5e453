import ErrorCatalog.CommandLine.Reach
/-!
# The program

The outermost layer: it reads what a command can reach from the real file system, performs the
command on that, and carries over the changes. The program starts no other programs, so to a session
there is no schema compiler.
-/

namespace ErrorCatalog

namespace CommandLine

/-- Reads what really stands at a location. -/
def observe (place : Location) : IO (Option Object) := do
  try
    let content ← IO.FS.readBinFile (String.ofList (Disk.absolutePath place))
    pure (some (.file content.toList))
  catch
    | .inappropriateType .. => pure (some .directory)
    | _ => pure none

/-- Adds to a disk what really stands at the locations that a path leads through. -/
def explore (disk : Disk) (p : Path) : IO Disk := do
  let step := fun ((place, disk) : Location × Disk) (segment : Text) => do
    if segment.isEmpty || segment = ['.'] then pure (place, disk)
    else if segment = ['.', '.'] then pure (place.dropLast, disk)
    else
      let next := place ++ [segment]
      -- Behind what is not there the path is followed on by name.
      match ← observe next with
      | some object => pure (next, disk.put next object)
      | none => pure (next, disk)
  let (_, disk) ← (Text.pieces '/' p).foldlM step (disk.start p, disk)
  pure disk

def carryOver : Location × Object → IO Unit
  | (place, .directory) => IO.FS.createDir (String.ofList (Disk.absolutePath place))
  | (place, .file content) =>
      IO.FS.writeBinFile (String.ofList (Disk.absolutePath place)) ⟨content.toArray⟩

def exploreAll (command : Command) (disk : Disk) : IO Disk := do
  match command.projectFile? with
  | none => (command.paths .empty).foldlM explore disk
  | some path =>
    let disk ← explore disk path
    let lower := match (ProjectFile.load path).perform { disk } with
      | (.ok settings, _) => settings
      | (.error _, _) => .empty
    (command.paths lower).foldlM explore disk

/-- The disk with the working directory and the directories above it. -/
def workingDisk : IO Disk := do
  let path := (toString (← IO.currentDir)).toList
  let place := (Text.pieces '/' path).filter fun name => !name.isEmpty
  explore { objects := [], workingDirectory := place } path

def conclude (outcome : Outcome) : IO UInt32 := do
  IO.print (String.ofList outcome.output)
  IO.eprint (String.ofList outcome.errors)
  pure outcome.status.toUInt32

end CommandLine

end ErrorCatalog

open ErrorCatalog CommandLine in
def main (arguments : List String) : IO UInt32 := do
  match Command.ofArguments (arguments.map String.toList) with
  | .error refusal => conclude refusal.outcome
  | .ok command =>
    let disk ← exploreAll command (← workingDisk)
    let (outcome, after) := perform command { disk }
    (disk.changes after.disk).forM carryOver
    conclude outcome
