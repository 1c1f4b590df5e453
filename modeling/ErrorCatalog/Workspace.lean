import ErrorCatalog.Disk.Basic
import ErrorCatalog.Failure
/-!
# Actions

An action works on a workspace: a disk, a schema compiler if there is one, the warnings given so far
and the text printed so far. It succeeds or fails, and in both cases leaves a workspace behind; what
it did before it failed stays done.
-/

namespace ErrorCatalog

inductive Warning where
  | duplicateCode (source : Path) (code : Int)
  | duplicateName (source : Path) (name : Text)
  | noEntries (source : Path)
  | schemaExists (path : Path)
  deriving DecidableEq, Repr

/-- The program that compiles schemas, by the status that it ends with and by what it does to the
disk when it is run with arguments. What it prints itself goes past the workspace to wherever the
caller prints and is no part of this; nor is being ended by a signal, which gives no status. -/
structure Compiler where
  status : Nat
  effect : List Text → Disk → Disk

structure Workspace where
  disk : Disk
  compiler : Option Compiler := none
  warnings : List Warning := []
  -- The texts printed, in order; a line end comes behind each.
  printed : List Text := []

abbrev Action := ExceptT Failure (StateM Workspace)

namespace Action

/-- The outcome of an action in a workspace, and the workspace that it leaves. -/
def perform {α : Type} (action : Action α) (workspace : Workspace) : Except Failure α × Workspace :=
  action.run.run workspace

def warn (warning : Warning) : Action Unit :=
  modify fun workspace => { workspace with warnings := workspace.warnings ++ [warning] }

def warnAll (warnings : List Warning) : Action Unit :=
  modify fun workspace => { workspace with warnings := workspace.warnings ++ warnings }

def print (texts : List Text) : Action Unit :=
  modify fun workspace => { workspace with printed := workspace.printed ++ texts }

def ofExcept {α : Type} : Except Failure α → Action α
  | .ok value => pure value
  | .error failure => throw failure

def readFile (p : Path) : Action Bytes := do
  match (← get).disk.readFile p with
  | .ok content => pure content
  | .error fault => throw (.disk p fault)

def setDisk (disk : Disk) : Action Unit :=
  modify fun workspace => { workspace with disk := disk }

/-- Makes the directory that a file is to stand in, and all that are missing above it. -/
def makeParent (p : Path) : Action Unit := do
  match Path.parent? p with
  | none => pure ()
  | some parent =>
    let (result, disk) := (← get).disk.makeDirectories parent
    setDisk disk
    match result with
    | .ok () => pure ()
    | .error fault => throw (.disk parent fault)

/-- Gives a file its content and makes the directories that it needs. -/
def writeFile (p : Path) (content : Bytes) : Action Unit := do
  makeParent p
  match (← get).disk.overwrite p content with
  | .ok disk => setDisk disk
  | .error fault => throw (.disk p fault)

end Action

end ErrorCatalog
