import ErrorCatalog.ProjectFile.Document
import ErrorCatalog.Settings.Basic
import ErrorCatalog.Workspace
/-!
# Project files

A project file holds a layer of settings as a mapping from the names of settings to their values, in
the notation of YAML 1.1. Every setting may be there once, and no other names may be there. The
values null and nothing at all leave a setting open; any other plain value is taken as it is
written, also one that looks like a number.
-/

namespace ErrorCatalog

namespace ProjectFile

def nullWords : List Text :=
  ["null", "Null", "NULL", "~"]

def nullTag : Bytes :=
  Text.encode "tag:yaml.org,2002:null"

namespace Document

/-- The text that a node stands for, whether it is plain, and its tag. -/
def scalar (document : Document) : Node → Except Fault (Text × Bool × Option Bytes)
  | .scalar text isPlain tag => .ok (text, isPlain, tag)
  | .alias number =>
      match document.anchored.lookup number with
      | some (some (.scalar text isPlain tag)) => .ok (text, isPlain, tag)
      | _ => .error .collection

def settingName (document : Document) (node : Node) : Except Fault Text := do
  let (text, _) ← document.scalar node
  pure text

/-- The value of a setting, or `none` if it leaves the setting open. -/
def settingValue (document : Document) (node : Node) : Except Fault (Option Text) := do
  let (text, isPlain, tag) ← document.scalar node
  -- Quotes make a text of anything, whatever its tag says.
  if !isPlain then pure (some text)
  else
    match tag with
    | none => pure (if text.isEmpty || nullWords.contains text then none else some text)
    | some tag =>
      if tag != nullTag then pure (some text)
      else if nullWords.contains text then pure none
      else throw .notNothing

end Document

/-- Settings with one that a project file gives by its name. -/
def assign (settings : Settings) (name : Text) (value : Option Text) : Except Fault Settings :=
  if name = "package" then .ok { settings with package := value }
  else if name = "import_path" then .ok { settings with importPath := value }
  else if name = "target" then .ok { settings with target := value }
  else if name = "default_message" then .ok { settings with defaultMessage := value }
  else if name = "proto" then .ok { settings with proto := value }
  else if name = "pbfile" then .ok { settings with pbfile := value }
  else if name = "output" then .ok { settings with output := value }
  else .error (.unknownSetting name)

/-- Settings with those that pairs of names and values give, after other names. -/
def assignAll (document : Document) (settings : Settings) (earlier : List Text) :
    List (Node × Node) → Except Fault Settings
  | [] => .ok settings
  | (key, value) :: rest => do
      let name ← document.settingName key
      if earlier.contains name then throw (.repeatedSetting name)
      let value ← document.settingValue value
      let settings ← assign settings name value
      assignAll document settings (name :: earlier) rest

def settings (file : Text) : Except Fault Settings := do
  let document ← Document.ofTokens (← tokens file)
  assignAll document .empty [] document.pairs

/-! ## Reading -/

def load (path : Path) : Action Settings := do
  match Text.decode? (← Action.readFile path) with
  | none => throw (.disk path .notUtf8)
  | some text =>
    match settings text with
    | .ok settings => pure settings
    | .error fault => throw (.projectFile path fault.message)

/-- The settings of the project file in a directory; there need not be one. -/
def discover (directory : Path) : Action (Option Settings) := do
  let path := Path.join directory Settings.projectFile
  if (← get).disk.isFile path then some <$> load path else pure none

end ProjectFile

end ErrorCatalog
