import ErrorCatalog.Binding.Basic
import ErrorCatalog.Schema.Basic
import ErrorCatalog.Workspace
/-!
# Sources of entries

Entries come from a schema or from a compiled binding. Reading a source gives a warning for every
entry whose code, and for every entry whose name, occurs among the entries before it. The text of a
source is whatever its bytes hold: ill-formed ones are replaced.
-/

namespace ErrorCatalog

inductive Source where
  -- A schema, which tells public entries from internal ones.
  | schema (path : Path)
  -- A compiled binding, in which all entries are internal.
  | binding (path : Path)
  deriving DecidableEq, Repr

namespace Source

def path : Source → Path
  | .schema path => path
  | .binding path => path

def kind : Source → Text
  | .schema _ => "schema"
  | .binding _ => "compiled binding"

def entries (source : Source) (text : Text) : List Entry :=
  match source with
  | .schema _ => Schema.entries text
  | .binding _ => Binding.entries text

/-! ## Warnings -/

/-- The warnings about one entry among others before it, about its code first. -/
def entryWarnings (path : Path) (earlier : List Entry) (e : Entry) : List Warning :=
  (if earlier.any (·.code = e.code) then [.duplicateCode path e.code] else [])
    ++ (if earlier.any (·.name = e.name) then [.duplicateName path e.name] else [])

def warningsAfter (path : Path) (earlier : List Entry) : List Entry → List Warning
  | [] => []
  | e :: rest => entryWarnings path earlier e ++ warningsAfter path (e :: earlier) rest

def duplicateWarnings (path : Path) (entries : List Entry) : List Warning :=
  warningsAfter path [] entries

/-! ## Reading -/

/-- Reads the entries of a source and gives the warnings about them. -/
def load (source : Source) : Action (List Entry) := do
  let content ← Action.readFile source.path
  let entries := source.entries (Text.decodeLossy content)
  Action.warnAll (duplicateWarnings source.path entries)
  pure entries

end Source

end ErrorCatalog
