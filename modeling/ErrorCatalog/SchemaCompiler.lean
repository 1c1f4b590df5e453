import ErrorCatalog.Workspace
/-!
# Compiling a schema

The schema compiler is told to write beside the schema: both its output directory and its search
path are the directory of the schema, given by its path from the root.
-/

namespace ErrorCatalog

namespace SchemaCompiler

def arguments (directory schema : Path) : List Text :=
  ["--go_out=" ++ directory, "--proto_path=" ++ directory, schema]

/-- Compiles a schema and gives the directory that it stands in. -/
def compile (schema : Path) : Action Path := do
  let workspace ← get
  match workspace.disk.canonical schema with
  | .error fault => throw (.compiler (.schemaNotFound schema fault))
  | .ok place =>
    if place.isEmpty then throw (.compiler (.noDirectory (Disk.absolutePath place)))
    else
      let directory := Disk.absolutePath place.dropLast
      let given := arguments directory (Disk.absolutePath place)
      match workspace.compiler with
      | none => throw (.compiler (.notRunnable .notFound))
      | some compiler =>
        Action.setDisk (compiler.effect given workspace.disk)
        if compiler.status = 0 then pure directory
        else throw (.compiler (.exited compiler.status))

end SchemaCompiler

end ErrorCatalog
