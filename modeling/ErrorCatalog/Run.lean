import ErrorCatalog.Settings.Options
/-!
# Runs

A run looks up the framework, reads the entries, generates the package and writes its files, in this
order. Nothing is written before everything is generated, so a run that fails for any reason but
writing leaves the disk as it was. A source without entries ends the run with a warning and without
a report.
-/

namespace ErrorCatalog

structure Report where
  target : Text
  entries : Nat
  publicEntries : Nat
  files : List Path
  deriving DecidableEq, Repr

namespace Run

/-- Writes files into a directory by their names, in order, and gives the paths written. -/
def writeFiles (directory : Path) : List Generated.File → Action (List Path)
  | [] => pure []
  | file :: rest => do
      let path := Path.join directory file.name
      Action.writeFile path (Text.encode file.content)
      let paths ← writeFiles directory rest
      pure (path :: paths)

def runWith (registry : Registry) (options : Options) : Action (Option Report) := do
  let framework ← Action.ofExcept (registry.resolve options.target)
  let entries ← options.input.load
  if entries.isEmpty then
    Action.warn (.noEntries options.input.path)
    pure none
  else
    let files ← Action.ofExcept (framework.generate options.spec entries)
    let paths ← writeFiles options.outputDirectory files
    pure (some {
      target := framework.name
      entries := entries.length
      publicEntries := (entries.filter fun e => !e.isInternal).length
      files := paths })

def run (options : Options) : Action (Option Report) :=
  runWith .builtin options

end Run

end ErrorCatalog
