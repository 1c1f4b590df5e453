import ErrorCatalog.CommandLine.Session
/-!
# What a command can reach

The paths that a command may look at or write to. A command that generates reads its project file
first, which says where the other paths lead.
-/

namespace ErrorCatalog

namespace CommandLine

namespace Command

def projectFile? : Command → Option Path
  | .generate projectFile _ | .auto _ projectFile _ =>
      some (projectFile.getD (Path.join here Settings.projectFile))
  | _ => none

def packageFiles : List Text :=
  [Generated.TypesFile.path, Generated.ErrorsFile.path, Generated.HandlerFile.path,
    Generated.MiddlewareFile.path]

/-- The paths of a run with these settings. -/
def runPaths (settings : Settings) : List Path :=
  let directory := settings.output.elim here (Path.join here)
  let inputs := [Settings.defaultSchema, Settings.defaultBinding] ++ settings.proto.toList
    ++ settings.pbfile.toList
  inputs.map (Path.join here) ++ packageFiles.map (Path.join directory)

/-- The paths of a command other than that of its project file, which gives the settings `lower`. -/
def paths (lower : Settings) : Command → List Path
  | .create path | .build path => [path]
  | .generate _ given => runPaths (lower.merge given)
  | .auto path _ given => path :: Path.join here path :: runPaths (lower.merge given)
  | .inspect source _ => [source.path]
  | .targets => []

end Command

end CommandLine

end ErrorCatalog
