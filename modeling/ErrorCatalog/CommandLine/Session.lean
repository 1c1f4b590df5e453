import ErrorCatalog.CommandLine.Command
import ErrorCatalog.Listing.Json
import ErrorCatalog.Listing.Table
import ErrorCatalog.ProjectFile.Basic
import ErrorCatalog.Run
import ErrorCatalog.SchemaCompiler
import ErrorCatalog.Starter
/-!
# Sessions

What each command does, and what users get to see of it: the text on standard output, the text on
standard error and the status that the program ends with. Status 0 means success, 1 that a command
failed, and 2 that the arguments ask for nothing that there is.
-/

namespace ErrorCatalog

namespace CommandLine

/-! ## Words -/

def program : Text :=
  "generrorx"

def version : Text :=
  "0.2.0"

def versionLine : Text :=
  Text.joinWith " " [program, version]

def helpLines : List Text :=
  ["Generate framework-ready Go error codes from an annotated proto enum",
    "",
    "Usage: " ++ program ++ " <COMMAND>",
    "",
    "Commands:",
    "  create   Create an error.proto template",
    "  build    Compile the schema with protoc",
    "  gen      Generate error code sources",
    "  auto     Compile the schema, then generate from it",
    "  inspect  Print the entries of a schema or compiled binding",
    "  targets  List supported targets"]

def createdLines (path : Path) : List Text :=
  ["✅ Created " ++ path, "📝 Add your error codes, then run:", "   " ++ program ++ " build",
    "   " ++ program ++ " gen -m <package> -f <framework>"]

def fileLine (file : Path) : Text :=
  "  ✓ Generated " ++ file

def summaryLine (options : Options) (report : Report) : Text :=
  "🎉 Done! target: " ++ report.target ++ ", package: " ++ options.packageName ++ ", "
    ++ Text.ofNat report.entries ++ " error codes ("
    ++ Text.ofNat report.publicEntries ++ " public)"

def reportLines (options : Options) (report : Report) : List Text :=
  report.files.map fileLine ++ [summaryLine options report]

/-! ## Commands -/

def here : Path :=
  "."

def createStarter (path : Path) : Action Unit := do
  if ← Starter.create path then Action.print (createdLines path)
  else Action.print ["⚠️  " ++ path ++ " already exists, skipped"]

def compileSchema (path : Path) : Action Unit := do
  Action.print ["🚀 Compiling " ++ path ++ "..."]
  let directory ← SchemaCompiler.compile path
  Action.print ["✅ Generated .pb.go under " ++ directory]

/-- The options of a run: given settings over those of a project file, which is named or lies
here. -/
def resolve (projectFile : Option Path) (given : Settings) : Action Options := do
  let lower ← match projectFile with
    | some path => ProjectFile.load path
    | none => do pure ((← ProjectFile.discover here).getD .empty)
  match (lower.merge given).options here (← get).disk with
  | .ok options => pure options
  | .error fault => throw (.setting fault)

def generatePackage (projectFile : Option Path) (given : Settings) : Action Unit := do
  let options ← resolve projectFile given
  Action.print ["📖 Reading " ++ options.input.path ++ "..."]
  match ← Run.run options with
  | none => Action.print ["⚠️  No error code entries found"]
  | some report => Action.print (reportLines options report)

def inspectSource (source : Source) (asJson : Bool) : Action Unit := do
  let entries ← source.load
  if asJson then Action.print [Listing.json entries]
  else if entries.isEmpty then
    Action.print ["⚠️  No error code entries found in " ++ source.path]
  else Action.print (Listing.table source entries)

def Command.action : Command → Action Unit
  | .create path => createStarter path
  | .build path => compileSchema path
  | .generate projectFile given => generatePackage projectFile given
  | .auto path projectFile given => do
      compileSchema path
      generatePackage projectFile { given with proto := some path, pbfile := none }
  | .inspect source asJson => inspectSource source asJson
  | .targets => Action.print Registry.builtin.targets

/-! ## Outcomes -/

/-- What users get to see of a session. -/
structure Outcome where
  output : Text
  errors : Text
  status : Nat
  deriving DecidableEq, Repr

/-- What users get to see when their arguments ask for no command. -/
def Refusal.outcome : Refusal → Outcome
  | .help => ⟨Text.unlines helpLines, [], 0⟩
  | .version => ⟨Text.unlines [versionLine], [], 0⟩
  | .usage => ⟨[], Text.unlines helpLines, 2⟩

def failureLine (failure : Failure) : Text :=
  "❌ " ++ failure.message

def perform (command : Command) (workspace : Workspace) : Outcome × Workspace :=
  match command.action.perform { workspace with printed := [] } with
  | (.ok (), after) => (⟨Text.unlines after.printed, [], 0⟩, after)
  | (.error failure, after) =>
      (⟨Text.unlines after.printed, Text.unlines [failureLine failure], 1⟩, after)

def session (arguments : List Text) (workspace : Workspace) : Outcome × Workspace :=
  match Command.ofArguments arguments with
  | .ok command => perform command workspace
  | .error refusal => (refusal.outcome, workspace)

end CommandLine

end ErrorCatalog
