import ErrorCatalog.CommandLine.Flags
import ErrorCatalog.Settings.Basic
import ErrorCatalog.Source
/-!
# Commands

What the arguments of the program ask for. The first argument names the command, and the others are
its flags. A schema and a compiled binding cannot be asked for at the same time.
-/

namespace ErrorCatalog

namespace CommandLine

inductive Command where
  | create (path : Path)
  | build (path : Path)
  -- Generate a package; the settings given here lie over those of the project file.
  | generate (projectFile : Option Path) (given : Settings)
  | auto (path : Path) (projectFile : Option Path) (given : Settings)
  | inspect (source : Source) (asJson : Bool)
  | targets
  deriving DecidableEq, Repr

/-! ## Flags of the commands -/

def pathFlag : Flag :=
  .valued "path" (some 'p') false

def inputFlags : List Flag :=
  [.valued "proto" none false, .valued "pbfile" none false]

def generationFlags : List Flag :=
  [.valued "modelname" (some 'm') true, .valued "importpath" (some 'i') true,
    .valued "framework" (some 'f') true, .valued "output" (some 'o') false,
    .valued "default-msg" none true, .valued "config" (some 'c') false]

def jsonFlag : Flag :=
  .switch "json"

/-! ## Reading -/

namespace Values

def path (values : Values) : Path :=
  (Values.get? values "path").getD Settings.defaultSchema

def settings (values : Values) : Settings where
  package := Values.get? values "modelname"
  importPath := Values.get? values "importpath"
  target := Values.get? values "framework"
  defaultMessage := Values.get? values "default-msg"
  proto := Values.get? values "proto"
  pbfile := Values.get? values "pbfile"
  output := Values.get? values "output"

def source (values : Values) : Source :=
  match Values.get? values "proto", Values.get? values "pbfile" with
  | some proto, _ => .schema proto
  | none, some pbfile => .binding pbfile
  | none, none => .schema Settings.defaultSchema

def isContradictory (values : Values) : Bool :=
  (Values.get? values "proto").isSome && (Values.get? values "pbfile").isSome

end Values

/-- The flags of a command, which must not contradict each other. -/
def consistentValues (flags : List Flag) (arguments : List Text) : Except Refusal Values := do
  let values ← values flags arguments
  if Values.isContradictory values then throw .usage else pure values

/-- The names of the commands with how each reads its flags. -/
def commands : List (Text × (List Text → Except Refusal Command)) :=
  [("create", fun arguments => do
      let values ← values [pathFlag] arguments
      pure (.create (Values.path values))),
    ("build", fun arguments => do
      let values ← values [pathFlag] arguments
      pure (.build (Values.path values))),
    ("gen", fun arguments => do
      let values ← consistentValues (inputFlags ++ generationFlags) arguments
      pure (.generate (Values.get? values "config") (Values.settings values))),
    ("auto", fun arguments => do
      let values ← values (pathFlag :: generationFlags) arguments
      pure (.auto (Values.path values) (Values.get? values "config") (Values.settings values))),
    ("inspect", fun arguments => do
      let values ← consistentValues (inputFlags ++ [jsonFlag]) arguments
      pure (.inspect (Values.source values) (Values.get? values "json").isSome)),
    ("targets", fun arguments => do
      let _ ← values [] arguments
      pure .targets)]

/-- What is asked behind the word `help`: nothing more, or one command. -/
def helpOn : List Text → Refusal
  | [] => .help
  | [name] => if name = "help" || (commands.lookup name).isSome then .help else .usage
  | _ => .usage

def Command.ofArguments : List Text → Except Refusal Command
  | [] => .error .usage
  | name :: arguments =>
    if name = "--help" || ("-h" : Text).isPrefixOf name then .error .help
    else if name = "--version" || ("-V" : Text).isPrefixOf name then .error .version
    else if name = "help" then .error (helpOn arguments)
    else
      match commands.lookup name with
      | some read => read arguments
      | none => .error .usage

end CommandLine

end ErrorCatalog
