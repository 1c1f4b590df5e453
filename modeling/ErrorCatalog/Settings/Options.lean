import ErrorCatalog.Registry
import ErrorCatalog.Settings.Basic
import ErrorCatalog.Source
/-!
# Options of a run

Settings with every gap filled. A text setting that is blank counts as open. Paths are seen from a
base directory. When nothing selects an input, the schema in the base directory is read if there is
one, and a compiled binding otherwise.
-/

namespace ErrorCatalog

structure Options where
  packageName : Text
  importPath : Text
  target : Text
  defaultMessage : Text
  input : Source
  outputDirectory : Path
  deriving DecidableEq, Repr

namespace Options

def spec (options : Options) : PackageSpec :=
  ⟨options.packageName, options.importPath, options.target, options.defaultMessage⟩

end Options

namespace Settings

/-- A text setting without blanks at its ends; open when nothing is left. -/
def filled (value : Option Text) : Option Text :=
  (value.map Text.trimBlank).filter fun t => !t.isEmpty

/-- The source that settings select, as seen from a base directory. -/
def input (s : Settings) (base : Path) (disk : Disk) : Source :=
  match s.proto, s.pbfile with
  | some proto, _ => .schema (Path.join base proto)
  | none, some pbfile => .binding (Path.join base pbfile)
  | none, none =>
    if disk.exists? (Path.join base defaultSchema) then .schema (Path.join base defaultSchema)
    else .binding (Path.join base defaultBinding)

/-- The options that settings stand for in a base directory; only the package has no default. -/
def options (s : Settings) (base : Path) (disk : Disk) : Except SettingFault Options :=
  match filled s.package with
  | none => .error .packageMissing
  | some package => .ok {
      packageName := package
      importPath := (filled s.importPath).getD (package ++ importSuffix)
      target := (filled s.target).getD Registry.defaultTarget
      defaultMessage := (filled s.defaultMessage).getD defaultClientMessage
      input := s.input base disk
      outputDirectory := s.output.elim base (Path.join base) }

end Settings

end ErrorCatalog
