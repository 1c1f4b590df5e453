import ErrorCatalog.Failure
import ErrorCatalog.Generated.Errors
import ErrorCatalog.Generated.Middleware
import ErrorCatalog.Generated.Types
import ErrorCatalog.Go.PackageName
/-!
# Generated packages

A package is generated from its specification and the entries of a catalogue, for one of three
frameworks. All of them start with the file of types and the file of errors; go-zero adds a handler
and GoFrame a middleware.

The checks are made on the way to the common files: `PackageSpec.goPackage` looks at the package
name, then `PackageSpec.clientMessage` at the message for internal errors, then `checkEntries` at
the entries. The frameworks with a third file derive the package name once more for it.
-/

namespace ErrorCatalog

structure PackageSpec where
  -- The module path that gives the package its name.
  packageName : Text
  -- The path that others import the package by; empty when it is unknown.
  importPath : Text
  target : Text
  defaultMessage : Text
  deriving DecidableEq, Repr

/-! ## Settings -/

namespace PackageSpec

def goPackage (spec : PackageSpec) : Except SettingFault Text :=
  let package := Go.packageName spec.packageName
  if Go.isIdentifier package then .ok package else .error (.packageName spec.packageName package)

/-- The message for internal errors, which must not be blank. -/
def clientMessage (spec : PackageSpec) : Except SettingFault Text :=
  if (Text.trimBlank spec.defaultMessage).isEmpty then .error .messageBlank
  else .ok spec.defaultMessage

end PackageSpec

/-- Refuses entries when one of them breaks a rule. -/
def checkEntries (entries : List Entry) : Except Failure Unit :=
  match Entry.firstFault? entries with
  | some fault => .error (.render fault)
  | none => .ok ()

/-! ## Frameworks -/

inductive Framework where
  | plain
  | goZero
  | goFrame
  deriving DecidableEq, Repr

namespace Framework

def name : Framework → Text
  | .plain => "default"
  | .goZero => "gozero"
  | .goFrame => "goframe"

/-- The two files that every package starts with. -/
def commonFiles (flavor : Generated.ErrorFlavor) (spec : PackageSpec) (entries : List Entry) :
    Except Failure (List Generated.File) := do
  let package ← spec.goPackage.mapError .setting
  let message ← spec.clientMessage.mapError .setting
  checkEntries entries
  pure
    [⟨Generated.TypesFile.path, Generated.TypesFile.content package flavor⟩,
      ⟨Generated.ErrorsFile.path, Generated.ErrorsFile.content package message entries⟩]

def generatePlain (spec : PackageSpec) (entries : List Entry) :
    Except Failure (List Generated.File) :=
  commonFiles .plain spec entries

def generateGoZero (spec : PackageSpec) (entries : List Entry) :
    Except Failure (List Generated.File) := do
  let files ← commonFiles .plain spec entries
  let package ← spec.goPackage.mapError .setting
  let handler := Generated.HandlerFile.content package (Text.trimBlank spec.importPath)
  pure (files ++ [⟨Generated.HandlerFile.path, handler⟩])

def generateGoFrame (spec : PackageSpec) (entries : List Entry) :
    Except Failure (List Generated.File) := do
  let files ← commonFiles .goFrame spec entries
  let package ← spec.goPackage.mapError .setting
  let middleware := Generated.MiddlewareFile.content package (Text.trimBlank spec.importPath)
  pure (files ++ [⟨Generated.MiddlewareFile.path, middleware⟩])

def generate : Framework → PackageSpec → List Entry → Except Failure (List Generated.File)
  | .plain => generatePlain
  | .goZero => generateGoZero
  | .goFrame => generateGoFrame

end Framework

end ErrorCatalog
