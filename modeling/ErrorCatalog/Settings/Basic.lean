import ErrorCatalog.Text.Basic
/-!
# Project settings

Settings come in layers, each of which may leave any of them open. `Settings.merge` lays one layer
over another: what the upper layer sets counts. The two inputs go together, so that an upper layer
which selects an input is not overruled by the other kind of input of a lower one.
-/

namespace ErrorCatalog

/-- One layer of settings. -/
structure Settings where
  package : Option Text := none
  importPath : Option Text := none
  target : Option Text := none
  defaultMessage : Option Text := none
  proto : Option Text := none
  pbfile : Option Text := none
  output : Option Text := none
  deriving DecidableEq, Repr

namespace Settings

def empty : Settings := {}

def selectsInput (s : Settings) : Bool :=
  s.proto.isSome || s.pbfile.isSome

/-- The settings of `upper` where it has them, else those of `base`. -/
def merge (base upper : Settings) : Settings where
  package := upper.package.or base.package
  importPath := upper.importPath.or base.importPath
  target := upper.target.or base.target
  defaultMessage := upper.defaultMessage.or base.defaultMessage
  proto := if upper.selectsInput then upper.proto else base.proto
  pbfile := if upper.selectsInput then upper.pbfile else base.pbfile
  output := upper.output.or base.output

/-- All layers laid over one another, the first at the bottom. -/
def mergeAll (layers : List Settings) : Settings :=
  layers.foldl merge empty

/-! ## Well-known names -/

def projectFile : Text :=
  "generrorx.yaml"

def defaultSchema : Text :=
  "error.proto"

def defaultBinding : Text :=
  "errorcode/error.pb.go"

def defaultClientMessage : Text :=
  "服务繁忙"

/-- What is put behind the package to make its import path when none is set. -/
def importSuffix : Text :=
  "/errorcode"

end Settings

end ErrorCatalog
