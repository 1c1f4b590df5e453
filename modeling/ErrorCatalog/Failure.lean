import ErrorCatalog.Disk.Fault
import ErrorCatalog.Entry.Check
/-!
# Failures

Everything that can go wrong, as causes. `Failure.message` puts a failure into the words that users
see.
-/

namespace ErrorCatalog

inductive SettingFault where
  | packageMissing
  -- The module path does not give the name of a Go package.
  | packageName (given derived : Text)
  | messageBlank
  | other (setting reason : Text)
  deriving DecidableEq, Repr

namespace SettingFault

def setting : SettingFault → Text
  | .packageMissing => "package"
  | .packageName .. => "package_name"
  | .messageBlank => "default_internal_message"
  | .other setting _ => setting

def reason : SettingFault → Text
  | .packageMissing => "required (use -m/--modelname or 'package:')"
  | .packageName given derived =>
      "'" ++ given ++ "' does not yield a valid Go package name (got '" ++ derived ++ "')"
  | .messageBlank => "must not be empty"
  | .other _ reason => reason

end SettingFault

def schemaCompiler : Text :=
  "protoc"

inductive CompilerFault where
  | schemaNotFound (path : Text) (fault : DiskFault)
  | noDirectory (path : Text)
  | notRunnable (fault : DiskFault)
  | exited (status : Nat)
  | other (reason : Text)
  deriving DecidableEq, Repr

namespace CompilerFault

def message : CompilerFault → Text
  | .schemaNotFound path fault => "schema file not found: " ++ path ++ " (" ++ fault.message ++ ")"
  | .noDirectory path => "schema has no parent directory: " ++ path
  | .notRunnable fault => "cannot run " ++ schemaCompiler ++ ": " ++ fault.message
  | .exited status => schemaCompiler ++ " exited with exit status: " ++ Text.ofNat status
  | .other reason => reason

end CompilerFault

inductive Failure where
  | disk (path : Text) (fault : DiskFault)
  | unknownTarget (name : Text) (known : List Text)
  | setting (fault : SettingFault)
  | render (fault : RenderFault)
  | projectFile (path reason : Text)
  | json (reason : Text)
  | compiler (fault : CompilerFault)
  deriving DecidableEq, Repr

namespace Failure

def message : Failure → Text
  | .disk path fault => "I/O error on " ++ path ++ ": " ++ fault.message
  | .unknownTarget name known =>
      "unsupported target '" ++ name ++ "' (supported: " ++ Text.joinWith ", " known ++ ")"
  | .setting fault => "invalid configuration: " ++ fault.setting ++ ": " ++ fault.reason
  | .render fault => "cannot render generated code: " ++ fault.message
  | .projectFile path reason => "failed to parse project config " ++ path ++ ": " ++ reason
  | .json reason => "JSON serialization failed: " ++ reason
  | .compiler fault => "schema compiler failed: " ++ fault.message

end Failure

end ErrorCatalog
