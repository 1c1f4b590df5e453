import ErrorCatalog.Text.Basic
/-!
# Faults of file operations

Why an operation on a file or directory fails, with the wording of the operating system.
-/

namespace ErrorCatalog

inductive DiskFault where
  | notFound
  | alreadyExists
  -- The path goes on below something that is no directory.
  | notDirectory
  | isDirectory
  -- A name or the whole path is longer than the system allows.
  | nameTooLong
  -- The path holds the character that ends paths.
  | nulInPath
  | notUtf8
  | other (reason : Text)
  deriving DecidableEq, Repr

namespace DiskFault

/-- The fault in the words of the system. -/
def message : DiskFault → Text
  | .notFound => "No such file or directory (os error 2)"
  | .alreadyExists => "File exists (os error 17)"
  | .notDirectory => "Not a directory (os error 20)"
  | .isDirectory => "Is a directory (os error 21)"
  | .nameTooLong => "File name too long (os error 36)"
  | .nulInPath => "file name contained an unexpected NUL byte"
  | .notUtf8 => "stream did not contain valid UTF-8"
  | .other reason => reason

end DiskFault

end ErrorCatalog
