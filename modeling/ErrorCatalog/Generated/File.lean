import ErrorCatalog.Text.Basic
/-!
# Generated files

A generated file has a path, which names where in the package it belongs, and a content. When it is
written into a directory only the last part of the path counts.
-/

namespace ErrorCatalog

namespace Generated

structure File where
  -- Where the file belongs, relative to the package.
  path : Text
  content : Text
  deriving DecidableEq, Repr

/-- The part of the path behind the last slash or backslash. -/
def File.name (file : File) : Text :=
  Text.afterLast (fun c => c = '/' || c = '\\') file.path

/-- The first line of every generated file, by which Go tools know it. -/
def header : Text :=
  "// Code generated by generrorx. DO NOT EDIT."

/-- How every generated file begins: the header, and the clause that names its package. -/
def preamble (package : Text) : List Text :=
  [header, "", "package " ++ package, ""]

end Generated

end ErrorCatalog
