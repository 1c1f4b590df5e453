import ErrorCatalog.Text.Basic
/-!
# Paths

A path is text. It is shown to users the way it was given or put together, so joining does not
simplify. A slash separates the segments of a path; a segment that is empty or a single dot is
*idle*, as it leads nowhere else.

`Path.parent?` is a path without its last segment that is not idle and without the idle segments on
both sides of that one. It is shorter than the path, on which recursion over the parents of a path
rests.
-/

namespace ErrorCatalog

abbrev Path := Text

namespace Path

def isAbsolute (p : Path) : Bool :=
  p.head? = some '/'

/-- A path seen from a directory: an absolute path stays what it is. -/
def join (base p : Path) : Path :=
  if isAbsolute p then p
  else if base.isEmpty || base.getLast? = some '/' then base ++ p
  else base ++ '/' :: p

/-- A reversed path without the slashes and idle segments that come first in it; a slash that is all
of it stays. -/
def dropIdle : Text → Text
  | '/' :: c :: rest => dropIdle (c :: rest)
  | '.' :: '/' :: rest => dropIdle ('/' :: rest)
  | reversed => reversed

/-- The path of the directory that a path stands in; the root and the empty path have none. -/
def parent? (p : Path) : Option Path :=
  match dropIdle p.reverse with
  | [] => none
  | ['/'] => none
  | _ :: before => some (dropIdle (before.dropWhile (· != '/'))).reverse

/-- Dropping idle segments never makes a path longer, which lets `Disk.makeDirectories` end. -/
theorem length_dropIdle_le (reversed : Text) : (dropIdle reversed).length ≤ reversed.length := by
  fun_induction dropIdle reversed with
  | case1 c rest ih => exact Nat.le_succ_of_le ih
  | case2 rest ih => exact Nat.le_succ_of_le ih
  | case3 => exact Nat.le_refl _

/-- A parent is shorter. -/
theorem length_lt_of_parent? {p q : Path} (h : parent? p = some q) : q.length < p.length := by
  have hdrop := length_dropIdle_le p.reverse
  rw [List.length_reverse] at hdrop
  unfold parent? at h
  split at h
  · cases h
  · cases h
  · next c before _ heq =>
    cases h
    have hshort := length_dropIdle_le (before.dropWhile (· != '/'))
    have hwhile := (List.dropWhile_sublist (l := before) (· != '/')).length_le
    rw [heq, List.length_cons] at hdrop
    rw [List.length_reverse]
    omega

end Path

end ErrorCatalog
