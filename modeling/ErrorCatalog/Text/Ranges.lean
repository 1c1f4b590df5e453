import ErrorCatalog.Text.Basic
/-!
# Character classes as sorted ranges

A property of characters is given as a table of code point ranges in ascending order. A look-up
stops at the first range that starts above the code point, so it answers in few steps for small code
points. That it misses nothing rests on the order of the table, which `Ranges.isSorted` checks.
-/

namespace ErrorCatalog

namespace Text

/-- A table of code point ranges, both ends included, in ascending order. -/
abbrev Ranges := List (Nat × Nat)

namespace Ranges

def contains : Ranges → Nat → Bool
  | [], _ => false
  | (first, last) :: others, n =>
      if n < first then false else if n ≤ last then true else contains others n

/-- Each range ends at or after its start and before the start of the next. -/
def isSorted : Ranges → Bool
  | [] => true
  | [(first, last)] => first ≤ last
  | (first, last) :: (next, end') :: others =>
      first ≤ last && last < next && isSorted ((next, end') :: others)

end Ranges

end Text

end ErrorCatalog
