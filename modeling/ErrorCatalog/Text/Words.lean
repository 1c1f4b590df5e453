import ErrorCatalog.Text.Case
import ErrorCatalog.Text.Digit
import ErrorCatalog.Text.Grapheme
/-!
# Words

Cuts a text into the words that people see in identifiers and titles. The unit is the grapheme
cluster.

* A cluster that is a hyphen, an underscore or a space separates words and belongs to none.
* A new word starts where case or kind changes: at an upper-case cluster after a lower-case one, and
  between a digit and a cased cluster in either order.
* A new word starts at the last of several upper-case clusters when a lower-case one follows it, so
  that the acronym before it stays whole.

`flatCase` puts the words in lower case and joins them with nothing between.
-/

namespace ErrorCatalog

namespace Text

/-! ## Kinds of clusters -/

def isSeparator (cluster : Text) : Bool :=
  cluster = ['-'] || cluster = ['_'] || cluster = [' ']

/-- Whether a cluster has case and is its own upper-case form. -/
def isUpperCluster (cluster : Text) : Bool :=
  upper cluster != lower cluster && cluster = upper cluster

/-- Whether a cluster has case and is its own lower-case form. -/
def isLowerCluster (cluster : Text) : Bool :=
  upper cluster != lower cluster && cluster = lower cluster

def isDigitCluster (cluster : Text) : Bool :=
  cluster.all Char.isDigit

/-! ## Cutting -/

/-- Whether a word ends between two neighbouring clusters, whatever follows them. -/
def changesKind (left right : Text) : Bool :=
  (isLowerCluster left && isUpperCluster right)
    || (isUpperCluster left && isDigitCluster right)
    || (isDigitCluster left && isUpperCluster right)
    || (isDigitCluster left && isLowerCluster right)
    || (isLowerCluster left && isDigitCluster right)

/-- Whether an acronym ends between `left` and `right` because `right` starts a capitalised word. -/
def endsAcronym (left right : Text) : List Text → Bool
  | [] => false
  | next :: _ => isUpperCluster left && isUpperCluster right && isLowerCluster next

/-- Adds a cluster to the front of the first of the words. -/
def prependCluster (cluster : Text) : List Text → List Text
  | [] => [cluster]
  | word :: others => (cluster ++ word) :: others

/-- The words of a sequence of clusters, empty ones among them. -/
def clusterWords : List Text → List Text
  | [] => [[]]
  -- A separator at the end has an empty word on both sides.
  | [cluster] => if isSeparator cluster then [[], []] else [cluster]
  | left :: right :: rest =>
      let behind := clusterWords (right :: rest)
      if isSeparator left then [] :: behind
      else if changesKind left right || endsAcronym left right rest then left :: behind
      else prependCluster left behind

def words (t : Text) : List Text :=
  (clusterWords (clusters t)).filter fun word => !word.isEmpty

/-- The words of a text in lower case, with nothing between them. -/
def flatCase (t : Text) : Text :=
  (words t).flatMap lower

end Text

end ErrorCatalog
