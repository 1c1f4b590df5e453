import ErrorCatalog.Text.Case.Table
/-!
# Letter case

Upper and lower case of characters and of texts, by the full mappings of Unicode: one character may
become several. Upper case is a matter of each character alone. Lower case looks around at one
place: a capital sigma that ends a word becomes `ς`, any other `σ`. It ends a word when, looking
past characters that case ignores, a cased character stands before it and none stands behind it.
-/

namespace ErrorCatalog

namespace Text

/-! ## Single characters -/

namespace CaseRun

def covers (run : CaseRun) (n : Nat) : Bool :=
  run.first ≤ n && n ≤ run.last && (n - run.first) % run.step == 0

/-- What the runs, in ascending order, add to a code point: nothing when none covers it. -/
def shiftAt : List CaseRun → Nat → Int
  | [], _ => 0
  | run :: others, n =>
      if n < run.first then 0 else if run.covers n then run.shift else shiftAt others n

end CaseRun

/-- The form of a character by a table of runs and a table of expansions; expansions come first. -/
def mapCase (expansions : List (Nat × List Nat)) (runs : List CaseRun) (c : Char) : Text :=
  match expansions.lookup c.toNat with
  | some form => form.map Char.ofNat
  | none => [Char.ofNat (c.toNat + CaseRun.shiftAt runs c.toNat).toNat]

/-- The lower-case form of a character on its own. -/
def lowerChar (c : Char) : Text :=
  mapCase CaseTable.lowerExpansions CaseTable.lowerRuns c

def upperChar (c : Char) : Text :=
  mapCase CaseTable.upperExpansions CaseTable.upperRuns c

def isCased (c : Char) : Bool :=
  CaseTable.casedRanges.contains c.toNat

/-- Whether a character is passed over in looking for the cased neighbours of a sigma. -/
def isCaseIgnorable (c : Char) : Bool :=
  CaseTable.ignorableRanges.contains c.toNat

/-! ## Texts -/

def upper (t : Text) : Text :=
  t.flatMap upperChar

/-- Whether the first character that case does not ignore is cased. -/
def startsCased (t : Text) : Bool :=
  (t.dropWhile isCaseIgnorable).head?.any isCased

/-- The lower-case form of a capital sigma between the reversed text before it and the text behind
it. -/
def lowerSigma (before behind : Text) : Char :=
  if startsCased before && !startsCased behind then 'ς' else 'σ'

/-- Lower case of what follows the reversed text `before`. -/
def lowerAfter (before : Text) : Text → Text
  | [] => []
  | c :: rest =>
      (if c = 'Σ' then [lowerSigma before rest] else lowerChar c) ++ lowerAfter (c :: before) rest

def lower (t : Text) : Text :=
  lowerAfter [] t

/-! ## First facts -/

/-- Without a capital sigma the characters of a text are lowered one by one. -/
theorem lowerAfter_eq_flatMap {t : Text} (h : 'Σ' ∉ t) (before : Text) :
    lowerAfter before t = t.flatMap lowerChar := by
  induction t generalizing before with
  | nil => rfl
  | cons c rest ih =>
    simp only [List.mem_cons, not_or] at h
    simp [lowerAfter, Ne.symm h.1, ih h.2]

end Text

end ErrorCatalog
