import ErrorCatalog.Proofs.Text.Lines
import ErrorCatalog.Proofs.Text.Scan
/-!
# Layout

A text is laid out anew when its lines get ASCII blanks at their ends and line feeds get or lose a
carriage return. `Text.bareLines` is what no such change touches: the pieces between line feeds
without ASCII blanks at either end. The lines of a text are these pieces too, but for those blanks
and an empty piece at the end, so what reads lines and ignores their margins reads the bare lines.
-/

namespace ErrorCatalog

namespace Text

variable {p : Char → Bool} {t t' w line rest : Text}

/-! ## New layouts -/

/-- How a line ends. -/
inductive LineEnd where
  | feed
  | returnFeed
  deriving DecidableEq, Repr

/-- What stands in front of the line feed. -/
def LineEnd.return : LineEnd → Text
  | .feed => []
  | .returnFeed => ['\r']

/-- The characters of a line end. -/
def LineEnd.text (ending : LineEnd) : Text :=
  ending.return ++ ['\n']

/-- A possibly empty run of ASCII blanks other than line feeds. -/
structure IsMargin (w : Text) : Prop where
  isSpaces : IsSpaces w
  feed_not_mem : '\n' ∉ w

instance (w : Text) : Decidable (IsMargin w) :=
  decidable_of_iff (w.all isSpace = true ∧ '\n' ∉ w)
    ⟨fun h => ⟨List.all_eq_true.1 h.1, h.2⟩, fun h => ⟨List.all_eq_true.2 h.1, h.2⟩⟩

/-- The second text has the lines of the first with any margins added, and any line ends. -/
inductive IsRelaid : Text → Text → Prop where
  | last {line before behind : Text} (hline : '\n' ∉ line) (hbefore : IsMargin before)
      (hbehind : IsMargin behind) :
      IsRelaid line (before ++ line ++ behind)
  | line {line before behind rest rest' : Text} (ending ending' : LineEnd) (hline : '\n' ∉ line)
      (hbefore : IsMargin before) (hbehind : IsMargin behind) (hrest : IsRelaid rest rest') :
      IsRelaid (line ++ ending.text ++ rest) (before ++ line ++ behind ++ ending'.text ++ rest')

/-! ## Bare lines -/

/-- The pieces between line feeds without ASCII blanks at their ends. -/
def bareLines (t : Text) : List Text :=
  (pieces '\n' t).map (trim isSpace)

theorem LineEnd.isMargin_return (ending : LineEnd) : IsMargin ending.return := by
  cases ending with
  | feed => exact ⟨isSpaces_nil, List.not_mem_nil⟩
  | returnFeed => exact ⟨by simp [IsSpaces, LineEnd.return, isSpace], by decide⟩

theorem trim_append_of_all_behind (hw : ∀ c ∈ w, p c = true) : trim p (t ++ w) = trim p t := by
  have hback : ∀ c ∈ w.reverse, p c = true := by simpa using hw
  have hdropped : w.dropWhile p = [] := List.dropWhile_eq_nil_iff.2 hw
  unfold trim
  rw [List.dropWhile_append]
  -- With nothing left of the text, the run is dropped at the front instead.
  split_ifs with hempty
  · rw [hdropped, List.isEmpty_iff.1 hempty]
  · unfold trimEnd
    rw [List.reverse_append, List.dropWhile_append_of_pos hback]

/-- A return at the end of a line is trimmed with the blanks. -/
theorem trim_dropCarriageReturn (line : Text) :
    trim isSpace (dropCarriageReturn line) = trim isSpace line := by
  unfold dropCarriageReturn
  split
  · next front heq =>
    have hline : line = front.reverse ++ ['\r'] := by simpa using congrArg List.reverse heq
    have hreturn : ∀ c ∈ ['\r'], isSpace c = true := List.forall_mem_singleton.2 rfl
    rw [hline, trim_append_of_all_behind hreturn]
  · rfl

theorem bareLines_of_not_mem (h : '\n' ∉ t) : bareLines t = [trim isSpace t] := by
  rw [bareLines, pieces_of_not_mem h, List.map_singleton]

theorem bareLines_append_cons (h : '\n' ∉ line) :
    bareLines (line ++ '\n' :: rest) = trim isSpace line :: bareLines rest := by
  rw [bareLines, pieces_append_cons h, List.map_cons, bareLines]

/-- Whichever way a line ends, it is bare behind it. -/
theorem bareLines_append_text (ending : LineEnd) (h : '\n' ∉ line) :
    bareLines (line ++ ending.text ++ rest) = trim isSpace line :: bareLines rest := by
  have hreturn := ending.isMargin_return
  have hfeed : '\n' ∉ line ++ ending.return := by simp [h, hreturn.feed_not_mem]
  have htext : line ++ ending.text ++ rest = (line ++ ending.return) ++ '\n' :: rest := by
    simp [LineEnd.text]
  rw [htext, bareLines_append_cons hfeed, trim_append_of_all_behind hreturn.isSpaces]

/-- A new layout leaves the bare lines as they were. -/
theorem IsRelaid.bareLines_eq (h : IsRelaid t t') : bareLines t' = bareLines t := by
  induction h with
  | @last line before behind hline hbefore hbehind =>
    have hfeed : '\n' ∉ before ++ line ++ behind := by
      simp [hline, hbefore.feed_not_mem, hbehind.feed_not_mem]
    rw [bareLines_of_not_mem hfeed, bareLines_of_not_mem hline,
      trim_append_of_all_behind hbehind.isSpaces, trim_append_of_all hbefore.isSpaces]
  | @line line before behind rest rest' ending ending' hline hbefore hbehind hrest ih =>
    have hfeed : '\n' ∉ before ++ line ++ behind := by
      simp [hline, hbefore.feed_not_mem, hbehind.feed_not_mem]
    rw [bareLines_append_text ending' hfeed, bareLines_append_text ending hline,
      trim_append_of_all_behind hbehind.isSpaces, trim_append_of_all hbefore.isSpaces, ih]

/-- The bare lines are the lines without their margins; behind a last line feed there is one more,
which is empty. -/
theorem bareLines_eq_or (t : Text) :
    bareLines t = (lines t).map (trim isSpace)
      ∨ bareLines t = (lines t).map (trim isSpace) ++ [[]] := by
  induction t using induction_on_lines with
  | last t ht =>
    rw [bareLines_of_not_mem ht, lines_of_not_mem ht]
    split_ifs with hempty
    · -- No line, but a piece: what stands behind the last line feed.
      right
      rw [List.isEmpty_iff.1 hempty]
      rfl
    · exact .inl rfl
  | step line rest hline ih =>
    rw [bareLines_append_cons hline, lines_append_cons hline, List.map_cons,
      trim_dropCarriageReturn]
    rcases ih with ih | ih
    · exact .inl (by rw [ih])
    · exact .inr (by rw [ih, List.cons_append])

/-! ## Readers of lines -/

/-- ASCII blanks at the ends of a line make no difference to what is read. -/
structure IgnoresMargins {α : Type} (read : Text → α) : Prop where
  front : ∀ {line w : Text}, IsSpaces w → read (w ++ line) = read line
  back : ∀ {line w : Text}, IsSpaces w → read (line ++ w) = read line

/-- A reader that ignores margins reads a line as its trimmed form. -/
theorem IgnoresMargins.read_trim {α : Type} {read : Text → α} (h : IgnoresMargins read)
    (line : Text) : read (trim isSpace line) = read line := by
  let behind := line.dropWhile isSpace
  calc
    read (trim isSpace line) = read (trim isSpace line ++ takeEnd isSpace behind) :=
      (h.back (isSpaces_takeEnd behind)).symm
    _ = read behind := by rw [trim, trimEnd_append_takeEnd]
    _ = read (line.takeWhile isSpace ++ behind) := (h.front (isSpaces_takeWhile line)).symm
    _ = read line := by rw [List.takeWhile_append_dropWhile]

end Text

end ErrorCatalog
