import ErrorCatalog.Text.Basic
import Mathlib.Data.List.Basic
/-!
# Lines

Cutting a text into lines and ending lines with line feeds are inverse to each other, as far as they
can be: a line feed inside a line or a carriage return at its end would be read as a line end.

`Text.induction_on_lines` takes a text apart the way `Text.lines` does. A text is *whole* when a
line feed ends its last line; the lines of a text are those of a whole front and those of the rest.
-/

namespace ErrorCatalog

namespace Text

variable {t line front rest : Text} {sep : Char}

/-! ## Pieces -/

/-- A text without the separator is one piece. -/
theorem pieces_of_not_mem (h : sep ∉ t) : pieces sep t = [t] := by
  induction t with
  | nil => rfl
  | cons c t ih =>
    simp only [List.mem_cons, not_or] at h
    simp [pieces, ih h.2, Ne.symm h.1]

/-- A separator between two texts keeps their pieces apart. -/
theorem pieces_append_sep (sep : Char) (t rest : Text) :
    pieces sep (t ++ sep :: rest) = pieces sep t ++ pieces sep rest := by
  induction t with
  | nil =>
    rcases List.exists_cons_of_ne_nil (pieces_ne_nil sep rest) with ⟨piece, others, hrest⟩
    simp [pieces, hrest]
  | cons c t ih =>
    rcases List.exists_cons_of_ne_nil (pieces_ne_nil sep t) with ⟨piece, others, hpieces⟩
    by_cases hc : c = sep
    · simp [pieces, ih, hpieces, hc]
    · simp [pieces, ih, hpieces, hc]

/-- A piece ends at the first separator. -/
theorem pieces_append_cons (h : sep ∉ line) :
    pieces sep (line ++ sep :: rest) = line :: pieces sep rest := by
  rw [pieces_append_sep, pieces_of_not_mem h, List.singleton_append]

theorem pieces_replicate (sep : Char) (count : Nat) :
    pieces sep (List.replicate count sep) = List.replicate (count + 1) [] := by
  induction count with
  | zero => rfl
  | succ count ih =>
    calc
      pieces sep (List.replicate (count + 1) sep)
          = pieces sep ([] ++ sep :: List.replicate count sep) := rfl
      _ = [] :: pieces sep (List.replicate count sep) := pieces_append_sep sep [] _
      _ = List.replicate (count + 2) [] := by rw [ih]; rfl

/-- Lines that were joined are cut apart again, with nothing behind the last. -/
theorem pieces_unlines {ls : List Text} (h : ∀ line ∈ ls, '\n' ∉ line) :
    pieces '\n' (unlines ls) = ls ++ [[]] := by
  induction ls with
  | nil => rfl
  | cons line ls ih =>
    have hothers := ih fun other hother => h other (List.mem_cons_of_mem line hother)
    rw [unlines_cons, pieces_append_cons (h line List.mem_cons_self), hothers, List.cons_append]

/-- The pieces hold the characters of the text other than the separator. -/
theorem exists_mem_pieces_iff {c : Char} :
    (∃ piece ∈ pieces sep t, c ∈ piece) ↔ c ∈ t ∧ c ≠ sep := by
  induction t with
  | nil => simp [pieces]
  | cons d t ih =>
    rcases List.exists_cons_of_ne_nil (pieces_ne_nil sep t) with ⟨piece, others, hpieces⟩
    rw [hpieces] at ih
    -- A separator opens a new piece; any other character joins the first.
    by_cases hd : d = sep
    · have hcut : pieces sep (d :: t) = [] :: piece :: others := by simp [pieces, hpieces, hd]
      rw [hcut, List.exists_mem_cons_iff, ih]
      grind
    · have hcut : pieces sep (d :: t) = (d :: piece) :: others := by simp [pieces, hpieces, hd]
      rw [hcut, List.exists_mem_cons_iff]
      rw [List.exists_mem_cons_iff] at ih
      grind

/-! ## Carriage returns -/

theorem dropCarriageReturn_of_getLast?_ne (h : line.getLast? ≠ some '\r') :
    dropCarriageReturn line = line := by
  unfold dropCarriageReturn
  split
  · next rest heq =>
    refine absurd ?_ h
    rw [List.getLast?_eq_head?_reverse, heq]
    rfl
  · rfl

theorem mem_of_mem_dropCarriageReturn {c : Char} (h : c ∈ dropCarriageReturn line) : c ∈ line := by
  unfold dropCarriageReturn at h
  split at h
  · next rest heq =>
    have hline : line = rest.reverse ++ ['\r'] := by simpa using congrArg List.reverse heq
    rw [hline]
    exact List.mem_append_left _ h
  · exact h

/-! ## Line by line -/

theorem lines_of_not_mem (h : '\n' ∉ t) : lines t = if t.isEmpty then [] else [t] := by
  cases t <;> simp [lines, pieces_of_not_mem h]

@[simp]
theorem lines_nil : lines [] = [] := rfl

theorem lines_append_cons (h : '\n' ∉ line) :
    lines (line ++ '\n' :: rest) = dropCarriageReturn line :: lines rest := by
  have hne := pieces_ne_nil '\n' rest
  simp [lines, pieces_append_cons h, List.dropLast_cons_of_ne_nil hne,
    List.getLast?_cons_of_ne_nil hne]

/-- A text without line feed has one line at most; any other text is a line that a line feed ends,
followed by a shorter text. -/
theorem induction_on_lines {motive : Text → Prop} (t : Text)
    (last : ∀ t, '\n' ∉ t → motive t)
    (step : ∀ line rest, '\n' ∉ line → motive rest → motive (line ++ '\n' :: rest)) :
    motive t := by
  by_cases hmem : '\n' ∈ t
  · -- The first line feed ends the first line.
    rcases List.eq_append_cons_of_mem hmem with ⟨line, rest, heq, hline⟩
    have hshorter : rest.length < t.length := by
      simp only [heq, List.length_append, List.length_cons]
      omega
    rw [heq]
    exact step line rest hline (induction_on_lines rest last step)
  · exact last t hmem
termination_by t.length

/-- No line has a line feed in it. -/
theorem not_mem_of_mem_lines (h : line ∈ lines t) : '\n' ∉ line := by
  induction t using induction_on_lines with
  | last t ht =>
    rw [lines_of_not_mem ht] at h
    split at h
    · cases h
    · rw [List.mem_singleton.1 h]
      exact ht
  | step first rest hfirst ih =>
    rw [lines_append_cons hfirst] at h
    rcases List.mem_cons.1 h with rfl | h
    · exact fun hmem => hfirst (mem_of_mem_dropCarriageReturn hmem)
    · exact ih h

/-- The lines that were put together are read back. -/
theorem lines_unlines {ls : List Text}
    (h : ∀ line ∈ ls, '\n' ∉ line ∧ line.getLast? ≠ some '\r') : lines (unlines ls) = ls := by
  induction ls with
  | nil => rfl
  | cons line ls ih =>
    rcases h line List.mem_cons_self with ⟨hline, hreturn⟩
    rw [unlines_cons, lines_append_cons hline, dropCarriageReturn_of_getLast?_ne hreturn,
      ih fun other hother => h other (List.mem_cons_of_mem line hother)]

/-! ## Whole lines -/

/-- The text is empty or ends with a line feed. -/
def IsWhole (t : Text) : Prop :=
  ∀ c ∈ t.getLast?, c = '\n'

theorem isWhole_nil : IsWhole [] := by
  simp [IsWhole]

theorem eq_nil_of_isWhole (h : IsWhole t) (hmem : '\n' ∉ t) : t = [] := by
  by_contra hne
  have hlast := h _ (List.getLast?_eq_getLast_of_ne_nil hne)
  exact hmem (hlast ▸ List.getLast_mem hne)

theorem isWhole_of_isWhole_append_cons (h : IsWhole (line ++ '\n' :: rest)) : IsWhole rest := by
  cases rest with
  | nil => exact isWhole_nil
  | cons c rest => simpa [IsWhole] using h

/-- Joined lines end with the last of them. -/
theorem isWhole_unlines (ls : List Text) : IsWhole (unlines ls) := by
  induction ls with
  | nil => exact isWhole_nil
  | cons line ls ih =>
    cases hrest : unlines ls with
    | nil => simp [IsWhole, hrest]
    | cons c rest =>
      rw [hrest] at ih
      simpa [IsWhole, hrest] using ih

theorem mem_of_mem_unlines {c : Char} {ls : List Text} (h : c ∈ unlines ls) :
    (∃ line ∈ ls, c ∈ line) ∨ c = '\n' := by
  rcases List.mem_flatMap.1 h with ⟨line, hline, hc⟩
  rcases List.mem_append.1 hc with hc | hc
  · exact .inl ⟨line, hline, hc⟩
  · exact .inr (List.mem_singleton.1 hc)

theorem getLast?_unlines {ls : List Text} (h : ls ≠ []) : (unlines ls).getLast? = some '\n' := by
  have hne : unlines ls ≠ [] := by
    rcases List.exists_cons_of_ne_nil h with ⟨line, rest, rfl⟩
    simp
  have hlast := List.getLast?_eq_getLast_of_ne_nil hne
  rw [hlast, isWhole_unlines ls _ hlast]

/-- Behind a whole line a new one begins. -/
theorem lines_append (h : IsWhole front) : lines (front ++ rest) = lines front ++ lines rest := by
  induction front using induction_on_lines with
  | last front hfront => simp [eq_nil_of_isWhole h hfront]
  | step line others hline ih =>
    have hothers := ih (isWhole_of_isWhole_append_cons h)
    rw [List.append_assoc, List.cons_append, lines_append_cons hline, lines_append_cons hline,
      hothers, List.cons_append]

end Text

end ErrorCatalog
