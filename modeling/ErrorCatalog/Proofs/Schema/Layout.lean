import ErrorCatalog.Proofs.Schema.Block
import ErrorCatalog.Proofs.Schema.EntryLine
import ErrorCatalog.Proofs.Text.Layout
/-!
# Margins in schemas

None of the readers of a schema line sees ASCII blanks at the ends of the line. In front of the line
they are dropped first of all. Behind it they pass from scanner to scanner: each takes the same from
a padded text as from the text itself and leaves a padded rest. What opens or closes the block ends
with a brace, so nothing behind it counts.
-/

namespace ErrorCatalog

namespace Text

variable {p : Char → Bool} {t t' w token front rest : Text}

/-! ## Padded texts -/

/-- The second text is the first with ASCII blanks behind it. -/
def IsPadded (t t' : Text) : Prop :=
  ∃ w, IsSpaces w ∧ t' = t ++ w

/-- Dropping from the front leaves the padding of what is left. -/
theorem IsPadded.dropWhile (h : IsPadded t t') (p : Char → Bool) :
    IsPadded (t.dropWhile p) (t'.dropWhile p) := by
  rcases h with ⟨w, hw, rfl⟩
  rw [List.dropWhile_append]
  split_ifs with hempty
  · refine ⟨w.dropWhile p, fun c hc => hw c (List.dropWhile_subset p hc), ?_⟩
    rw [List.isEmpty_iff.1 hempty, List.nil_append]
  · exact ⟨w, hw, rfl⟩

/-- What is taken from the front holds no padding if blanks end it. -/
theorem IsPadded.takeWhile_eq (h : IsPadded t t') (hp : ∀ c, isSpace c = true → p c = false) :
    t'.takeWhile p = t.takeWhile p := by
  rcases h with ⟨w, hw, rfl⟩
  have hnone : w.takeWhile p = [] := by
    cases w with
    | nil => rfl
    | cons c w => simp [hp c (hw c List.mem_cons_self)]
  rw [List.takeWhile_append]
  split_ifs with hall
  · rw [hnone, List.append_nil, (List.takeWhile_prefix p).eq_of_length hall]
  · rfl

/-- A token without ASCII blanks is found in both texts or in none. -/
theorem IsPadded.after? (h : IsPadded t t') (htoken : ∀ c ∈ token, isSpace c = false) :
    (after? token t = none ∧ after? token t' = none)
      ∨ ∃ rest rest', after? token t = some rest ∧ after? token t' = some rest'
          ∧ IsPadded rest rest' := by
  rcases h with ⟨w, hw, rfl⟩
  induction token generalizing t with
  | nil => exact .inr ⟨t, t ++ w, rfl, rfl, w, hw, rfl⟩
  | cons c token ih =>
    rcases List.forall_mem_cons.1 htoken with ⟨hc, htoken⟩
    cases t with
    | nil =>
      -- The token would have to begin with one of the blanks.
      refine .inl ⟨rfl, ?_⟩
      cases w with
      | nil => rfl
      | cons d w =>
        have hne : c ≠ d := by
          rintro rfl
          rw [hw c List.mem_cons_self] at hc
          cases hc
        simp [Text.after?, hne]
    | cons d t =>
      by_cases hcd : c = d
      · simpa [Text.after?, hcd] using ih htoken
      · simp [Text.after?, hcd]

/-- A character that no blank is stands in front of the padding. -/
theorem exists_of_append_cons_eq {c : Char} (hc : c ∉ w) (h : front ++ c :: rest = t ++ w) :
    ∃ rest', t = front ++ c :: rest' := by
  -- The character stands in the text or in the padding, and the padding does not have it.
  rcases List.append_eq_append_iff.1 h with ⟨middle, ht, hmiddle⟩ | ⟨middle, -, hw⟩
  · cases middle with
    | nil =>
      refine absurd ?_ hc
      rw [← List.nil_append w, ← hmiddle]
      exact List.mem_cons_self
    | cons d middle =>
      rw [List.cons_append, List.cons.injEq] at hmiddle
      exact ⟨middle, by rw [ht, hmiddle.1]⟩
  · refine absurd ?_ hc
    rw [hw]
    simp

end Text

namespace Schema

open Text (IgnoresMargins IsPadded IsSpaces isSpace trimBlank)

variable {t t' line line' w : Text}

theorem not_mem_of_isSpaces {c : Char} (hw : IsSpaces w) (hc : isSpace c = false) : c ∉ w := by
  intro hmem
  rw [hw c hmem] at hc
  cases hc

/-! ## The block -/

theorem ignoresMargins_opensBlock : IgnoresMargins opensBlock where
  front hw := by simp only [opensBlock, List.dropWhile_append_of_pos hw]
  back {line w} hw := by
    rw [Bool.eq_iff_iff, opensBlock_iff, opensBlock_iff]
    constructor
    · rintro ⟨w₀, w₁, w₂, rest, hw₀, hw₁, hne, hw₂, heq⟩
      rcases Text.exists_of_append_cons_eq (not_mem_of_isSpaces hw rfl) heq.symm with ⟨rest', hline⟩
      exact ⟨w₀, w₁, w₂, rest', hw₀, hw₁, hne, hw₂, hline⟩
    · rintro ⟨w₀, w₁, w₂, rest, hw₀, hw₁, hne, hw₂, rfl⟩
      exact ⟨w₀, w₁, w₂, rest ++ w, hw₀, hw₁, hne, hw₂, by simp⟩

theorem ignoresMargins_closesBlock : IgnoresMargins closesBlock where
  front hw := by simp only [closesBlock, List.dropWhile_append_of_pos hw]
  back {line w} hw := by
    rw [Bool.eq_iff_iff, closesBlock_iff, closesBlock_iff]
    constructor
    · rintro ⟨w₀, rest, hw₀, heq⟩
      rcases Text.exists_of_append_cons_eq (not_mem_of_isSpaces hw rfl) heq.symm with ⟨rest', hline⟩
      exact ⟨w₀, rest', hw₀, hline⟩
    · rintro ⟨w₀, rest, hw₀, rfl⟩
      exact ⟨w₀, rest ++ w, hw₀, by simp⟩

/-! ## Entry lines -/

/-- A comment is trimmed, so padding behind it is not seen. -/
theorem comment?_of_isPadded (h : IsPadded t t') :
    comment? (t'.dropWhile isSpace) = comment? (t.dropWhile isSpace) := by
  rcases h with ⟨w, hw, rfl⟩
  rw [List.dropWhile_append]
  -- A line of blanks behind the semicolon has no comment, however many they are.
  split_ifs with hempty
  · rw [List.dropWhile_eq_nil_iff.2 hw, List.isEmpty_iff.1 hempty]
  · have hslashes : ∀ c ∈ ("//" : Text), isSpace c = false := by simp [isSpace]
    have hpadded : IsPadded (t.dropWhile isSpace) (t.dropWhile isSpace ++ w) := ⟨w, hw, rfl⟩
    have hne : ¬ (t.dropWhile isSpace ++ w).isEmpty = true := by
      rw [List.isEmpty_iff] at hempty ⊢
      exact List.append_ne_nil_of_left_ne_nil hempty w
    unfold comment?
    rw [if_neg hempty, if_neg hne]
    rcases hpadded.after? hslashes with ⟨hnone, hnone'⟩ | ⟨rest, rest', hrest, hrest', v, hv, rfl⟩
    · rw [hnone, hnone']
    · have hblank : ∀ c ∈ v, Text.isBlank c = true := fun c hc => Text.isBlank_of_isSpace (hv c hc)
      rw [hrest, hrest', Option.map_some, Option.map_some, trimBlank, trimBlank,
        Text.trim_append_of_all_behind hblank]

/-- Padding behind a line is not seen by any part of the reader. -/
theorem readLine?_of_isPadded (h : IsPadded line line') : readLine? line' = readLine? line := by
  have hequals : ∀ c ∈ ("=" : Text), isSpace c = false := by simp [isSpace]
  have hsemicolon : ∀ c ∈ (";" : Text), isSpace c = false := by simp [isSpace]
  -- What one scanner leaves of the padded line is padded again, down to the comment.
  have hatName := h.dropWhile isSpace
  have hbehindName := (hatName.dropWhile Go.isWordChar).dropWhile isSpace
  unfold readLine?
  simp only [hatName.takeWhile_eq fun _ => Go.isWordChar_of_isSpace, Option.bind_eq_bind]
  split_ifs
  · rfl
  · rcases hbehindName.after? hequals with ⟨hnone, hnone'⟩ | ⟨rest, rest', hrest, hrest', hpadded⟩
    · rw [hnone, hnone']
    · have hatDigits := hpadded.dropWhile isSpace
      have hbehindDigits := (hatDigits.dropWhile Char.isDigit).dropWhile isSpace
      simp only [hrest, hrest', Option.bind_some,
        hatDigits.takeWhile_eq fun _ => Go.isDigit_of_isSpace]
      cases Text.readWord? ((rest.dropWhile isSpace).takeWhile Char.isDigit) with
      | none => rfl
      | some code =>
        rcases hbehindDigits.after? hsemicolon with
          ⟨hnone, hnone'⟩ | ⟨remark, remark', hremark, hremark', hpadded⟩
        · simp only [hnone, hnone', Option.bind_some, Option.bind_none]
        · simp only [hremark, hremark', Option.bind_some, comment?_of_isPadded hpadded]

theorem ignoresMargins_readLine? : IgnoresMargins readLine? where
  front hw := by simp only [readLine?, List.dropWhile_append_of_pos hw]
  back {line w} hw := readLine?_of_isPadded ⟨w, hw, rfl⟩

/-! ## Schemas -/

/-- Trimming every line keeps the block where it is. -/
theorem blockLines_map_trim (lines : List Text) :
    blockLines (lines.map (Text.trim isSpace)) = (blockLines lines).map (Text.trim isSpace) := by
  have hopens :
      ((fun line => !opensBlock line) ∘ Text.trim isSpace) = fun line => !opensBlock line :=
    funext fun line => congrArg _ (ignoresMargins_opensBlock.read_trim line)
  have hcloses :
      ((fun line => !closesBlock line) ∘ Text.trim isSpace) = fun line => !closesBlock line :=
    funext fun line => congrArg _ (ignoresMargins_closesBlock.read_trim line)
  simp only [blockLines, List.dropWhile_map, ← List.map_drop, List.takeWhile_map, hopens, hcloses]

/-- An empty line at the end declares nothing, inside the block or outside. -/
theorem filterMap_readLine?_blockLines_append_nil (lines : List Text) :
    (blockLines (lines ++ [[]])).filterMap readLine? = (blockLines lines).filterMap readLine? := by
  have hnone : readLine? [] = none := rfl
  unfold blockLines
  rw [List.dropWhile_append]
  split_ifs with houtside
  · rw [List.isEmpty_iff.1 houtside]
    rfl
  · rcases List.exists_cons_of_ne_nil (mt List.isEmpty_iff.2 houtside) with ⟨opening, block, hblock⟩
    simp only [hblock, List.cons_append, List.drop_succ_cons, List.drop_zero, List.takeWhile_append]
    -- If the block runs to the end, the empty line joins it and declares nothing.
    split_ifs with hall
    · have hblank : closesBlock [] = false := rfl
      have hwhole := (List.takeWhile_prefix (fun line => !closesBlock line)).eq_of_length hall
      simp [hwhole, hblank, hnone]
    · rfl

/-- The entries of a schema are those of its bare lines. -/
theorem entries_eq_bareLines (schema : Text) :
    entries schema
      = Entry.sortByCode ((blockLines (Text.bareLines schema)).filterMap readLine?) := by
  have hread : readLine? ∘ Text.trim isSpace = readLine? :=
    funext ignoresMargins_readLine?.read_trim
  have hlines : (blockLines ((Text.lines schema).map (Text.trim isSpace))).filterMap readLine?
      = (blockLines (Text.lines schema)).filterMap readLine? := by
    rw [blockLines_map_trim, List.filterMap_map, hread]
  rw [entries_eq_sortByCode]
  rcases Text.bareLines_eq_or schema with hbare | hbare
  · rw [hbare, hlines]
  · rw [hbare, filterMap_readLine?_blockLines_append_nil, hlines]

end Schema

end ErrorCatalog
