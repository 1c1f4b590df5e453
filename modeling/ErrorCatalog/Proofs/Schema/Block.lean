import ErrorCatalog.Proofs.Entry.Order
import ErrorCatalog.Proofs.Text.Lines
import ErrorCatalog.Proofs.Text.Scan
import ErrorCatalog.Schema.Basic
/-!
# The block of a schema

Which lines of a schema count. `Schema.scan` goes over the lines once, with a flag for the block;
`Schema.blockLines` are the lines that it reads, and `scan_false` says that it gives the entries of
these lines and no others.

`Schema.Opens` and `Schema.Closes` are the two shapes of a line that matter, and `Schema.IsCut` says
where they cut the lines of a schema: in front of the first opening line, behind it, and in front of
the first closing line after it. The cut is unique, and the entries of a schema are those of the
lines between its two ends, sorted stably. Nothing else in the schema has any influence.
-/

namespace ErrorCatalog

namespace Schema

open Text (IsSpaces isSpace)

/-! ## The scan -/

/-- The lines between the first opening line and the first closing line behind it. -/
def blockLines (lines : List Text) : List Text :=
  ((lines.dropWhile fun line => !opensBlock line).drop 1).takeWhile fun line => !closesBlock line

/-- In the block the scan reads up to the first closing line. -/
theorem scan_true (lines : List Text) :
    scan true lines = (lines.takeWhile fun line => !closesBlock line).filterMap readLine? := by
  induction lines with
  | nil => rfl
  | cons line rest ih =>
    cases hcloses : closesBlock line with
    | true => simp [scan, hcloses]
    | false =>
      cases hread : readLine? line with
      | none => simp [scan, hcloses, hread, ih]
      | some e => simp [scan, hcloses, hread, ih]

/-- The scan of a whole schema gives the entries of the lines in its block. The induction is on the
lines before the block is open; from the opening line on `scan_true` takes over. -/
theorem scan_false (lines : List Text) :
    scan false lines = (blockLines lines).filterMap readLine? := by
  induction lines with
  | nil => rfl
  | cons line rest ih =>
    cases hopens : opensBlock line with
    | true => simp [scan, blockLines, hopens, scan_true]
    | false => simpa [scan, blockLines, hopens] using ih

/-- The flag of the loop only picks lines: the entries are those of the block, sorted. -/
theorem entries_eq_sortByCode (schema : Text) :
    entries schema = Entry.sortByCode ((blockLines (Text.lines schema)).filterMap readLine?) := by
  rw [entries, scan_false]

/-- Entries come with ascending codes. -/
theorem pairwise_entries (schema : Text) :
    (entries schema).Pairwise fun e other => e.code ≤ other.code :=
  (Entry.isStableSort_sortByCode _).ascending

/-! ## The two shapes -/

/-- The line is `enum ErrorCode {` with any ASCII blanks around the words, at least one between
them, and anything behind the brace. -/
def Opens (line : Text) : Prop :=
  ∃ w₀ w₁ w₂ rest : Text, IsSpaces w₀ ∧ IsSpaces w₁ ∧ w₁ ≠ [] ∧ IsSpaces w₂ ∧
    line = w₀ ++ "enum" ++ w₁ ++ "ErrorCode" ++ w₂ ++ '\x7b' :: rest

/-- A closing brace comes first in the line but for ASCII blanks. -/
def Closes (line : Text) : Prop :=
  ∃ w rest : Text, IsSpaces w ∧ line = w ++ '\x7d' :: rest

theorem head?_dropWhile_isSpace_iff {c : Char} (hc : isSpace c = false) (t : Text) :
    (t.dropWhile isSpace).head? = some c ↔ ∃ w rest : Text, IsSpaces w ∧ t = w ++ c :: rest := by
  constructor
  · intro h
    rcases List.head?_eq_some_iff.1 h with ⟨rest, hrest⟩
    refine ⟨t.takeWhile isSpace, rest, Text.isSpaces_takeWhile t, ?_⟩
    rw [← hrest, List.takeWhile_append_dropWhile]
  · rintro ⟨w, rest, hw, rfl⟩
    rw [Text.dropWhile_append_of_stops hw (Text.stops_cons.2 hc)]
    rfl

/-- A line closes the block if a brace is the first that is no blank. -/
theorem closesBlock_iff (line : Text) : closesBlock line = true ↔ Closes line := by
  simp only [closesBlock, decide_eq_true_eq]
  exact head?_dropWhile_isSpace_iff rfl line

theorem opensBlock_of_opens {line : Text} (h : Opens line) : opensBlock line = true := by
  rcases h with ⟨w₀, w₁, w₂, rest, hw₀, hw₁, hne, hw₂, rfl⟩
  have hkeyword (t : Text) : (w₀ ++ ("enum" ++ t)).dropWhile isSpace = "enum" ++ t :=
    Text.dropWhile_append_of_stops hw₀ (Text.stops_cons.2 rfl)
  have hname (t : Text) : (w₁ ++ ("ErrorCode" ++ t)).dropWhile isSpace = "ErrorCode" ++ t :=
    Text.dropWhile_append_of_stops hw₁ (Text.stops_cons.2 rfl)
  have hbrace : ((w₂ ++ '\x7b' :: rest).dropWhile isSpace).head? = some '\x7b' :=
    (head?_dropWhile_isSpace_iff rfl _).2 ⟨w₂, rest, hw₂, rfl⟩
  have hgap (t : Text) : (w₁ ++ t).head?.any isSpace = true := by
    rcases List.exists_cons_of_ne_nil hne with ⟨c, w, rfl⟩
    exact hw₁ c List.mem_cons_self
  simp only [opensBlock, List.append_assoc, hkeyword, Text.after?_append, hgap, hname, hbrace,
    Bool.and_self, decide_true]

theorem opens_of_opensBlock {line : Text} (h : opensBlock line = true) : Opens line := by
  unfold opensBlock at h
  split at h
  · cases h
  · next behind hkeyword =>
    rcases Bool.and_eq_true_iff.1 h with ⟨hgap, h⟩
    split at h
    · cases h
    · next after hname =>
      rcases (head?_dropWhile_isSpace_iff rfl _).1 (of_decide_eq_true h) with ⟨w₂, rest, hw₂, rfl⟩
      refine ⟨line.takeWhile isSpace, behind.takeWhile isSpace, w₂, rest,
        Text.isSpaces_takeWhile line, Text.isSpaces_takeWhile behind, ?_, hw₂, ?_⟩
      · -- The check of the gap sees its first character.
        intro hnil
        cases behind with
        | nil => cases hgap
        | cons c behind =>
          have hc : isSpace c = true := hgap
          simp [hc] at hnil
      · have hline := Text.after?_eq_some_iff.1 hkeyword
        have hbehind := Text.after?_eq_some_iff.1 hname
        calc line = line.takeWhile isSpace ++ ("enum" ++ behind) := by
              rw [← hline, List.takeWhile_append_dropWhile]
          _ = line.takeWhile isSpace ++ ("enum" ++ (behind.takeWhile isSpace
                ++ ("ErrorCode" ++ (w₂ ++ '\x7b' :: rest)))) := by
              rw [← hbehind, List.takeWhile_append_dropWhile]
          _ = _ := by simp only [List.append_assoc]

/-- The test for an opening line follows the shape that it tests. -/
theorem opensBlock_iff (line : Text) : opensBlock line = true ↔ Opens line :=
  ⟨opens_of_opensBlock, opensBlock_of_opens⟩

/-! ## The cut -/

/-- The lines `all` fall into those before the first opening line, this line, the block, and what
follows from the first closing line on, if there is one. -/
structure IsCut (all before : List Text) (opening : Text) (block behind : List Text) : Prop where
  all_eq : all = before ++ opening :: (block ++ behind)
  before_not_opens : ∀ line ∈ before, ¬ Opens line
  opening_opens : Opens opening
  block_not_closes : ∀ line ∈ block, ¬ Closes line
  behind_closes : ∀ line ∈ behind.head?, Closes line

variable {all before block behind : List Text} {opening : Text}

/-- Lines none of which opens may stand before others without changing the block. -/
theorem blockLines_append (h : ∀ line ∈ before, ¬ Opens line) (rest : List Text) :
    blockLines (before ++ rest) = blockLines rest := by
  have hskip : ∀ line ∈ before, (!opensBlock line) = true := by
    intro line hline
    simpa using mt (opensBlock_iff line).1 (h line hline)
  simp only [blockLines, List.dropWhile_append_of_pos hskip]

/-- Without an opening line there is no block. -/
theorem blockLines_of_not_opens (h : ∀ line ∈ all, ¬ Opens line) : blockLines all = [] := by
  simpa [blockLines] using blockLines_append h []

/-- Wherever the text is cut, the block is the middle part. -/
theorem blockLines_of_isCut (h : IsCut all before opening block behind) :
    blockLines all = block := by
  have hopening : (!opensBlock opening) = false := by
    simp [(opensBlock_iff opening).2 h.opening_opens]
  have hblock : ∀ line ∈ block, (!closesBlock line) = true := by
    intro line hline
    simpa using mt (closesBlock_iff line).1 (h.block_not_closes line hline)
  -- The block ends with the text or at a closing line.
  have hbehind : behind.takeWhile (fun line => !closesBlock line) = [] := by
    cases hcase : behind with
    | nil => rfl
    | cons closing behind =>
      have hcloses := h.behind_closes closing (by simp [hcase])
      simp [(closesBlock_iff closing).2 hcloses]
  rw [h.all_eq, blockLines_append h.before_not_opens]
  simp [blockLines, hopening, List.takeWhile_append_of_pos hblock, hbehind]

/-- Where some line opens there is a cut. -/
theorem exists_isCut (h : ∃ line ∈ all, Opens line) :
    ∃ before opening block behind, IsCut all before opening block behind := by
  let skipped := all.takeWhile fun line => !opensBlock line
  obtain ⟨opening, rest, hrest⟩ :
      ∃ opening rest, all.dropWhile (fun line => !opensBlock line) = opening :: rest := by
    -- If skipping left nothing, no line would open.
    apply List.exists_cons_of_ne_nil
    intro hnil
    rcases h with ⟨line, hline, hopens⟩
    have hnot := List.dropWhile_eq_nil_iff.1 hnil line hline
    simp [(opensBlock_iff line).2 hopens] at hnot
  refine ⟨skipped, opening, rest.takeWhile fun line => !closesBlock line,
    rest.dropWhile fun line => !closesBlock line, ?_, ?_, ?_, ?_, ?_⟩
  · rw [List.takeWhile_append_dropWhile, ← hrest, List.takeWhile_append_dropWhile]
  · intro line hline hopens
    have hnot := List.mem_takeWhile_imp hline
    simp [(opensBlock_iff line).2 hopens] at hnot
  · -- Skipping ends at a line that opens.
    have hhead := List.head?_dropWhile_not (fun line => !opensBlock line) all
    rw [hrest] at hhead
    exact (opensBlock_iff opening).1 (by simpa using hhead)
  · intro line hline hcloses
    have hnot := List.mem_takeWhile_imp hline
    simp [(closesBlock_iff line).2 hcloses] at hnot
  · -- Taking ends at a line that closes, if it ends before the last line.
    intro line hline
    have hhead := List.head?_dropWhile_not (fun line => !closesBlock line) rest
    rw [Option.mem_def.1 hline] at hhead
    exact (closesBlock_iff line).1 (by simpa using hhead)

/-- What follows the first closing line has no influence on the cut. -/
theorem IsCut.append {closing : Text} (h : IsCut all before opening block (closing :: behind))
    (more : List Text) :
    IsCut (all ++ more) before opening block (closing :: (behind ++ more)) where
  all_eq := by simp [h.all_eq]
  before_not_opens := h.before_not_opens
  opening_opens := h.opening_opens
  block_not_closes := h.block_not_closes
  behind_closes := by simpa using h.behind_closes

/-! ## The entries of a schema -/

/-- What stands outside the block changes nothing. -/
theorem entries_eq_of_blockLines_eq {schema schema' : Text}
    (h : blockLines (Text.lines schema) = blockLines (Text.lines schema')) :
    entries schema = entries schema' := by
  rw [entries_eq_sortByCode, h, ← entries_eq_sortByCode]

/-- A schema has no entries unless some line opens. Otherwise its lines can be cut, and its entries
are those of the lines in the block, sorted stably. Whole lines before the opening line that do not
open may be replaced by others that do not, and whatever follows the closing line by anything. -/
theorem entries_isStableSort_block (schema : Text) :
    ((∀ line ∈ Text.lines schema, ¬ Opens line) → entries schema = [])
    ∧ ((∃ line ∈ Text.lines schema, Opens line) →
        ∃ before opening block behind, IsCut (Text.lines schema) before opening block behind)
    ∧ (∀ before opening block behind, IsCut (Text.lines schema) before opening block behind →
        Entry.IsStableSort (block.filterMap readLine?) (entries schema))
    ∧ (∀ front front' rest, schema = front ++ rest → Text.IsWhole front → Text.IsWhole front' →
        (∀ line ∈ Text.lines front, ¬ Opens line) → (∀ line ∈ Text.lines front', ¬ Opens line) →
        entries (front' ++ rest) = entries schema)
    ∧ (∀ front tail tail' before opening block closing behind, schema = front ++ tail →
        Text.IsWhole front →
        IsCut (Text.lines front) before opening block (closing :: behind) →
        entries (front ++ tail') = entries schema) := by
  refine ⟨?_, exists_isCut, ?_, ?_, ?_⟩
  · intro h
    rw [entries_eq_sortByCode, blockLines_of_not_opens h]
    rfl
  · intro before opening block behind hcut
    rw [entries_eq_sortByCode, blockLines_of_isCut hcut]
    exact Entry.isStableSort_sortByCode _
  · rintro front front' rest rfl hwhole hwhole' hfront hfront'
    apply entries_eq_of_blockLines_eq
    rw [Text.lines_append hwhole, Text.lines_append hwhole', blockLines_append hfront,
      blockLines_append hfront']
  · -- The block is that of `front` alone, whatever follows it.
    rintro front tail tail' before opening block closing behind rfl hwhole hcut
    apply entries_eq_of_blockLines_eq
    rw [Text.lines_append hwhole, Text.lines_append hwhole,
      blockLines_of_isCut (hcut.append (Text.lines tail')),
      blockLines_of_isCut (hcut.append (Text.lines tail))]

end Schema

end ErrorCatalog
