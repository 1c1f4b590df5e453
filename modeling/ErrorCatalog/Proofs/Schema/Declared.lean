import ErrorCatalog.Proofs.Schema.Block
import ErrorCatalog.Proofs.Schema.EntryLine
/-!
# Entries that schemas declare

`Schema.IsDeclared` describes the entries that reading a schema can give: a name of word characters,
a code that a signed word holds, and either a trimmed comment that is no annotated one or a status
and a trimmed message, which is never empty. No text in them has a line feed.

That a message is not empty rests on the order of trimming: the comment is trimmed of all blanks
before the annotation is looked for, so what stands before the gap starts with a character that is
no blank.
-/

namespace ErrorCatalog

namespace Schema

open Text (IsTrimmed Stops isBlank numeralValue trimBlank wordLimit)

/-- A trimmed text within one line. -/
structure IsRemark (t : Text) : Prop where
  isTrimmed : IsTrimmed isBlank t
  not_mem : '\n' ∉ t

/-- An internal entry as schemas declare it: its comment is not an annotated one. -/
structure IsDeclaredInternal (e : Entry) : Prop where
  status_eq : e.httpStatus = 0
  message_eq : e.httpMessage = []
  comment_isRemark : IsRemark e.comment
  not_annotated : annotation? e.comment = none

structure IsDeclaredPublic (e : Entry) : Prop where
  status_eq : ∃ status : Nat, 0 < status ∧ status < wordLimit ∧ e.httpStatus = status
  comment_eq : e.comment = []
  message_ne_nil : e.httpMessage ≠ []
  message_isRemark : IsRemark e.httpMessage

structure IsDeclared (e : Entry) : Prop where
  name_ne_nil : e.name ≠ []
  name_isWord : ∀ c ∈ e.name, Go.isWordChar c = true
  code_eq : ∃ code : Nat, code < wordLimit ∧ e.code = code
  kind : IsDeclaredInternal e ∨ IsDeclaredPublic e

/-! ## Single lines -/

/-- A trimmed comment of one line is fit to be one. -/
theorem isRemark_trimBlank {t : Text} (h : '\n' ∉ t) : IsRemark (trimBlank t) where
  isTrimmed := Text.isTrimmed_trim isBlank t
  not_mem := fun hmem => h (Text.mem_of_mem_trim hmem)

/-- Whether an entry is internal or public, its parts are as the model wants them. -/
theorem isDeclared_classify {code : Nat} {name comment : Text} (hne : name ≠ [])
    (hname : ∀ c ∈ name, Go.isWordChar c = true) (hcode : code < wordLimit)
    (hcomment : IsRemark comment) : IsDeclared (classify code name comment) := by
  unfold classify
  split
  · next message status hannotation =>
    rcases annotation?_eq_some_iff.1 hannotation with ⟨a, ha, rfl, rfl, rfl⟩
    have hstatus : ¬ ((numeralValue a.digits : Int) ≤ 0) := by
      have hpos := ha.status_pos
      omega
    -- The text before the gap starts where the trimmed comment starts.
    have hfront : Stops isBlank a.text := by
      have hstart := hcomment.isTrimmed.front
      simp only [AnnotationParts.comment, List.append_assoc] at hstart
      exact Text.stops_of_stops_append hstart ha.text_ne_nil
    have hmessage : trimBlank a.text ≠ [] := by
      rcases List.exists_cons_of_ne_nil ha.text_ne_nil with ⟨c, t, ht⟩
      intro hnil
      have hblank := Text.trim_eq_nil_iff.1 hnil c (by simp [ht])
      rw [ht, Text.stops_cons] at hfront
      rw [hfront] at hblank
      cases hblank
    have hline : '\n' ∉ a.text := by
      intro hmem
      apply hcomment.not_mem
      simp only [AnnotationParts.comment, List.mem_append]
      simp [hmem]
    -- A status that the annotation accepts is never turned into an internal entry.
    rw [Entry.withStatus, if_neg hstatus]
    refine ⟨hne, hname, ⟨code, hcode, rfl⟩, .inr ⟨?_, rfl, hmessage, isRemark_trimBlank hline⟩⟩
    exact ⟨numeralValue a.digits, ha.status_pos, ha.status_lt, rfl⟩
  · next hannotation =>
    exact ⟨hne, hname, ⟨code, hcode, rfl⟩, .inl ⟨rfl, rfl, hcomment, hannotation⟩⟩

/-- What a line declares is well formed, as its parts were read from it. -/
theorem isDeclared_of_readLine? {line : Text} {e : Entry} (h : readLine? line = some e)
    (hline : '\n' ∉ line) : IsDeclared e := by
  rcases readLine?_eq_some_iff.1 h with ⟨p, hp, rfl, rfl⟩
  apply isDeclared_classify hp.name_ne_nil hp.name_isWord hp.code_lt
  apply isRemark_trimBlank
  intro hmem
  exact hline (List.mem_append_right _ (List.mem_of_mem_drop hmem))

/-! ## Schemas -/

theorem mem_of_mem_blockLines {line : Text} {lines : List Text} (h : line ∈ blockLines lines) :
    line ∈ lines := by
  have hrest := List.mem_of_mem_drop ((List.takeWhile_sublist _).mem h)
  exact (List.dropWhile_sublist _).mem hrest

/-- Every entry of a schema comes from a line of its block. -/
theorem isDeclared_of_mem_entries {schema : Text} {e : Entry} (h : e ∈ entries schema) :
    IsDeclared e := by
  rw [entries_eq_sortByCode] at h
  have hmem := (Entry.sortByCode_perm _).mem_iff.1 h
  rcases List.mem_filterMap.1 hmem with ⟨line, hline, hread⟩
  exact isDeclared_of_readLine? hread (Text.not_mem_of_mem_lines (mem_of_mem_blockLines hline))

end Schema

end ErrorCatalog
