import ErrorCatalog.Proofs.Text.Lines
import ErrorCatalog.Text.Utf8
/-!
# Decoding and line feeds

A line feed is one byte, and no sequence of several bytes holds that byte. So a line feed ends
whatever character is open in front of it, as ill-formed, and decoding starts afresh behind it: the
lines of a file can be decoded one by one. No other byte is decoded to a line feed, so the decoded
lines are the lines of the decoded text.

What was encoded is decoded to the text that it was.
-/

namespace ErrorCatalog

namespace Text

variable {b : UInt8} {n bits low high more : Nat} {c : Char} {front rest content : Bytes}
  {state : DecodeState}

/-- The lines of a file: the bytes between its line feeds. -/
def byteLines (content : Bytes) : List Bytes :=
  content.splitOn 0x0A

/-! ## One byte -/

namespace DecodeState

theorem step_within_zero (h : low ≤ b.toNat ∧ b.toNat ≤ high) :
    (within bits low high 0).step b
      = ([some (Char.ofNat (bits * 0x40 + b.toNat % 0x40))], .ready) := by
  simp [DecodeState.step, h]

theorem step_within_succ (h : low ≤ b.toNat ∧ b.toNat ≤ high) :
    (within bits low high (more + 1)).step b
      = ([], .within (bits * 0x40 + b.toNat % 0x40) 0x80 0xBF more) := by
  simp [DecodeState.step, h]

/-- A byte that does not continue the character is looked at afresh. -/
theorem step_within_of_not (h : ¬ (low ≤ b.toNat ∧ b.toNat ≤ high)) :
    (within bits low high more).step b = (none :: (begin b).1, (begin b).2) := by
  have hcheck : (decide (low ≤ b.toNat) && decide (b.toNat ≤ high)) = false := by
    simpa using h
  simp [DecodeState.step, hcheck]

theorem begin_feed : begin 0x0A = ([some '\n'], .ready) := rfl

end DecodeState

/-- One byte is one step of the decoder. -/
theorem decodeFrom_cons (state : DecodeState) (b : UInt8) (rest : Bytes) :
    decodeFrom state (b :: rest) = (state.step b).1 ++ decodeFrom (state.step b).2 rest := by
  cases state with
  | ready => rfl
  | within bits low high more => rfl

/-! ## States of reading -/

/-- Between characters, or within one that only a continuation byte goes on with and that lies
beyond ASCII, whatever bytes complete it. -/
inductive DecodeState.IsSound : DecodeState → Prop where
  | ready : IsSound .ready
  | within {bits low high more : Nat} (hlow : 0x80 ≤ low) (hhigh : high ≤ 0xBF)
      (hbits : 2 ≤ bits * 0x40 + low % 0x40)
      (hlast : more = 0 → 0x80 ≤ bits * 0x40 + low % 0x40) :
      IsSound (.within bits low high more)

theorem Lead.isSound_of_ofByte? {lead : Lead} (h : Lead.ofByte? n = some lead) :
    (DecodeState.within lead.payload lead.low lead.high lead.more).IsSound := by
  unfold Lead.ofByte? at h
  simp only [Option.ite_none_left_eq_some] at h
  rcases h with ⟨hmin, h⟩
  split_ifs at h
  all_goals
    rw [Option.some.injEq] at h
    subst h
    refine .within ?_ ?_ ?_ ?_ <;> simp only [] <;> omega

theorem ofNat_ne_feed (h : 0x80 ≤ n) : Char.ofNat n ≠ '\n' := by
  intro heq
  by_cases hvalid : n.isValidChar
  · have hvalue : (Char.ofNat n).toNat = n := by
      rw [Char.ofNat, dif_pos hvalid]
      rfl
    rw [heq] at hvalue
    have hfeed : '\n'.toNat = 0x0A := rfl
    omega
  · -- Numbers of no character stand for NUL.
    rw [Char.ofNat, dif_neg hvalid] at heq
    cases heq

namespace DecodeState

theorem isSound_begin (b : UInt8) : (begin b).2.IsSound := by
  unfold begin
  split
  · exact .ready
  · split
    · next lead hlead => exact Lead.isSound_of_ofByte? hlead
    · exact .ready

theorem feed_not_mem_begin (hb : b ≠ 0x0A) : some '\n' ∉ (begin b).1 := by
  unfold begin
  split
  · next hascii =>
    have htable : ∀ n < 0x80, n ≠ 0x0A → Char.ofNat n ≠ '\n' := by decide
    have hne : b.toNat ≠ 0x0A := fun heq => hb (UInt8.toNat_inj.1 heq)
    simpa using (htable b.toNat hascii hne).symm
  · split
    · simp
    · simp

/-- Every step keeps the numbers of the state in their bounds. -/
theorem IsSound.step (h : state.IsSound) (b : UInt8) : (state.step b).2.IsSound := by
  cases h with
  | ready => exact isSound_begin b
  | @within bits low high more hlow hhigh hbits hlast =>
    by_cases hnext : low ≤ b.toNat ∧ b.toNat ≤ high
    · cases more with
      | zero =>
        rw [step_within_zero hnext]
        exact .ready
      | succ more =>
        rw [step_within_succ hnext]
        -- The bits so far are not all zero, so the next six make a number of two bytes at least.
        have hpayload : low % 0x40 ≤ b.toNat % 0x40 := by omega
        exact .within (by omega) (by omega) (by omega) (by omega)
    · rw [step_within_of_not hnext]
      exact isSound_begin b

/-- A line feed comes out only where a line feed goes in. -/
theorem IsSound.feed_not_mem_step (h : state.IsSound) (hb : b ≠ 0x0A) :
    some '\n' ∉ (state.step b).1 := by
  cases h with
  | ready => exact feed_not_mem_begin hb
  | @within bits low high more hlow hhigh hbits hlast =>
    by_cases hnext : low ≤ b.toNat ∧ b.toNat ≤ high
    · cases more with
      | zero =>
        rw [step_within_zero hnext]
        -- Only the last byte of a sequence gives a character, and its value is beyond the first
        -- 128.
        have hbits := hlast rfl
        have hpayload : low % 0x40 ≤ b.toNat % 0x40 := by omega
        have hne : Char.ofNat (bits * 0x40 + b.toNat % 0x40) ≠ '\n' := ofNat_ne_feed (by omega)
        simpa using hne.symm
      | succ more =>
        rw [step_within_succ hnext]
        exact List.not_mem_nil
    · rw [step_within_of_not hnext]
      simpa using feed_not_mem_begin hb

/-- A line feed ends the text that was read so far. -/
theorem IsSound.step_feed (h : state.IsSound) :
    state.step 0x0A = (decodeFrom state [] ++ [some '\n'], .ready) := by
  cases h with
  | ready => exact begin_feed
  | @within bits low high more hlow hhigh hbits hlast =>
    have hnext : ¬ (low ≤ (0x0A : UInt8).toNat ∧ (0x0A : UInt8).toNat ≤ high) := by
      have hfeed : (0x0A : UInt8).toNat = 0x0A := rfl
      omega
    rw [step_within_of_not hnext, begin_feed]
    rfl

end DecodeState

/-! ## Runs -/

/-- Behind a line feed nothing depends on what stood in front of it. -/
theorem decodeFrom_append_feed (h : state.IsSound) (front rest : Bytes) :
    decodeFrom state (front ++ 0x0A :: rest)
      = decodeFrom state front ++ some '\n' :: decodeFrom .ready rest := by
  -- Each byte in front of the line feed leaves another sound state.
  induction front generalizing state with
  | nil =>
    rw [List.nil_append, decodeFrom_cons, h.step_feed, List.append_assoc]
    rfl
  | cons b front ih =>
    rw [List.cons_append, decodeFrom_cons, decodeFrom_cons, ih (h.step b), List.append_assoc]

theorem feed_not_mem_decodeFrom (h : state.IsSound) (hcontent : 0x0A ∉ content) :
    some '\n' ∉ decodeFrom state content := by
  induction content generalizing state with
  | nil =>
    -- A character open at the end is given up, which writes no line feed.
    cases h with
    | ready => exact List.not_mem_nil
    | within hlow hhigh hbits hlast => simp [decodeFrom]
  | cons b content ih =>
    simp only [List.mem_cons, not_or] at hcontent
    rw [decodeFrom_cons, List.mem_append, not_or]
    exact ⟨h.feed_not_mem_step (Ne.symm hcontent.1), ih (h.step b) hcontent.2⟩

/-- A line feed ends whatever sequence was begun, so both sides are decoded alone. -/
theorem decodeLossy_append_feed (front rest : Bytes) :
    decodeLossy (front ++ 0x0A :: rest) = decodeLossy front ++ '\n' :: decodeLossy rest := by
  simp only [decodeLossy, decodeFrom_append_feed .ready, List.map_append, List.map_cons,
    Option.getD_some]

theorem feed_not_mem_decodeLossy (h : 0x0A ∉ content) : '\n' ∉ decodeLossy content := by
  intro hmem
  rcases List.mem_map.1 hmem with ⟨found, hfound, hchar⟩
  cases found with
  | none => cases hchar
  | some c =>
    have hfeed : c = '\n' := hchar
    exact feed_not_mem_decodeFrom .ready h (hfeed ▸ hfound)

/-! ## Lines -/

theorem pieces_eq_splitOn (sep : Char) (t : Text) : pieces sep t = t.splitOn sep := by
  induction t with
  | nil => rfl
  | cons c t ih =>
    rcases List.exists_cons_of_ne_nil (pieces_ne_nil sep t) with ⟨piece, others, hpieces⟩
    rw [List.splitOn_cons_eq_if_modifyHead, ← ih, hpieces]
    by_cases hc : c = sep
    · simp [pieces, hpieces, hc]
    · simp [pieces, hpieces, hc]

theorem feed_not_mem_of_mem_byteLines {line : Bytes} (h : line ∈ byteLines content) :
    0x0A ∉ line := by
  induction content generalizing line with
  | nil =>
    rw [List.mem_singleton.1 h]
    exact List.not_mem_nil
  | cons b content ih =>
    rcases List.exists_cons_of_ne_nil (List.splitOn_ne_nil 0x0A content) with
      ⟨first, others, hlines⟩
    simp only [byteLines, List.splitOn_cons_eq_if_modifyHead, hlines] at h ih
    rcases List.forall_mem_cons.1 fun _ => ih with ⟨hfirst, hothers⟩
    -- A line feed ends the empty line before it; any other byte joins the first line.
    by_cases hb : b = 0x0A
    · simp only [hb, BEq.rfl, if_true] at h
      rcases List.mem_cons.1 h with rfl | h
      · exact List.not_mem_nil
      · exact ih h
    · have hbeq : (b == 0x0A) = false := by simpa using hb
      simp only [hbeq, Bool.false_eq_true, if_false, List.modifyHead_cons] at h
      rcases List.mem_cons.1 h with rfl | h
      · simp [hfirst, Ne.symm hb]
      · exact hothers line h

/-- Lines put together are decoded one by one. -/
theorem decodeLossy_intercalate (lines : List Bytes) :
    decodeLossy ([0x0A].intercalate lines) = ['\n'].intercalate (lines.map decodeLossy) := by
  induction lines with
  | nil => rfl
  | cons line others ih =>
    cases others with
    | nil => simp
    | cons next others =>
      simp only [List.map_cons, List.intercalate_cons_cons] at ih ⊢
      simp [decodeLossy_append_feed, ih]

/-- Joined lines are decoded each on its own, since no line gives a line feed. -/
theorem pieces_decodeLossy_intercalate {lines : List Bytes} (hne : lines ≠ [])
    (h : ∀ line ∈ lines, 0x0A ∉ line) :
    pieces '\n' (decodeLossy ([0x0A].intercalate lines)) = lines.map decodeLossy := by
  rw [pieces_eq_splitOn, decodeLossy_intercalate]
  refine List.splitOn_intercalate '\n' ?_ (by simpa using hne)
  intro decoded hdecoded
  rcases List.mem_map.1 hdecoded with ⟨line, hline, rfl⟩
  exact feed_not_mem_decodeLossy (h line hline)

/-- The lines of bytes are the content, cut at its line feeds. -/
theorem intercalate_byteLines (content : Bytes) :
    [0x0A].intercalate (byteLines content) = content :=
  List.intercalate_splitOn 0x0A

theorem byteLines_ne_nil (content : Bytes) : byteLines content ≠ [] :=
  List.splitOn_ne_nil 0x0A content

theorem pieces_decodeLossy (content : Bytes) :
    pieces '\n' (decodeLossy content) = (byteLines content).map decodeLossy := by
  have hlines : ∀ line ∈ byteLines content, 0x0A ∉ line :=
    fun _ => feed_not_mem_of_mem_byteLines
  calc
    pieces '\n' (decodeLossy content)
        = pieces '\n' (decodeLossy ([0x0A].intercalate (byteLines content))) := by
      rw [intercalate_byteLines]
    _ = (byteLines content).map decodeLossy :=
      pieces_decodeLossy_intercalate (byteLines_ne_nil content) hlines

/-- The text of a file whose lines are decoded one by one. -/
def decodeByLine (content : Bytes) : Text :=
  ['\n'].intercalate ((byteLines content).map decodeLossy)

/-- Decoding all at once is decoding line by line. -/
theorem decodeLossy_eq_decodeByLine (content : Bytes) :
    decodeLossy content = decodeByLine content := by
  calc
    decodeLossy content = decodeLossy ([0x0A].intercalate (byteLines content)) := by
      rw [intercalate_byteLines]
    _ = decodeByLine content := decodeLossy_intercalate (byteLines content)

/-- Another line in the place of one of a file changes the decoded text at this line only. -/
theorem pieces_decodeLossy_set {other : Bytes} (h : 0x0A ∉ other) (content : Bytes) (i : Nat) :
    pieces '\n' (decodeLossy ([0x0A].intercalate ((byteLines content).set i other)))
      = (pieces '\n' (decodeLossy content)).set i (decodeLossy other) := by
  have hne : (byteLines content).set i other ≠ [] := by
    simpa using byteLines_ne_nil content
  rw [pieces_decodeLossy_intercalate hne, pieces_decodeLossy, List.map_set]
  intro line hline
  rcases List.mem_or_eq_of_mem_set hline with hline | rfl
  · exact feed_not_mem_of_mem_byteLines hline
  · exact h

/-! ## Well-formed bytes -/

theorem toNat_continuationByte (n : Nat) : (continuationByte n).toNat = 0x80 + n % 0x40 := by
  have hsmall : 0x80 + n % 0x40 < 0x100 := by omega
  exact UInt8.toNat_ofNat_of_lt' hsmall

theorem begin_of_ofByte? (h : Lead.ofByte? b.toNat = some ⟨bits, low, high, more⟩) :
    DecodeState.begin b = ([], .within bits low high more) := by
  have hmin : ¬ b.toNat < 0x80 := by
    intro hascii
    rw [Lead.ofByte?, if_pos (by omega)] at h
    cases h
  simp [DecodeState.begin, hmin, h]

theorem ofByte?_two (hlow : 0x80 ≤ n) (hhigh : n < 0x800) :
    Lead.ofByte? (0xC0 + n / 0x40) = some ⟨n / 0x40, 0x80, 0xBF, 0⟩ := by
  unfold Lead.ofByte?
  rw [if_neg (by omega), if_pos (by omega), Nat.add_sub_cancel_left]

/-- Neither an overlong form nor a surrogate is written. -/
theorem exists_ofByte?_three (hlow : 0x800 ≤ n) (hhigh : n < 0x10000)
    (hvalid : n < 0xD800 ∨ 0xDFFF < n) :
    ∃ low high, Lead.ofByte? (0xE0 + n / 0x1000) = some ⟨n / 0x1000, low, high, 1⟩
      ∧ low ≤ 0x80 + n / 0x40 % 0x40 ∧ 0x80 + n / 0x40 % 0x40 ≤ high := by
  unfold Lead.ofByte?
  rw [if_neg (by omega), if_neg (by omega)]
  split_ifs with hfirst hsurrogate
  · exact ⟨0xA0, 0xBF, by simp; omega, by omega, by omega⟩
  · exact ⟨0x80, 0x9F, by simp; omega, by omega, by omega⟩
  · exact ⟨0x80, 0xBF, by simp, by omega, by omega⟩
  all_goals omega

/-- A lead byte of four fixes the bounds of the byte behind it. -/
theorem exists_ofByte?_four (hlow : 0x10000 ≤ n) (hhigh : n < 0x110000) :
    ∃ low high, Lead.ofByte? (0xF0 + n / 0x40000) = some ⟨n / 0x40000, low, high, 2⟩
      ∧ low ≤ 0x80 + n / 0x1000 % 0x40 ∧ 0x80 + n / 0x1000 % 0x40 ≤ high := by
  unfold Lead.ofByte?
  rw [if_neg (by omega), if_neg (by omega), if_neg (by omega), if_neg (by omega),
    if_neg (by omega)]
  split_ifs with hfirst hmiddle hlast
  · exact ⟨0x90, 0xBF, by simp; omega, by omega, by omega⟩
  · exact ⟨0x80, 0xBF, by simp, by omega, by omega⟩
  · exact ⟨0x80, 0x8F, by simp; omega, by omega, by omega⟩
  · omega

theorem decodeFrom_lead (hsmall : n < 0x100) (h : Lead.ofByte? n = some ⟨bits, low, high, more⟩) :
    decodeFrom .ready (UInt8.ofNat n :: rest) = decodeFrom (.within bits low high more) rest := by
  have hvalue : (UInt8.ofNat n).toNat = n := UInt8.toNat_ofNat_of_lt' hsmall
  have hlead : Lead.ofByte? (UInt8.ofNat n).toNat = some ⟨bits, low, high, more⟩ := by rwa [hvalue]
  have hbegin : DecodeState.ready.step (UInt8.ofNat n) = ([], .within bits low high more) :=
    begin_of_ofByte? hlead
  rw [decodeFrom_cons, hbegin, List.nil_append]

theorem decodeFrom_continuation_zero (hlow : low ≤ 0x80 + n % 0x40)
    (hhigh : 0x80 + n % 0x40 ≤ high) :
    decodeFrom (.within bits low high 0) (continuationByte n :: rest)
      = some (Char.ofNat (bits * 0x40 + n % 0x40)) :: decodeFrom .ready rest := by
  rw [decodeFrom_cons, DecodeState.step_within_zero (by rw [toNat_continuationByte]; omega),
    toNat_continuationByte, Nat.add_mod, Nat.mod_mod]
  simp

theorem decodeFrom_continuation_succ (hlow : low ≤ 0x80 + n % 0x40)
    (hhigh : 0x80 + n % 0x40 ≤ high) :
    decodeFrom (.within bits low high (more + 1)) (continuationByte n :: rest)
      = decodeFrom (.within (bits * 0x40 + n % 0x40) 0x80 0xBF more) rest := by
  rw [decodeFrom_cons, DecodeState.step_within_succ (by rw [toNat_continuationByte]; omega),
    toNat_continuationByte, Nat.add_mod, Nat.mod_mod]
  simp

/-- The bytes of a character are decoded to it, whatever follows. -/
theorem decodeFrom_encodeChar_append (c : Char) (rest : Bytes) :
    decodeFrom .ready (encodeChar c ++ rest) = some c :: decodeFrom .ready rest := by
  have hvalid : c.toNat < 0xD800 ∨ 0xDFFF < c.toNat ∧ c.toNat < 0x110000 := c.valid
  have hchar : ∀ m, m = c.toNat → Char.ofNat m = c := by
    rintro m rfl
    exact Char.ofNat_toNat c
  unfold encodeChar
  simp only
  -- One case for each length: a lead byte fixes the bounds, and the bytes behind it are within
  -- them.
  split_ifs with hone htwo hthree
  · have hsmall : c.toNat < 0x100 := by omega
    have hvalue : (UInt8.ofNat c.toNat).toNat = c.toNat := UInt8.toNat_ofNat_of_lt' hsmall
    have hbegin : DecodeState.ready.step (UInt8.ofNat c.toNat) = ([some c], .ready) := by
      simp [DecodeState.step, DecodeState.begin, hvalue, hone]
    rw [List.singleton_append, decodeFrom_cons, hbegin, List.singleton_append]
  · have hlead := ofByte?_two (by omega) htwo
    simp only [List.cons_append, List.nil_append]
    rw [decodeFrom_lead (by omega) hlead, decodeFrom_continuation_zero (by omega) (by omega),
      hchar _ (by omega)]
  · rcases exists_ofByte?_three (by omega) hthree (by omega) with ⟨low, high, hlead, hlow, hhigh⟩
    simp only [List.cons_append, List.nil_append]
    rw [decodeFrom_lead (by omega) hlead, decodeFrom_continuation_succ hlow hhigh,
      decodeFrom_continuation_zero (by omega) (by omega), hchar _ (by omega)]
  · have hfour : 0x10000 ≤ c.toNat := by omega
    rcases exists_ofByte?_four hfour (by omega) with ⟨low, high, hlead, hlow, hhigh⟩
    simp only [List.cons_append, List.nil_append]
    rw [decodeFrom_lead (by omega) hlead, decodeFrom_continuation_succ hlow hhigh,
      decodeFrom_continuation_succ (by omega) (by omega),
      decodeFrom_continuation_zero (by omega) (by omega), hchar _ (by omega)]

/-- What was encoded is decoded without loss. -/
theorem decodeLossy_encode (t : Text) : decodeLossy (encode t) = t := by
  induction t with
  | nil => rfl
  | cons c t ih =>
    have hencode : encode (c :: t) = encodeChar c ++ encode t := List.flatMap_cons
    rw [decodeLossy, hencode, decodeFrom_encodeChar_append, List.map_cons, Option.getD_some]
    exact congrArg (c :: ·) ih

end Text

end ErrorCatalog
