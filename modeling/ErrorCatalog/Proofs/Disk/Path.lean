import ErrorCatalog.Disk.Path
import ErrorCatalog.Proofs.Text.Lines
import ErrorCatalog.Proofs.Text.Scan

/-!
# Parts of paths

Unless it consists of slashes only, a path is a base, a name and slashes: the base is empty or ends
with a slash, and the name has none. Joining a name to a path makes a path with that name and
without slashes behind it.

The parent of a path is a front of the path. But for the empty path and the root it is cut off
before a slash, so that the segments of the parent are the first segments of the path.
-/

namespace ErrorCatalog

namespace Path

variable {p q base name slashes directory : Text}

/-! ## Bases -/

/-- A path that is empty or ends with a slash. -/
def IsBase (p : Path) : Prop :=
  Text.Stops (· != '/') p.reverse

theorem isBase_nil : IsBase [] :=
  Text.stops_nil

theorem isBase_append_slash (p : Path) : IsBase (p ++ ['/']) := by
  simp [IsBase]

/-- Unless it is empty, a base does end with a slash. -/
theorem IsBase.eq_nil (h : IsBase p)
    (hstops : Text.Stops (fun c => decide (c = '/')) p.reverse) : p = [] := by
  rcases List.eq_nil_or_concat' p with rfl | ⟨start, last, rfl⟩
  · rfl
  · simp [IsBase] at h hstops
    exact absurd h hstops

/-- What follows a base begins a new segment. -/
theorem IsBase.exists_pieces (h : IsBase base) :
    ∃ front, ∀ t, Text.pieces '/' (base ++ t) = front ++ Text.pieces '/' t := by
  rcases List.eq_nil_or_concat' base with rfl | ⟨start, last, rfl⟩
  · exact ⟨[], fun t => rfl⟩
  · have hlast : last = '/' := by simpa [IsBase] using h
    refine ⟨Text.pieces '/' start, ?_⟩
    intro t
    rw [hlast, List.append_assoc, List.singleton_append, Text.pieces_append_sep]

/-! ## Base, name and slashes -/

/-- A path is put together from a base, a name and slashes. -/
structure Parts (p base name slashes : Text) : Prop where
  path_eq : p = base ++ name ++ slashes
  isBase : IsBase base
  slash_not_mem : '/' ∉ name
  name_ne_nil : name ≠ []
  forall_slashes : ∀ c ∈ slashes, c = '/'

namespace Parts

theorem stops_name (h : Parts p base name slashes) :
    Text.Stops (fun c => decide (c = '/')) (base ++ name).reverse := by
  refine Text.stops_reverse_append (Text.stops_of_forall ?_) h.name_ne_nil
  intro c hc
  have hmem : c ∈ name := List.mem_reverse.1 hc
  exact decide_eq_false fun heq => h.slash_not_mem (heq ▸ hmem)

/-- Without its trailing slashes a path is its base and its name. -/
theorem trimEnd_path (h : Parts p base name slashes) :
    Text.trimEnd (· = '/') p = base ++ name := by
  rw [h.path_eq]
  refine Text.trimEnd_append_of_stops ?_ h.stops_name
  intro c hc
  exact decide_eq_true (h.forall_slashes c hc)

theorem forall_name (h : Parts p base name slashes) : ∀ c ∈ name, (c != '/') = true := by
  intro c hc
  exact bne_iff_ne.2 fun heq => h.slash_not_mem (heq ▸ hc)

/-- Behind the last slash stands the name. -/
theorem afterLast_body (h : Parts p base name slashes) :
    Text.afterLast (· = '/') (base ++ name) = name :=
  Text.takeEnd_append_of_stops h.forall_name h.isBase

/-- Up to the last slash stands the base. -/
theorem trimEnd_body (h : Parts p base name slashes) :
    Text.trimEnd (· != '/') (base ++ name) = base :=
  Text.trimEnd_append_of_stops h.forall_name h.isBase

/-- A path has one base and one name. -/
theorem unique {base' name' slashes' : Text} (h : Parts p base name slashes)
    (h' : Parts p base' name' slashes') : base = base' ∧ name = name' := by
  have hbody : base ++ name = base' ++ name' := h.trimEnd_path.symm.trans h'.trimEnd_path
  constructor
  · rw [← h.trimEnd_body, hbody, h'.trimEnd_body]
  · rw [← h.afterLast_body, hbody, h'.afterLast_body]

theorem slashes_ne_nil (h : Parts p base name slashes) (hbase : IsBase p) : slashes ≠ [] := by
  intro hslashes
  have hpath : p = base ++ name := by rw [h.path_eq, hslashes, List.append_nil]
  have hnil : base ++ name = [] := hpath ▸ hbase.eq_nil (hpath ▸ h.stops_name)
  exact h.name_ne_nil (List.append_eq_nil_iff.1 hnil).2

/-- The segments of the base but its last, the name, and an empty segment for each slash. -/
theorem exists_pieces (h : Parts p base name slashes) :
    ∃ front, Text.pieces '/' base = front ++ [[]]
      ∧ Text.pieces '/' p = front ++ name :: List.replicate slashes.length [] := by
  rcases h.isBase.exists_pieces with ⟨front, hfront⟩
  refine ⟨front, by simpa [Text.pieces] using hfront [], ?_⟩
  have hslashes : slashes = List.replicate slashes.length '/' :=
    List.eq_replicate_of_mem h.forall_slashes
  rw [h.path_eq, List.append_assoc, hfront]
  cases hcount : slashes.length with
  | zero =>
    rw [List.length_eq_zero_iff.1 hcount, List.append_nil, Text.pieces_of_not_mem h.slash_not_mem]
    rfl
  | succ count =>
    rw [hslashes, hcount, List.replicate_succ, Text.pieces_append_cons h.slash_not_mem,
      Text.pieces_replicate]

end Parts

/-- Every path but one of slashes only has a base and a name. -/
theorem exists_parts (h : Text.trimEnd (· = '/') p ≠ []) :
    ∃ base name slashes, Parts p base name slashes := by
  let body := Text.trimEnd (· = '/') p
  let base := Text.trimEnd (· != '/') body
  let name := Text.takeEnd (· != '/') body
  have hbody : base ++ name = body := Text.trimEnd_append_takeEnd _ body
  have hbase : IsBase base := Text.stops_reverse_trimEnd _ body
  refine ⟨base, name, Text.takeEnd (· = '/') p, ?_, hbase, ?_, ?_, ?_⟩
  · rw [hbody]
    exact (Text.trimEnd_append_takeEnd _ p).symm
  · intro hmem
    simpa using Text.mem_takeEnd hmem
  · -- Without a name the body would end with a slash, but it is cut off before those.
    intro hname
    have hlast : Text.Stops (fun c => decide (c = '/')) body.reverse :=
      Text.stops_reverse_trimEnd _ p
    rw [← hbody, hname, List.append_nil] at hlast
    have hempty : base ++ name = [] := by rw [hname, hbase.eq_nil hlast, List.append_nil]
    exact h (hbody.symm.trans hempty)
  · intro c hc
    simpa using Text.mem_takeEnd hc

/-! ## Joining a name -/

theorem isAbsolute_of_not_mem (h : '/' ∉ name) : isAbsolute name = false := by
  cases name with
  | nil => rfl
  | cons c name =>
    have hne : c ≠ '/' := fun heq => h (heq ▸ List.mem_cons_self)
    simp [isAbsolute, hne]

/-- A directory that ends in a slash is joined without another one. -/
theorem join_of_isBase (hbase : IsBase directory) (hname : '/' ∉ name) :
    join directory name = directory ++ name := by
  rcases List.eq_nil_or_concat' directory with rfl | ⟨start, last, rfl⟩
  · simp [join, isAbsolute_of_not_mem hname]
  · have hlast : last = '/' := by simpa [IsBase] using hbase
    simp [join, isAbsolute_of_not_mem hname, hlast]

/-- Any other directory gets a slash before the name. -/
theorem join_of_not_isBase (hbase : ¬ IsBase directory) (hname : '/' ∉ name) :
    join directory name = directory ++ '/' :: name := by
  rcases List.eq_nil_or_concat' directory with rfl | ⟨start, last, rfl⟩
  · exact absurd isBase_nil hbase
  · have hlast : last ≠ '/' := by simpa [IsBase] using hbase
    simp [join, isAbsolute_of_not_mem hname, hlast]

/-- The last part of a joined path is the name joined to it. -/
theorem parts_join (hname : '/' ∉ name) (hne : name ≠ []) :
    ∃ base, Parts (join directory name) base name []
      ∧ (base = directory ∨ base = directory ++ ['/']) := by
  by_cases hbase : IsBase directory
  · have hjoin : join directory name = directory ++ name ++ [] := by
      rw [join_of_isBase hbase hname, List.append_nil]
    exact ⟨directory, ⟨hjoin, hbase, hname, hne, by simp⟩, .inl rfl⟩
  · have hjoin : join directory name = directory ++ ['/'] ++ name ++ [] := by
      simp [join_of_not_isBase hbase hname]
    exact ⟨directory ++ ['/'], ⟨hjoin, isBase_append_slash directory, hname, hne, by simp⟩,
      .inr rfl⟩

theorem isBase_join_nil (directory : Path) : IsBase (join directory []) := by
  by_cases hbase : IsBase directory
  · rwa [join_of_isBase hbase (by simp), List.append_nil]
  · rw [join_of_not_isBase hbase (by simp)]
    exact isBase_append_slash directory

/-- But for the last of them, the segments come from the directory. -/
theorem dropLast_pieces_join (hname : '/' ∉ name) :
    (Text.pieces '/' (join directory name)).dropLast <+: Text.pieces '/' directory := by
  by_cases hbase : IsBase directory
  · rcases hbase.exists_pieces with ⟨front, hfront⟩
    have hdirectory : Text.pieces '/' directory = front ++ [[]] := by
      simpa [Text.pieces] using hfront []
    rw [join_of_isBase hbase hname, hfront, Text.pieces_of_not_mem hname, List.dropLast_concat,
      hdirectory]
    exact List.prefix_append front [[]]
  · have hpieces : (Text.pieces '/' (join directory name)).dropLast
        = Text.pieces '/' directory := by
      rw [join_of_not_isBase hbase hname, Text.pieces_append_sep, Text.pieces_of_not_mem hname,
        List.dropLast_concat]
    exact hpieces ▸ List.prefix_rfl

/-- Joining a name keeps a path absolute or relative. -/
theorem isAbsolute_join (hname : '/' ∉ name) :
    isAbsolute (join directory name) = isAbsolute directory := by
  cases directory with
  | nil =>
    have hjoin : join [] name = name := by simp [join]
    rw [hjoin]
    exact isAbsolute_of_not_mem hname
  | cons c rest =>
    unfold join
    split_ifs with habsolute hbase
    · rw [isAbsolute_of_not_mem hname] at habsolute
      cases habsolute
    · rfl
    · rfl

/-! ## Parents -/

/-- A slash stays in front only if it is the whole path. -/
theorem eq_nil_of_dropIdle_slash {rest : Text} (h : dropIdle ('/' :: rest) = '/' :: rest) :
    rest = [] := by
  cases rest with
  | nil => rfl
  | cons c rest =>
    have hlength := length_dropIdle_le (c :: rest)
    have hdropped : dropIdle (c :: rest) = '/' :: c :: rest := h
    rw [hdropped, List.length_cons] at hlength
    exact absurd hlength (Nat.not_succ_le_self _)

/-- What is dropped ends with a slash, if the rest goes on behind one. -/
theorem exists_append_dropIdle (reversed : Text) :
    ∃ idle, reversed = idle ++ dropIdle reversed
      ∧ (idle = [] ∨ dropIdle reversed = ['/'] ∨ idle.getLast? = some '/') := by
  fun_induction dropIdle reversed with
  | case1 c rest ih =>
    rcases ih with ⟨idle, heq, hidle⟩
    refine ⟨'/' :: idle, by rw [List.cons_append, ← heq], ?_⟩
    rcases hidle with rfl | hroot | hlast
    · exact .inr (.inr rfl)
    · exact .inr (.inl hroot)
    · exact .inr (.inr (by simp [List.getLast?_cons, hlast]))
  | case2 rest ih =>
    rcases ih with ⟨idle, heq, hidle⟩
    refine ⟨'.' :: idle, by rw [List.cons_append, ← heq], ?_⟩
    rcases hidle with rfl | hroot | hlast
    · -- A slash that is not dropped is the root.
      have hrest : rest = [] := eq_nil_of_dropIdle_slash heq.symm
      exact .inr (.inl (by rw [hrest]; rfl))
    · exact .inr (.inl hroot)
    · exact .inr (.inr (by simp [List.getLast?_cons, hlast]))
  | case3 => exact ⟨[], rfl, .inl rfl⟩

/-- A parent is a front part of its path, cut before a slash if it is not empty or the root. -/
theorem exists_append_of_parent? (h : parent? p = some q) :
    ∃ rest, p = q ++ rest ∧ (q = [] ∨ q = ['/'] ∨ rest.head? = some '/') := by
  rcases exists_append_dropIdle p.reverse with ⟨outer, houter, -⟩
  unfold parent? at h
  split at h
  · cases h
  · cases h
  · next c before _ hdrop =>
    let above := before.dropWhile (· != '/')
    have hq : dropIdle above = q.reverse := by
      rw [← Option.some.inj h, List.reverse_reverse]
    rcases exists_append_dropIdle above with ⟨inner, hinner, hcut⟩
    -- Read backwards, the path is the outer idle part, the last name, and what is above it.
    have hreversed : p.reverse
        = outer ++ c :: (before.takeWhile (· != '/') ++ (inner ++ q.reverse)) := by
      rw [← hq, ← hinner, List.takeWhile_append_dropWhile, ← hdrop, ← houter]
    refine ⟨inner.reverse ++ (outer ++ c :: before.takeWhile (· != '/')).reverse, ?_, ?_⟩
    · simpa using congrArg List.reverse hreversed
    · rcases hcut with rfl | hroot | hlast
      · -- Nothing was dropped, so at most a single slash is left.
        have habove : above = q.reverse := hinner.trans hq
        have hstops : Text.Stops (· != '/') above := Text.stops_dropWhile _ before
        rcases List.eq_nil_or_concat' q with rfl | ⟨start, last, rfl⟩
        · exact .inl rfl
        · rw [List.reverse_concat] at habove
          have hlast : last = '/' := by simpa [habove] using hstops
          rw [habove, List.reverse_concat, hlast] at hq
          have hstart : start.reverse = [] := eq_nil_of_dropIdle_slash hq
          rw [List.reverse_eq_nil_iff.1 hstart, hlast]
          exact .inr (.inl rfl)
      · rw [hq] at hroot
        exact .inr (.inl (by simpa using congrArg List.reverse hroot))
      · refine .inr (.inr ?_)
        simp [hlast]

/-- The parent of an absolute path is absolute, and of a relative one relative. -/
theorem isAbsolute_of_parent? (h : parent? p = some q) (hne : q ≠ []) :
    isAbsolute q = isAbsolute p := by
  rcases exists_append_of_parent? h with ⟨rest, rfl, -⟩
  cases q with
  | nil => exact absurd rfl hne
  | cons c q => rfl

/-- The parent has the first segments of the path, but not all of them; the segments of the root
all lead nowhere else. -/
theorem pieces_of_parent? (h : parent? p = some q) (hne : q ≠ []) :
    q = ['/'] ∨ ∃ others, others ≠ []
      ∧ Text.pieces '/' p = Text.pieces '/' q ++ others := by
  rcases exists_append_of_parent? h with ⟨rest, rfl, hq | hroot | hrest⟩
  · exact absurd hq hne
  · exact .inl hroot
  · cases rest with
    | nil => cases hrest
    | cons c rest =>
      have hc : c = '/' := Option.some.inj hrest
      refine .inr ⟨Text.pieces '/' rest, Text.pieces_ne_nil '/' rest, ?_⟩
      rw [hc, Text.pieces_append_sep]

end Path

end ErrorCatalog
