/-!
# Text

Everything this library reads and writes is a sequence of Unicode characters. Written output is put
together from string literals, which coerce to `Text`, so a statement about output is a statement
about a list.

* `Text.pieces` cuts at a separator and keeps every piece, also the empty ones.
* `Text.lines` is the line structure: a line feed ends a line, one carriage return directly before
  it belongs to the line end, and what stands after the last line feed is a line of its own unless
  it is empty.
* `Text.unlines` ends every line with a line feed.
* `Text.cutLast?` cuts a text around the last occurrence of a token.
-/

namespace ErrorCatalog

abbrev Text := List Char

/-- A string literal denotes its sequence of characters. -/
instance : Coe String Text := ⟨String.toList⟩

namespace Text

/-! ## Pieces -/

/-- The pieces of a text between the occurrences of `sep`: one more piece than there are
separators. -/
def pieces (sep : Char) : Text → List Text
  | [] => [[]]
  | c :: rest =>
      match pieces sep rest with
      | [] => [[c]]
      | piece :: others => if c = sep then [] :: piece :: others else (c :: piece) :: others

/-- The parts put one after the other with `sep` between neighbours. -/
def joinWith (sep : Text) : List Text → Text
  | [] => []
  | [part] => part
  | part :: others => part ++ sep ++ joinWith sep others

/-! ## Lines -/

/-- A line without the carriage return that ends it, if one does. -/
def dropCarriageReturn (line : Text) : Text :=
  match line.reverse with
  | '\r' :: rest => rest.reverse
  | _ => line

/-- The lines of a text. Only a line that a line feed ends loses a final carriage return. -/
def lines (t : Text) : List Text :=
  let all := pieces '\n' t
  all.dropLast.map dropCarriageReturn ++ (all.getLast?.toList.filter fun last => !last.isEmpty)

def unlines (ls : List Text) : Text :=
  ls.flatMap fun line => line ++ ['\n']

/-! ## Ends and trimming -/

/-- The characters at the end of a text that satisfy `p`. -/
def takeEnd (p : Char → Bool) (t : Text) : Text :=
  (t.reverse.takeWhile p).reverse

/-- The text without the characters at its end that satisfy `p`. -/
def trimEnd (p : Char → Bool) (t : Text) : Text :=
  (t.reverse.dropWhile p).reverse

/-- The part of a text after the last character that satisfies `p`: all of it when there is none. -/
def afterLast (p : Char → Bool) (t : Text) : Text :=
  takeEnd (fun c => !p c) t

/-- The text without the characters satisfying `p` at either end. -/
def trim (p : Char → Bool) (t : Text) : Text :=
  trimEnd p (t.dropWhile p)

/-! ## Fixed parts -/

/-- What follows `token` in `t`, when `t` starts with it. -/
def after? : (token t : Text) → Option Text
  | [], t => some t
  | _ :: _, [] => none
  | c :: token, d :: t => if c = d then after? token t else none

/-- What stands before and behind the last occurrence of `token`, when it occurs. -/
def cutLast? (token : Text) : (t : Text) → Option (Text × Text)
  | [] => (after? token []).map fun behind => ([], behind)
  | c :: rest =>
    match cutLast? token rest with
    | some (before, behind) => some (c :: before, behind)
    | none => (after? token (c :: rest)).map fun behind => ([], behind)

/-- The text is put on the left of a field of `width` characters; a longer text takes its own
room. -/
def padRight (width : Nat) (t : Text) : Text :=
  t ++ List.replicate (width - t.length) ' '

/-! ## First facts -/

/-- Cutting yields at least one piece. -/
theorem pieces_ne_nil (sep : Char) (t : Text) : pieces sep t ≠ [] := by
  cases t with
  | nil => simp [pieces]
  | cons c rest =>
    unfold pieces
    split
    · simp
    · split <;> simp

/-- What `after?` leaves is the text behind the token. -/
theorem after?_eq_some_iff {token t rest : Text} :
    after? token t = some rest ↔ t = token ++ rest := by
  induction token generalizing t with
  | nil => simp [after?, eq_comm]
  | cons c token ih =>
    cases t with
    | nil => simp [after?]
    | cons d t =>
      by_cases h : c = d
      · simp [after?, h, ih]
      · simp [after?, h, Ne.symm h]

@[simp]
theorem unlines_nil : unlines [] = [] := rfl

@[simp]
theorem unlines_cons (line : Text) (ls : List Text) :
    unlines (line :: ls) = line ++ '\n' :: unlines ls := by
  simp [unlines]

@[simp]
theorem unlines_append (ls ms : List Text) : unlines (ls ++ ms) = unlines ls ++ unlines ms := by
  simp [unlines]

end Text

end ErrorCatalog
