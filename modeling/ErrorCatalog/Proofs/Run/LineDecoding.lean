import ErrorCatalog.Proofs.Run.Stages
import ErrorCatalog.Proofs.Text.Utf8
/-!
# Sources are decoded line by line

What a source is read from is the text of its file with every line decoded on its own. Ill-formed
bytes are replaced within the line that holds them: a character that a line breaks off does not take
the line feed along, and nothing of it is left for the next line.
-/

namespace ErrorCatalog

namespace Source

open Text (byteLines decodeByLine decodeLossy pieces)

/-- Decoding a file is decoding its lines one by one, and the lines of the text are the decoded
lines of the file. Other bytes in the place of one line change the text at this line only. The
entries of a source and the warnings about it are those of this text, and well-formed bytes are the
text that they encode. -/
theorem load_decodeByLine (source : Source) (content : Bytes) (workspace : Workspace) :
    decodeLossy content = decodeByLine content
    ∧ pieces '\n' (decodeLossy content) = (byteLines content).map decodeLossy
    ∧ (∀ (i : Nat) (other : Bytes), 0x0A ∉ other →
        pieces '\n' (decodeLossy ([0x0A].intercalate ((byteLines content).set i other)))
          = (pieces '\n' (decodeLossy content)).set i (decodeLossy other))
    ∧ (source.load.perform workspace =
        match workspace.disk.readFile source.path with
        | .error fault => (.error (.disk source.path fault), workspace)
        | .ok content =>
          let entries := source.entries (decodeByLine content)
          (.ok entries, { workspace with
            warnings := workspace.warnings ++ duplicateWarnings source.path entries }))
    ∧ ∀ t : Text, decodeLossy (Text.encode t) = t := by
  refine ⟨Text.decodeLossy_eq_decodeByLine content, Text.pieces_decodeLossy content, ?_, ?_,
    Text.decodeLossy_encode⟩
  · intro i other hother
    exact Text.pieces_decodeLossy_set hother content i
  · rw [Run.perform_load]
    cases workspace.disk.readFile source.path with
    | error fault => rfl
    | ok content => simp only [Text.decodeLossy_eq_decodeByLine]

/-- The first line breaks off in a character and the second begins with a stray byte. A byte that
begins no character and the beginning of one, in the place of the second line, leave the others as
they were. -/
theorem exists_pieces_of_broken_lines :
    0x0A ∉ ([0xFF, 0xC3] : Bytes)
    ∧ pieces '\n' (decodeLossy [0x41, 0xE4, 0xB8, 0x0A, 0x80, 0x42, 0x0A, 0xF0, 0x9F])
      = ["A\uFFFD", "\uFFFDB", "\uFFFD"]
    ∧ pieces '\n' (decodeLossy [0x41, 0xE4, 0xB8, 0x0A, 0xFF, 0xC3, 0x0A, 0xF0, 0x9F])
      = ["A\uFFFD", "\uFFFD\uFFFD", "\uFFFD"] := by
  have hother : 0x0A ∉ ([0xFF, 0xC3] : Bytes) := by decide
  rcases load_decodeByLine (.schema []) [0x41, 0xE4, 0xB8, 0x0A, 0x80, 0x42, 0x0A, 0xF0, 0x9F]
    ⟨⟨[], []⟩, none, [], []⟩ with ⟨-, hlines, hset, -⟩
  have hdecoded : (byteLines [0x41, 0xE4, 0xB8, 0x0A, 0x80, 0x42, 0x0A, 0xF0, 0x9F]).map decodeLossy
      = ["A\uFFFD", "\uFFFDB", "\uFFFD"] := by
    decide
  refine ⟨hother, hlines.trans hdecoded, ?_⟩
  have hreplaced := hset 1 [0xFF, 0xC3] hother
  rw [hlines, hdecoded] at hreplaced
  exact hreplaced

end Source

end ErrorCatalog
