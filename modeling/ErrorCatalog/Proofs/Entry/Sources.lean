import ErrorCatalog.Proofs.Binding.Declared
import ErrorCatalog.Proofs.Schema.Declared
/-!
# What entries can be

Both sources of entries keep to one model, whatever text they read. The entries of a schema have
ascending codes and are internal or public; those of a compiled binding have strictly ascending
codes and are internal, with a name and nothing else to say.
-/

namespace ErrorCatalog

/-- Every list of entries read from a text satisfies the model of entries. -/
theorem entries_isDeclared (text : Text) :
    (Schema.entries text).Pairwise (fun e other => e.code ≤ other.code)
    ∧ (∀ e ∈ Schema.entries text, Schema.IsDeclared e)
    ∧ (Binding.entries text).Pairwise (fun e other => e.code < other.code)
    ∧ ∀ e ∈ Binding.entries text, Binding.IsDeclared e := by
  refine ⟨?_, ?_, Binding.ascending_entries text, ?_⟩
  · exact (Entry.isStableSort_sortByCode _).ascending
  · intro e he
    exact Schema.isDeclared_of_mem_entries he
  · intro e he
    exact Binding.isDeclared_of_mem_entries he

/-- A text that is a schema with an internal and a public entry, and a compiled binding behind it.
-/
theorem exists_isDeclared_of_two_sources :
    ∃ text : Text,
      text = Text.unlines ["enum ErrorCode \x7b", " A = 7; // down", " B = 7; // no @http=404", "\x7d",
        " 7: \"A\", 3: \"B\""]
      ∧ Schema.entries text = [.internal 7 "A" "down", .withStatus 7 "B" 404 "no"]
      ∧ Binding.entries text = [.internal 3 "B" [], .internal 7 "A" []]
      ∧ Schema.IsDeclared (.internal 7 "A" "down")
      ∧ Schema.IsDeclared (.withStatus 7 "B" 404 "no")
      ∧ Binding.IsDeclared (.internal 3 "B" [])
      ∧ Binding.IsDeclared (.internal 7 "A" []) := by
  -- One text serves both parsers, and no code has the same entry in both.
  let text : Text := Text.unlines ["enum ErrorCode \x7b", " A = 7; // down",
    " B = 7; // no @http=404", "\x7d", " 7: \"A\", 3: \"B\""]
  have hschema : Schema.entries text
      = [.internal 7 "A" "down", .withStatus 7 "B" 404 "no"] := by
    decide +kernel
  have hbinding : Binding.entries text = [.internal 3 "B" [], .internal 7 "A" []] := by
    decide +kernel
  rcases entries_isDeclared text with ⟨-, hdeclared, -, hrows⟩
  rw [hschema] at hdeclared
  rw [hbinding] at hrows
  exact ⟨text, rfl, hschema, hbinding, hdeclared _ (by simp), hdeclared _ (by simp),
    hrows _ (by simp), hrows _ (by simp)⟩

end ErrorCatalog
