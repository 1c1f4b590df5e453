import ErrorCatalog.CommandLine.Command
import ErrorCatalog.Proofs.CommandLine.Flags
/-!
# The one-shot command and its two steps

The arguments of the one-shot command are a path and flags for generating. They are accepted
exactly when the path can be the value of a flag and the flags are accepted alone, and then the
path and the flags are accepted by the two steps as well: the path by the command that compiles, and
both by the command that generates, which takes the path for its schema.
-/

namespace ErrorCatalog

namespace CommandLine

/-! ## One flag with its value in front -/

/-- What can be the value of a path flag: a value to a reader, and not empty. -/
def IsPathValue (value : Text) : Prop :=
  role true value = .value ∧ value ≠ []

/-- A path flag takes the next argument as its value, if that can be one. -/
theorem step_of_awaiting_path {flags : List Flag} {name value : Text} {letter : Option Char}
    {next : Reading} :
    Reading.step flags { awaiting := some (.valued name letter false) } value = .ok next ↔
      IsPathValue value ∧ next = ({} : Reading).behind [(name, value)] := by
  rw [Reading.step_eq_act rfl]
  unfold IsPathValue
  simp only [Option.isSome_some]
  unfold role
  -- Only the role of a value is left: a mark or an end would be refused where a value is awaited.
  split
  · contradiction
  · contradiction
  · contradiction
  · exact ⟨nofun, nofun⟩
  · refine Reading.give_eq_ok_iff.trans ⟨?_, ?_⟩
    · rintro ⟨-, haccepts, rfl⟩
      exact ⟨⟨rfl, haccepts.resolve_left Bool.false_ne_true⟩, rfl⟩
    · rintro ⟨⟨-, hvalue⟩, rfl⟩
      exact ⟨rfl, .inr hvalue, rfl⟩
  · contradiction

section

variable {extra common : List Flag} {name mark path : Text} {letter : Option Char}
  {flags : List Text} {result : Values}

/-- The first of two arguments is a mark that makes a path flag await its value. -/
def Announces (known : List Flag) (mark name : Text) (letter : Option Char) : Prop :=
  Reading.step known {} mark = .ok { awaiting := some (.valued name letter false) }

/-- A path flag that comes first is read before all others, whatever these are. -/
theorem foldlM_of_announces {final : Reading} (h : Announces (extra ++ common) mark name letter) :
    (mark :: path :: flags).foldlM (Reading.step (extra ++ common)) {} = .ok final ↔
      IsPathValue path ∧ flags.foldlM (Reading.step (extra ++ common))
        (({} : Reading).behind [(name, path)]) = .ok final := by
  constructor
  · intro hrun
    rcases Reading.foldlM_cons_eq_ok_iff.1 hrun with ⟨first, hfirst, hrest⟩
    -- The mark announces the flag, so the path is read as its value.
    cases h.symm.trans hfirst
    rcases Reading.foldlM_cons_eq_ok_iff.1 hrest with ⟨second, hsecond, hlast⟩
    rcases step_of_awaiting_path.1 hsecond with ⟨hpath, rfl⟩
    exact ⟨hpath, hlast⟩
  · rintro ⟨hpath, hlast⟩
    have hsecond : Reading.step (extra ++ common) { awaiting := some (.valued name letter false) }
        path = .ok (({} : Reading).behind [(name, path)]) :=
      step_of_awaiting_path.2 ⟨hpath, rfl⟩
    exact Reading.foldlM_cons_eq_ok_iff.2
      ⟨_, h, Reading.foldlM_cons_eq_ok_iff.2 ⟨_, hsecond, hlast⟩⟩

/-- The value of the first flag is not found under the name of another. -/
theorem get?_front_eq_none (hfresh : ∀ c ∈ common, c.name ≠ name) (path : Text) :
    ∀ c ∈ common, Values.get? [(name, path)] c.name = none := by
  intro c hc
  have hne : (c.name == name) = false := beq_eq_false_iff_ne.2 (hfresh c hc)
  rw [Values.get?, List.lookup_cons, hne]
  rfl

/-- A path in front of accepted flags is accepted with them. -/
theorem values_of_announces (h : Announces (extra ++ common) mark name letter)
    (hapart : AreApart extra common) (hfresh : ∀ c ∈ common, c.name ≠ name)
    (hpath : IsPathValue path) (hflags : values common flags = .ok result) :
    values (extra ++ common) (mark :: path :: flags) = .ok ((name, path) :: result) := by
  rcases values_eq_ok_iff.1 hflags with ⟨final, hrun, hawaiting, rfl⟩
  have hbehind := Reading.foldlM_behind hapart (get?_front_eq_none hfresh path)
    (Reading.isOf_empty common) hrun
  exact values_eq_ok_iff.2 ⟨_, (foldlM_of_announces h).2 ⟨hpath, hbehind⟩, hawaiting, rfl⟩

/-- Where the path flag is the only one added, nothing else is accepted behind a path. -/
theorem exists_values_of_announces
    (h : Announces ([.valued name letter false] ++ common) mark name letter)
    (hapart : AreApart [.valued name letter false] common) (hfresh : ∀ c ∈ common, c.name ≠ name)
    (hvalues : values ([.valued name letter false] ++ common) (mark :: path :: flags)
      = .ok result) :
    IsPathValue path ∧ ∃ given, values common flags = .ok given
      ∧ result = (name, path) :: given := by
  rcases values_eq_ok_iff.1 hvalues with ⟨final, hrun, hawaiting, rfl⟩
  rcases (foldlM_of_announces h).1 hrun with ⟨hpath, hlast⟩
  -- A flag has one value, so the rest cannot give it again and is read without it.
  have hgiven : ∀ e ∈ [Flag.valued name letter false],
      (Values.get? [(name, path)] e.name).isSome = true := by
    intro e he
    rcases List.mem_singleton.1 he with rfl
    rw [Values.get?, Flag.name, List.lookup_cons_self]
    rfl
  rcases Reading.exists_foldlM_of_behind hapart (get?_front_eq_none hfresh path) hgiven
    (Reading.isOf_empty common) hlast hawaiting with ⟨inner, hinner, rfl⟩
  exact ⟨hpath, inner.values, values_eq_ok_iff.2 ⟨inner, hinner, hawaiting, rfl⟩, rfl⟩

end

/-! ## The commands -/

namespace Command

variable {path : Path} {flags : List Text} {given : Values}

/-- The letter `-p` makes the path flag await its value. -/
theorem announces_path (common : List Flag) :
    Announces ([pathFlag] ++ common) "-p" "path" (some 'p') := rfl

/-- The flag `--proto` awaits its value, too. -/
theorem announces_proto (common : List Flag) :
    Announces (inputFlags ++ common) "--proto" "proto" none := rfl

/-- No argument can point to the path flag and to one of the flags for generation. -/
theorem areApart_path : AreApart [pathFlag] generationFlags := by
  unfold AreApart
  decide

/-- No argument can point to an input flag and to one of the flags for generation. -/
theorem areApart_input : AreApart inputFlags generationFlags := by
  unfold AreApart
  decide

/-- The flags for generating select no input. -/
theorem get?_pbfile_eq_none (h : values generationFlags flags = .ok given) :
    Values.get? given "pbfile" = none := by
  rw [← Option.not_isSome_iff_eq_none]
  intro hsome
  rcases exists_flag_of_get? h hsome with ⟨flag, hflag, hname⟩
  have hnone : ∀ flag ∈ generationFlags, flag.name ≠ "pbfile" := by decide
  exact hnone flag hflag hname

/-- The one-shot command is accepted where its path is a value and its flags are accepted alone. -/
theorem ofArguments_auto_eq_ok_iff {command : Command} :
    ofArguments ("auto" :: "-p" :: path :: flags) = .ok command ↔
      IsPathValue path ∧ ∃ given, values generationFlags flags = .ok given
        ∧ command = .auto path (Values.get? given "config") (Values.settings given) := by
  have hread : ofArguments ("auto" :: "-p" :: path :: flags)
      = (values ([pathFlag] ++ generationFlags) ("-p" :: path :: flags)).map fun values =>
          .auto (Values.path values) (Values.get? values "config") (Values.settings values) := rfl
  have hfresh : ∀ c ∈ generationFlags, c.name ≠ "path" := by decide
  rw [hread]
  constructor
  · intro hcommand
    cases hvalues : values ([pathFlag] ++ generationFlags) ("-p" :: path :: flags) with
    | error refusal =>
      rw [hvalues] at hcommand
      cases hcommand
    | ok result =>
      rw [hvalues] at hcommand
      cases hcommand
      rcases exists_values_of_announces (announces_path generationFlags) areApart_path hfresh
        hvalues with ⟨hpath, given, hgiven, rfl⟩
      exact ⟨hpath, given, hgiven, rfl⟩
  · rintro ⟨hpath, given, hgiven, rfl⟩
    rw [values_of_announces (announces_path generationFlags) areApart_path hfresh hpath hgiven]
    rfl

/-- The command that compiles accepts such a path. -/
theorem ofArguments_build (h : IsPathValue path) :
    ofArguments ["build", "-p", path] = .ok (.build path) := by
  have hread : ofArguments ["build", "-p", path]
      = (values ([pathFlag] ++ []) ["-p", path]).map fun values => .build (Values.path values) :=
    rfl
  have hapart : AreApart [pathFlag] [] := fun _ _ => nofun
  have hfresh : ∀ c ∈ ([] : List Flag), c.name ≠ "path" := fun _ => nofun
  rw [hread, values_of_announces (announces_path []) hapart hfresh h rfl]
  rfl

/-- The command that generates accepts such a path for its schema, with the same flags. -/
theorem ofArguments_gen (h : IsPathValue path) (hflags : values generationFlags flags = .ok given) :
    ofArguments ("gen" :: "--proto" :: path :: flags)
      = .ok (.generate (Values.get? given "config")
          { Values.settings given with proto := some path, pbfile := none }) := by
  have hread : ofArguments ("gen" :: "--proto" :: path :: flags)
      = (consistentValues (inputFlags ++ generationFlags) ("--proto" :: path :: flags)).map
          fun values => .generate (Values.get? values "config") (Values.settings values) := rfl
  have hfresh : ∀ c ∈ generationFlags, c.name ≠ "proto" := by decide
  have hgiven := get?_pbfile_eq_none hflags
  -- The path of the schema does not answer for the other input.
  have hpbfile : Values.get? (("proto", path) :: given) "pbfile" = none := hgiven
  have hvalues := values_of_announces (announces_proto generationFlags) areApart_input hfresh h
    hflags
  have hconsistent : consistentValues (inputFlags ++ generationFlags) ("--proto" :: path :: flags)
      = .ok (("proto", path) :: given) := by
    unfold consistentValues
    rw [hvalues]
    simp only [bind, Except.bind, Values.isContradictory, hpbfile]
    rfl
  rw [hread, hconsistent]
  simp only [Except.map, Values.settings, hpbfile]
  rfl

end Command

end CommandLine

end ErrorCatalog
