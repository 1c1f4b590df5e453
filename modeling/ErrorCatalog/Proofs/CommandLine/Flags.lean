import ErrorCatalog.CommandLine.Flags
/-!
# Reading with more flags

What an argument is to a reader depends on nothing but whether a flag awaits its value: it is
refused, it ends the flags, it points to a flag, or it is a value (`role`, `step_eq_act`). Which
flags there are matters only where it points to one.

So arguments that are accepted with some flags are accepted with others added to them, behind values
that those have got, if no argument can point to a flag of both kinds. When each of the added flags
has got its value already, no other arguments are accepted either.
-/

namespace ErrorCatalog

namespace CommandLine

/-! ## What an argument is -/

inductive Pointer where
  | byName (name : Text)
  | byLetter (letter : Char)

def Pointer.picks : Pointer → Flag → Bool
  | .byName name, flag => flag.name = name
  | .byLetter letter, flag => flag.letter? = some letter

inductive Role where
  | refused (refusal : Refusal)
  | ending
  | flag (pointer : Pointer) (value : Option Text)
  -- The value of the flag that awaits one.
  | value

def longRole (body : Text) : Role :=
  let name := body.takeWhile (· != '=')
  let value := match body.dropWhile (· != '=') with
    | [] => none
    | _ :: value => some value
  if name = "help" && value.isNone then .refused .help else .flag (.byName name) value

def shortRole (letter : Char) (body : Text) : Role :=
  let value := match body with
    | [] => none
    | '=' :: value => some value
    | value => some value
  if letter = 'h' then .refused .help else .flag (.byLetter letter) value

/-- What an argument is, when a flag awaits its value and when none does. -/
def role (isAwaiting : Bool) (argument : Text) : Role :=
  match argument, isAwaiting with
  | ['-', '-'], false => .ending
  | '-' :: '-' :: body, false => longRole body
  | '-' :: letter :: body, false => shortRole letter body
  | '-' :: _ :: _, true => .refused .usage
  | _, true => .value
  | _, false => .refused .usage

def Flag.Accepts : Flag → Text → Prop
  | .switch _, _ => True
  | .valued _ _ mayBeEmpty, value => mayBeEmpty = true ∨ value ≠ []

namespace Reading

/-- What a reader makes of an argument. -/
def act (flags : List Flag) (reading : Reading) (argument : Text) : Role → Except Refusal Reading
  | .refused refusal => .error refusal
  | .ending => .ok { reading with isOver := true }
  | .flag pointer value =>
      match flags.find? pointer.picks with
      | some flag => reading.meet flag value
      | none => .error .usage
  | .value =>
      match reading.awaiting with
      | some flag => reading.give flag argument
      | none => .error .usage

variable {flags : List Flag} {reading : Reading}

/-- Reading what stands behind two hyphens is acting on its role. -/
theorem long_eq_act (argument body : Text) :
    reading.long flags body = reading.act flags argument (longRole body) := by
  unfold longRole
  rw [apply_ite (reading.act flags argument)]
  rfl

/-- Reading what stands behind one hyphen is acting on its role. -/
theorem short_eq_act (argument : Text) (letter : Char) (body : Text) :
    reading.short flags letter body = reading.act flags argument (shortRole letter body) := by
  unfold shortRole
  rw [apply_ite (reading.act flags argument)]
  rfl

/-- One step of the reader is to find the role of the argument and to act on it. -/
theorem step_eq_act (h : reading.isOver = false) (argument : Text) :
    step flags reading argument
      = reading.act flags argument (role reading.awaiting.isSome argument) := by
  unfold step
  rw [h, if_neg Bool.false_ne_true]
  rcases reading with ⟨values, awaiting, isOver⟩
  -- The patterns overlap. A later case comes with the failure of the earlier ones, which is what
  -- the equations of `role` ask for.
  cases awaiting with
  | none =>
    simp only [Option.isSome_none]
    split
    · rfl
    · rw [role]
      · exact long_eq_act _ _
      · assumption
    · rw [role]
      · exact short_eq_act _ _ _
      · assumption
      · assumption
    · contradiction
    · contradiction
    · rw [role]
      · rfl
      · assumption
      · assumption
      · assumption
  | some flag =>
    simp only [Option.isSome_some]
    split
    · contradiction
    · contradiction
    · contradiction
    · rw [role]
      rfl
    · rename_i hflag
      cases hflag
      rw [role]
      · rfl
      · assumption
    · contradiction

/-- A run is accepted where its first step is, and what is left of it behind that. -/
theorem foldlM_cons_eq_ok_iff {argument : Text} {rest : List Text} {final : Reading} :
    (argument :: rest).foldlM (step flags) reading = .ok final ↔
      ∃ next, step flags reading argument = .ok next
        ∧ rest.foldlM (step flags) next = .ok final := by
  rw [List.foldlM_cons]
  cases step flags reading argument with
  | error refusal => exact ⟨nofun, nofun⟩
  | ok next => exact ⟨fun h => ⟨next, rfl, h⟩, fun ⟨_, rfl, h⟩ => h⟩

/-- Behind a double hyphen every argument is refused, since commands take flags only. -/
theorem step_of_isOver (h : reading.isOver = true) (argument : Text) :
    step flags reading argument = .error .usage := by
  unfold step
  exact if_pos h

/-! ## Behind values that are there already -/

def behind (front : Values) (reading : Reading) : Reading :=
  { reading with values := front ++ reading.values }

/-- Values put in front do not change which flag is awaited. -/
@[simp]
theorem behind_awaiting (front : Values) (reading : Reading) :
    (reading.behind front).awaiting = reading.awaiting := rfl

variable {front : Values} {flag : Flag}

/-- Giving a value commutes with values put in front, unless these have the flag already. -/
theorem give_behind (h : Values.get? front flag.name = none) (value : Text) :
    (reading.behind front).give flag value = (reading.give flag value).map (behind front) := by
  have hget : Values.get? (front ++ reading.values) flag.name
      = Values.get? reading.values flag.name := by
    rw [Values.get?, List.lookup_append]
    exact congrArg (Option.or · _) h
  unfold give
  rw [apply_ite (Except.map (behind front))]
  simp only [behind, hget, List.append_assoc]
  rfl

/-- Meeting a flag commutes with values put in front, unless these have the flag already. -/
theorem meet_behind (h : Values.get? front flag.name = none) (value : Option Text) :
    (reading.behind front).meet flag value = (reading.meet flag value).map (behind front) := by
  cases flag with
  | switch name =>
    cases value with
    | none => exact give_behind h []
    | some value => rfl
  | valued name letter mayBeEmpty =>
    cases value with
    | none => rfl
    | some value => exact give_behind h value

/-- What a flag that is not there yet gets is anything but an empty value that it refuses. -/
theorem give_eq_ok_iff {value : Text} {next : Reading} :
    reading.give flag value = .ok next ↔
      Values.get? reading.values flag.name = none ∧ flag.Accepts value
        ∧ next = { reading with
            values := reading.values ++ [(flag.name, value)], awaiting := none } := by
  unfold give
  rw [eq_comm (a := next)]
  cases hget : Values.get? reading.values flag.name with
  | some earlier => exact ⟨nofun, nofun⟩
  | none =>
    cases flag with
    | switch name => simp [Flag.Accepts]
    | valued name letter mayBeEmpty =>
      by_cases hvalue : value = []
      · cases mayBeEmpty <;> simp [Flag.Accepts, hvalue]
      · simp [Flag.Accepts, hvalue]

/-- A flag that is there already gets no other value. -/
theorem give_of_isSome (h : (Values.get? reading.values flag.name).isSome = true) (value : Text) :
    reading.give flag value = .error .usage := by
  unfold give
  rw [h]
  rfl

/-- A flag that is there already can at most be met with its value left out. -/
theorem awaiting_of_meet {value : Option Text} {next : Reading}
    (h : (Values.get? reading.values flag.name).isSome = true)
    (hmeet : reading.meet flag value = .ok next) :
    next.awaiting = some flag ∧ next.values = reading.values := by
  cases flag with
  -- A switch would be given at once, which its earlier value forbids.
  | switch name =>
    cases value with
    | none =>
      rw [meet, give_of_isSome h] at hmeet
      cases hmeet
    | some value => cases hmeet
  | valued name letter mayBeEmpty =>
    cases value with
    | none =>
      cases hmeet
      exact ⟨rfl, rfl⟩
    | some value =>
      rw [meet, give_of_isSome h] at hmeet
      cases hmeet

/-- No value comes to a flag that is there already. -/
theorem step_of_awaiting_isSome (flags : List Flag) (hawaiting : reading.awaiting = some flag)
    (h : (Values.get? reading.values flag.name).isSome = true) (argument : Text) :
    ∃ refusal, step flags reading argument = .error refusal := by
  cases hover : reading.isOver with
  | true => exact ⟨.usage, step_of_isOver hover argument⟩
  | false =>
    rw [step_eq_act hover, hawaiting, Option.isSome_some]
    -- Whatever the argument is, it is no value that the flag could still take.
    unfold role
    split
    · contradiction
    · contradiction
    · contradiction
    · exact ⟨.usage, rfl⟩
    · refine ⟨.usage, ?_⟩
      simp only [act, hawaiting, give_of_isSome h]
    · contradiction

/-! ## Flags of two kinds -/

/-- What a reading over flags holds: only they have values or await one. -/
structure IsOf (flags : List Flag) (reading : Reading) : Prop where
  awaiting : ∀ flag ∈ reading.awaiting, flag ∈ flags
  values : ∀ name, (Values.get? reading.values name).isSome → ∃ flag ∈ flags, flag.name = name

/-- Before any argument is read there are no values and nothing is awaited. -/
theorem isOf_empty (flags : List Flag) : IsOf flags {} where
  awaiting := nofun
  values := nofun

/-- Giving a value to one of the flags leaves a reading over these flags. -/
theorem IsOf.give (h : IsOf flags reading) (hflag : flag ∈ flags) {value : Text} {next : Reading}
    (hgive : reading.give flag value = .ok next) : IsOf flags next := by
  rcases give_eq_ok_iff.1 hgive with ⟨-, -, rfl⟩
  refine ⟨nofun, ?_⟩
  intro name hname
  rw [Values.get?, List.lookup_append, Option.isSome_or, Bool.or_eq_true] at hname
  -- The name was given before, or it is that of the flag given now.
  rcases hname with hname | hname
  · exact h.values name hname
  · refine ⟨flag, hflag, ?_⟩
    simp only [List.lookup_cons, List.lookup_nil] at hname
    split at hname
    · rename_i heq
      exact (beq_iff_eq.1 heq).symm
    · cases hname

/-- Meeting one of the flags leaves a reading over these flags. -/
theorem IsOf.meet (h : IsOf flags reading) (hflag : flag ∈ flags) {value : Option Text}
    {next : Reading} (hmeet : reading.meet flag value = .ok next) : IsOf flags next := by
  cases flag with
  | switch name =>
    cases value with
    | none => exact h.give hflag hmeet
    | some value => cases hmeet
  | valued name letter mayBeEmpty =>
    cases value with
    | none =>
      cases hmeet
      refine ⟨?_, h.values⟩
      rintro _ ⟨⟩
      exact hflag
    | some value => exact h.give hflag hmeet

/-- A step of the reader never brings in a flag that the command does not have. -/
theorem IsOf.step (h : IsOf flags reading) {argument : Text} {next : Reading}
    (hstep : step flags reading argument = .ok next) : IsOf flags next := by
  cases hover : reading.isOver with
  | true =>
    rw [step_of_isOver hover] at hstep
    cases hstep
  | false =>
    rw [step_eq_act hover] at hstep
    -- The argument plays one of four roles; a flag is looked up, and a value goes to the flag that
    -- awaits it.
    cases hrole : role reading.awaiting.isSome argument with
    | refused refusal =>
      rw [hrole] at hstep
      cases hstep
    | ending =>
      rw [hrole] at hstep
      cases hstep
      exact ⟨h.awaiting, h.values⟩
    | flag pointer value =>
      rw [hrole, act] at hstep
      cases hfind : flags.find? pointer.picks with
      | none =>
        rw [hfind] at hstep
        cases hstep
      | some found =>
        rw [hfind] at hstep
        exact h.meet (List.mem_of_find?_eq_some hfind) hstep
    | value =>
      rw [hrole, act] at hstep
      cases hawaiting : reading.awaiting with
      | none =>
        rw [hawaiting] at hstep
        cases hstep
      | some found =>
        rw [hawaiting] at hstep
        exact h.give (h.awaiting found hawaiting) hstep

/-- What holds of one step holds of a whole reading, by induction on the arguments. -/
theorem isOf_of_foldlM {arguments : List Text} {final : Reading} (h : IsOf flags reading)
    (hrun : arguments.foldlM (Reading.step flags) reading = .ok final) : IsOf flags final := by
  induction arguments generalizing reading with
  | nil =>
    cases hrun
    exact h
  | cons argument rest ih =>
    rcases foldlM_cons_eq_ok_iff.1 hrun with ⟨next, hstep, hrest⟩
    exact ih (h.step hstep) hrest

end Reading

/-- No argument can point to a flag of both kinds. -/
def AreApart (extra common : List Flag) : Prop :=
  ∀ e ∈ extra, ∀ c ∈ common, e.name ≠ c.name ∧ (e.letter? = none ∨ e.letter? ≠ c.letter?)

/-- An argument that points to a flag of one kind points to none of the other. -/
theorem AreApart.not_picks {extra common : List Flag} (h : AreApart extra common) {e : Flag}
    (he : e ∈ extra) {pointer : Pointer} (hpicks : pointer.picks e = true) :
    common.find? pointer.picks = none := by
  rw [List.find?_eq_none]
  intro c hc hpicksToo
  rcases h e he c hc with ⟨hname, hletter⟩
  -- A pointer goes by name or by letter, and the two lists share neither.
  cases pointer with
  | byName name =>
    simp only [Pointer.picks, decide_eq_true_eq] at hpicks hpicksToo
    exact hname (hpicks.trans hpicksToo.symm)
  | byLetter letter =>
    simp only [Pointer.picks, decide_eq_true_eq] at hpicks hpicksToo
    rcases hletter with hnone | hne
    · rw [hnone] at hpicks
      cases hpicks
    · exact hne (hpicks.trans hpicksToo.symm)

namespace Reading

variable {extra common : List Flag} {front : Values} {reading : Reading}

/-- With flags added, a step is the step without them, unless its argument points to one of them;
without them that argument is refused. -/
theorem step_append (hapart : AreApart extra common)
    (hfresh : ∀ c ∈ common, Values.get? front c.name = none) (h : IsOf common reading)
    (argument : Text) :
    step (extra ++ common) (reading.behind front) argument
        = (step common reading argument).map (behind front)
      ∨ ∃ e ∈ extra, ∃ value refusal,
        step (extra ++ common) (reading.behind front) argument
            = (reading.behind front).meet e value
          ∧ step common reading argument = .error refusal := by
  cases hover : reading.isOver with
  | true =>
    have hbehind : (reading.behind front).isOver = true := hover
    refine .inl ?_
    rw [step_of_isOver hbehind, step_of_isOver hover]
    rfl
  | false =>
    have hbehind : (reading.behind front).isOver = false := hover
    rw [step_eq_act hbehind, step_eq_act hover, behind_awaiting]
    cases role reading.awaiting.isSome argument with
    | refused refusal => exact .inl rfl
    | ending => exact .inl rfl
    -- Only a pointer can tell the two lists apart: it may pick one of the extra flags.
    | flag pointer value =>
      simp only [act, List.find?_append]
      cases hextra : extra.find? pointer.picks with
      | some e =>
        have he := List.mem_of_find?_eq_some hextra
        rw [hapart.not_picks he (List.find?_some hextra)]
        -- An extra flag is picked, which the common ones do not know.
        exact .inr ⟨e, he, value, .usage, rfl, rfl⟩
      | none =>
        refine .inl ?_
        rw [Option.none_or]
        cases hcommon : common.find? pointer.picks with
        | none => rfl
        | some c => exact meet_behind (hfresh c (List.mem_of_find?_eq_some hcommon)) value
    | value =>
      refine .inl ?_
      simp only [act, behind_awaiting]
      cases hawaiting : reading.awaiting with
      | none => rfl
      -- The flag that awaits a value is a common one, by the invariant of the reading.
      | some c => exact give_behind (hfresh c (h.awaiting c hawaiting)) argument

/-- Arguments that are accepted without the added flags are accepted with them. -/
theorem foldlM_behind (hapart : AreApart extra common)
    (hfresh : ∀ c ∈ common, Values.get? front c.name = none) {arguments : List Text}
    {final : Reading} (h : IsOf common reading)
    (hrun : arguments.foldlM (step common) reading = .ok final) :
    arguments.foldlM (step (extra ++ common)) (reading.behind front)
      = .ok (final.behind front) := by
  -- That a flag which awaits its value is a common one is kept by each step.
  induction arguments generalizing reading with
  | nil =>
    cases hrun
    rfl
  | cons argument rest ih =>
    rcases foldlM_cons_eq_ok_iff.1 hrun with ⟨next, hstep, hrest⟩
    refine foldlM_cons_eq_ok_iff.2 ⟨next.behind front, ?_, ih (h.step hstep) hrest⟩
    rcases step_append hapart hfresh h argument with hsame | ⟨_, _, _, _, _, hrefused⟩
    · rw [hsame, hstep]
      rfl
    · rw [hstep] at hrefused
      cases hrefused

/-- When each of the added flags has its value already, nothing more is accepted with them. -/
theorem exists_foldlM_of_behind (hapart : AreApart extra common)
    (hfresh : ∀ c ∈ common, Values.get? front c.name = none)
    (hgiven : ∀ e ∈ extra, (Values.get? front e.name).isSome = true) {arguments : List Text}
    {final : Reading} (h : IsOf common reading)
    (hrun : arguments.foldlM (step (extra ++ common)) (reading.behind front) = .ok final)
    (hfinal : final.awaiting = none) :
    ∃ inner, arguments.foldlM (step common) reading = .ok inner ∧ final = inner.behind front := by
  induction arguments generalizing reading with
  | nil =>
    cases hrun
    exact ⟨reading, rfl, rfl⟩
  | cons argument rest ih =>
    rcases foldlM_cons_eq_ok_iff.1 hrun with ⟨outer, houter, hrest⟩
    rcases step_append hapart hfresh h argument with hsame | ⟨e, he, value, _, hmeet, -⟩
    · rw [hsame] at houter
      cases hstep : step common reading argument with
      | error refusal =>
        rw [hstep] at houter
        cases houter
      | ok next =>
        rw [hstep] at houter
        cases houter
        rcases ih (h.step hstep) hrest with ⟨inner, hinner, rfl⟩
        exact ⟨inner, foldlM_cons_eq_ok_iff.2 ⟨next, hstep, hinner⟩, rfl⟩
    · -- An added flag is met again, so its value would have to come next, and none can.
      have hsome : (Values.get? (reading.behind front).values e.name).isSome = true := by
        rw [behind, Values.get?, List.lookup_append, Option.isSome_or]
        exact Bool.or_eq_true_iff.2 (.inl (hgiven e he))
      rw [hmeet] at houter
      rcases awaiting_of_meet hsome houter with ⟨hawaiting, hvalues⟩
      rw [← hvalues] at hsome
      cases rest with
      | nil =>
        cases hrest
        rw [hawaiting] at hfinal
        cases hfinal
      | cons second rest =>
        rcases foldlM_cons_eq_ok_iff.1 hrest with ⟨_, haccepted, -⟩
        have hnone := step_of_awaiting_isSome (extra ++ common) hawaiting hsome second
        rcases hnone with ⟨refusal, hrefused⟩
        rw [hrefused] at haccepted
        cases haccepted

end Reading

/-! ## The values of arguments -/

/-- Arguments have values when every step succeeds and no flag is left waiting in the end. -/
theorem values_eq_ok_iff {flags : List Flag} {arguments : List Text} {result : Values} :
    values flags arguments = .ok result ↔
      ∃ final, arguments.foldlM (Reading.step flags) {} = .ok final ∧ final.awaiting = none
        ∧ final.values = result := by
  unfold values
  cases arguments.foldlM (Reading.step flags) {} with
  | error refusal => exact ⟨nofun, nofun⟩
  | ok final =>
    cases hawaiting : final.awaiting with
    -- A flag that still awaits its value when the arguments end is an error.
    | some flag =>
      refine ⟨fun h => ?_, ?_⟩
      · simp only [bind, Except.bind, hawaiting] at h
        cases h
      · rintro ⟨_, ⟨⟩, hnone, -⟩
        rw [hawaiting] at hnone
        cases hnone
    | none =>
      simp only [bind, Except.bind, hawaiting]
      constructor
      · rintro ⟨⟩
        exact ⟨final, rfl, hawaiting, rfl⟩
      · rintro ⟨_, ⟨⟩, -, rfl⟩
        rfl

/-- Only flags have values. -/
theorem exists_flag_of_get? {flags : List Flag} {arguments : List Text} {result : Values}
    (h : values flags arguments = .ok result) {name : Text}
    (hname : (Values.get? result name).isSome = true) : ∃ flag ∈ flags, flag.name = name := by
  rcases values_eq_ok_iff.1 h with ⟨final, hrun, -, rfl⟩
  exact (Reading.isOf_of_foldlM (Reading.isOf_empty flags) hrun).values name hname

end CommandLine

end ErrorCatalog
