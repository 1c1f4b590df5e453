import ErrorCatalog.Text.Basic
/-!
# Flags

The arguments behind a command are flags in any order. A flag that has a value takes it from the
same argument, behind an equals sign or directly behind its letter, or else from the next argument,
which must not begin with a hyphen unless it is one. No flag may be given twice. Nothing may follow
a double hyphen.
-/

namespace ErrorCatalog

namespace CommandLine

/-- What a command knows about one of its flags. -/
inductive Flag where
  | switch (name : Text)
  | valued (name : Text) (letter : Option Char) (mayBeEmpty : Bool)
  deriving DecidableEq, Repr

def Flag.name : Flag → Text
  | .switch name => name
  | .valued name _ _ => name

def Flag.letter? : Flag → Option Char
  | .switch _ => none
  | .valued _ letter _ => letter

inductive Refusal where
  | usage
  | help
  | version
  deriving DecidableEq, Repr

/-- Flags with their values; a switch has the empty value. -/
abbrev Values := List (Text × Text)

def Values.get? (values : Values) (name : Text) : Option Text :=
  values.lookup name

structure Reading where
  values : Values := []
  -- The flag whose value comes next.
  awaiting : Option Flag := none
  -- Whether a double hyphen has been read.
  isOver : Bool := false

namespace Reading

def give (reading : Reading) (flag : Flag) (value : Text) : Except Refusal Reading :=
  let refusesEmpty := match flag with
    | .valued _ _ mayBeEmpty => !mayBeEmpty
    | .switch _ => false
  if (Values.get? reading.values flag.name).isSome || (refusesEmpty && value.isEmpty) then
    .error .usage
  else .ok { reading with values := reading.values ++ [(flag.name, value)], awaiting := none }

/-- A flag is met, with a value in the same argument or without one. -/
def meet (reading : Reading) (flag : Flag) (value : Option Text) : Except Refusal Reading :=
  match flag, value with
  | .switch _, none => reading.give flag []
  | .switch _, some _ => .error .usage
  | .valued .., some value => reading.give flag value
  | .valued .., none => .ok { reading with awaiting := some flag }

/-- An argument behind two hyphens. -/
def long (flags : List Flag) (reading : Reading) (body : Text) : Except Refusal Reading :=
  let name := body.takeWhile (· != '=')
  let value := match body.dropWhile (· != '=') with
    | [] => none
    | _ :: value => some value
  if name = "help" && value.isNone then .error .help
  else
    match flags.find? (·.name = name) with
    | some flag => reading.meet flag value
    | none => .error .usage

/-- An argument behind one hyphen: a letter and what stands behind it. -/
def short (flags : List Flag) (reading : Reading) (letter : Char) (body : Text) :
    Except Refusal Reading :=
  let value := match body with
    | [] => none
    | '=' :: value => some value
    | value => some value
  if letter = 'h' then .error .help
  else
    match flags.find? (·.letter? = some letter) with
    | some flag => reading.meet flag value
    | none => .error .usage

def step (flags : List Flag) (reading : Reading) (argument : Text) : Except Refusal Reading :=
  if reading.isOver then .error .usage
  else
    -- A lone hyphen is a value like any other, but never a flag.
    match argument, reading.awaiting with
    | ['-', '-'], none => .ok { reading with isOver := true }
    | '-' :: '-' :: body, none => reading.long flags body
    | '-' :: letter :: body, none => reading.short flags letter body
    | '-' :: _ :: _, some _ => .error .usage
    | value, some flag => reading.give flag value
    | _, none => .error .usage

end Reading

def values (flags : List Flag) (arguments : List Text) : Except Refusal Values := do
  let reading ← arguments.foldlM (Reading.step flags) {}
  if reading.awaiting.isSome then throw .usage else pure reading.values

end CommandLine

end ErrorCatalog
