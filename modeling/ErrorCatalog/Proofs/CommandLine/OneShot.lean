import ErrorCatalog.Proofs.CommandLine.Command
import ErrorCatalog.Proofs.CommandLine.Printing
/-!
# One shot and two steps

The one-shot command compiles a schema and generates a package from it. It ends as its two steps do
in turn, where the second is taken only behind success of the first: with the same text on both
outputs, the same status and the same files. What the project file says about the input makes no
difference, for the path that is compiled is the schema that is read. When compiling fails nothing
is generated.
-/

namespace ErrorCatalog

namespace CommandLine

/-! ## In turn -/

/-- Two sessions, the second only behind success of the first: what users get to see of both, and
the workspace that is left. -/
def inTurn (first second : Workspace → Outcome × Workspace) (workspace : Workspace) :
    Outcome × Workspace :=
  match first workspace with
  | (earlier, between) =>
    if earlier.status = 0 then
      match second between with
      | (later, after) =>
        (⟨earlier.output ++ later.output, earlier.errors ++ later.errors, later.status⟩, after)
    else (earlier, between)

/-- Two sessions end alike: users get to see the same, and the same files and warnings are left. -/
structure EndAlike (one other : Outcome × Workspace) : Prop where
  outcome : one.1 = other.1
  disk : one.2.disk = other.2.disk
  warnings : one.2.warnings = other.2.warnings
  compiler : one.2.compiler = other.2.compiler

section

variable {whole first second : Command}

/-- Where the first part of a command fails, the whole command ends as that part. -/
theorem perform_eq_of_status_ne_zero
    (hwhole : whole.action = first.action >>= fun _ => second.action) {workspace : Workspace}
    (h : (perform first workspace).1.status ≠ 0) :
    perform whole workspace = perform first workspace := by
  revert h
  unfold perform
  rw [hwhole, Action.perform_bind]
  rcases first.action.perform { workspace with printed := [] } with ⟨⟨failure⟩ | ⟨⟩, after⟩
  · exact fun _ => rfl
  · exact fun h => absurd rfl h

/-- A command that does what two others do ends as they do in turn, if what the first of them
printed is nothing to the second. -/
theorem endAlike_perform_inTurn
    (hwhole : whole.action = first.action >>= fun _ => second.action)
    (hblind : second.action.IsPrintBlind) (workspace : Workspace) :
    EndAlike (perform whole workspace) (inTurn (perform first) (perform second) workspace) := by
  unfold inTurn perform
  rw [hwhole, Action.perform_bind]
  rcases first.action.perform { workspace with printed := [] } with ⟨⟨failure⟩ | ⟨⟩, between⟩
  · exact ⟨rfl, rfl, rfl, rfl⟩
  · -- The second action starts behind the texts of the first one, or behind none.
    have hsecond := hblind between.printed { between with printed := [] }
    have hbetween : Workspace.behind between.printed { between with printed := [] } = between := by
      unfold Workspace.behind
      rw [List.append_nil]
    rw [hbetween] at hsecond
    simp only [hsecond, if_true]
    rcases second.action.perform { between with printed := [] } with ⟨⟨failure⟩ | ⟨⟩, after⟩
    · exact ⟨by simp [Workspace.behind], rfl, rfl, rfl⟩
    · exact ⟨by simp [Workspace.behind], rfl, rfl, rfl⟩

end

/-! ## Compiling -/

/-- What a disk is after compiling a schema: the one before, or what the schema compiler makes of
that when it is told to write beside the schema. -/
def IsCompiled (path : Path) (workspace : Workspace) (disk : Disk) : Prop :=
  disk = workspace.disk ∨ ∃ compiler place, workspace.compiler = some compiler
    ∧ workspace.disk.canonical path = .ok place
    ∧ disk = compiler.effect (SchemaCompiler.arguments (Disk.absolutePath place.dropLast)
        (Disk.absolutePath place)) workspace.disk

/-- Compiling leaves the disk alone or applies the compiler to it, whether it succeeds or fails. -/
theorem isCompiled_of_compile (path : Path) (workspace : Workspace) :
    IsCompiled path workspace ((SchemaCompiler.compile path).perform workspace).2.disk := by
  unfold SchemaCompiler.compile
  simp only [Action.perform_bind, Action.perform_get]
  cases hplace : workspace.disk.canonical path with
  | error fault => exact .inl rfl
  | ok place =>
    simp only
    split
    · exact .inl rfl
    · cases hcompiler : workspace.compiler with
      | none => exact .inl rfl
      | some compiler =>
        refine .inr ⟨compiler, place, hcompiler, hplace, ?_⟩
        simp only [Action.perform_bind, Action.perform_setDisk]
        split
        · rfl
        · rfl

/-- The command that compiles prints besides, which is nothing to the disk. -/
theorem isCompiled_of_build (path : Path) (workspace : Workspace) :
    IsCompiled path workspace (perform (.build path) workspace).2.disk := by
  have hcompile := isCompiled_of_compile path
    { workspace with printed := ["🚀 Compiling " ++ path ++ "..."] }
  revert hcompile
  simp only [perform, Command.action, compileSchema, Action.perform_bind, Action.perform_print,
    List.nil_append]
  rcases (SchemaCompiler.compile path).perform _ with ⟨⟨failure⟩ | ⟨directory⟩, after⟩
  · exact id
  · exact id

/-! ## The input of the second step -/

/-- A path that is given as the schema is the input, whatever the project file says. -/
theorem input_of_resolve {projectFile : Option Path} {given : Settings} {path : Path}
    {options : Options} {before after : Workspace}
    (h : (resolve projectFile { given with proto := some path, pbfile := none }).perform before
      = (.ok options, after)) :
    options.input = .schema (Path.join here path) := by
  rw [resolve_eq_bind] at h
  rcases Action.perform_bind_eq_ok_iff.1 h with ⟨lower, between, -, hrest⟩
  simp only [optionsOver, Action.perform_bind, Action.perform_get] at hrest
  split at hrest
  · rename_i found hfound
    cases hrest
    unfold Settings.options at hfound
    split at hfound
    · cases hfound
    · cases hfound
      rfl
  · cases hrest

/-! ## The one-shot command -/

/-- Where arguments are a command, a session performs it. -/
theorem session_of_ofArguments {arguments : List Text} {command : Command}
    (h : Command.ofArguments arguments = .ok command) : session arguments = perform command := by
  funext workspace
  simp only [session, h]

/-- Compiling and generating in one command is the one action and then the other. -/
theorem action_auto (path : Path) (projectFile : Option Path) (given : Settings) :
    (Command.auto path projectFile given).action
      = (Command.build path).action >>= fun _ =>
          (Command.generate projectFile
            { given with proto := some path, pbfile := none }).action := rfl

/-- The one-shot command ends as compiling does and, where that succeeds, generating behind it, with
the path that was compiled for its schema and the same flags. Where compiling fails it ends as that,
and no file is there but those that were there or that the schema compiler made. Whatever the
project file says, the schema is the input of the second step. -/
theorem session_auto_eq_inTurn {path : Path} {flags : List Text} {command : Command}
    (h : Command.ofArguments ("auto" :: "-p" :: path :: flags) = .ok command)
    (workspace : Workspace) :
    EndAlike (session ("auto" :: "-p" :: path :: flags) workspace)
        (inTurn (session ["build", "-p", path]) (session ("gen" :: "--proto" :: path :: flags))
          workspace)
      ∧ ((session ["build", "-p", path] workspace).1.status ≠ 0 →
          session ("auto" :: "-p" :: path :: flags) workspace
              = session ["build", "-p", path] workspace
            ∧ IsCompiled path workspace
                (session ("auto" :: "-p" :: path :: flags) workspace).2.disk)
      ∧ ∃ projectFile chosen,
          Command.ofArguments ("gen" :: "--proto" :: path :: flags)
              = .ok (.generate projectFile chosen)
            ∧ ∀ options before after,
                (resolve projectFile chosen).perform before = (.ok options, after) →
                options.input = .schema (Path.join here path) := by
  rcases Command.ofArguments_auto_eq_ok_iff.1 h with ⟨hpath, given, hgiven, rfl⟩
  have hgen := Command.ofArguments_gen hpath hgiven
  have haction := action_auto path (Values.get? given "config") (Values.settings given)
  rw [session_of_ofArguments h, session_of_ofArguments (Command.ofArguments_build hpath),
    session_of_ofArguments hgen]
  refine ⟨?_, ?_, _, _, hgen, ?_⟩
  · refine endAlike_perform_inTurn haction ?_ workspace
    exact isPrintBlind_generatePackage _ _
  · intro hstatus
    rw [perform_eq_of_status_ne_zero haction hstatus]
    exact ⟨rfl, isCompiled_of_build path workspace⟩
  · intro options before after hresolve
    exact input_of_resolve hresolve

/-- A directory with a schema, a compiled binding, and a project file that selects the binding. -/
def staleDisk : Disk where
  objects := [(["shop"], .directory),
    (["shop", "errors.proto"], .file (Text.encode
      "enum ErrorCode \x7b\n  NOT_FOUND = 10; // gone @http=404\n\x7d\n")),
    (["shop", "generrorx.yaml"], .file (Text.encode "pbfile: old.pb.go\n")),
    (["shop", "old.pb.go"], .file [])]
  workingDirectory := ["shop"]

def idleCompiler : Compiler where
  status := 0
  effect _ disk := disk

/-- The project file selects the binding, but in both ways of working the schema is read. -/
theorem exists_session_auto_of_stale :
    ∃ command, Command.ofArguments ["auto", "-p", "errors.proto", "-m", "shop"] = .ok command
      ∧ EndAlike
          (session ["auto", "-p", "errors.proto", "-m", "shop"]
            { disk := staleDisk, compiler := some idleCompiler })
          (inTurn (session ["build", "-p", "errors.proto"])
            (session ["gen", "--proto", "errors.proto", "-m", "shop"])
            { disk := staleDisk, compiler := some idleCompiler })
      ∧ (session ["auto", "-p", "errors.proto", "-m", "shop"]
          { disk := staleDisk, compiler := some idleCompiler }).1.status = 0 := by
  refine ⟨_, rfl, ?_, ?_⟩
  · exact (session_auto_eq_inTurn rfl { disk := staleDisk, compiler := some idleCompiler }).1
  · decide +kernel

end CommandLine

end ErrorCatalog
