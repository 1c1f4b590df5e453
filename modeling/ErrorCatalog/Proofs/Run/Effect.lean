import ErrorCatalog.Proofs.Binding.Declared
import ErrorCatalog.Proofs.Run.Stages

/-!
# What a run leaves behind

A run that reports has written the files that the framework generates, one after the other, into one
directory. They have different names, so none of them disturbs another, and nothing else is changed
but that the directories were made that were missing on the way. Unless the input is one of the
files written, it still holds the same entries, and running again changes nothing.
-/

namespace ErrorCatalog

/-! ## Names of generated files -/

namespace Generated

/-- A generated file is named by the last part of its path. -/
theorem File.slash_not_mem_name (file : File) : '/' ∉ file.name := by
  intro hmem
  have hnot := Text.mem_takeEnd hmem
  simp at hnot

end Generated

namespace Framework

def fileNames : Framework → List Text
  | .plain => ["types.go", "errors_gen.go"]
  | .goZero => ["types.go", "errors_gen.go", "handler.go"]
  | .goFrame => ["types.go", "errors_gen.go", "middleware.go"]

/-- The names of the files are those of the framework, whatever the request. -/
theorem map_name_of_generate {framework : Framework} {spec : PackageSpec} {entries : List Entry}
    {files : List Generated.File} (h : framework.generate spec entries = .ok files) :
    files.map Generated.File.name = framework.fileNames := by
  rcases generate_eq_ok_iff.1 h with ⟨package, -, rfl⟩
  cases framework <;> rfl

/-- No framework writes a file twice. -/
theorem nodup_fileNames (framework : Framework) : framework.fileNames.Nodup := by
  cases framework <;> decide

end Framework

namespace Run

variable {registry : Registry} {options : Options} {workspace after : Workspace}
  {directory : Path} {file : Generated.File} {files : List Generated.File} {paths : List Path}

/-! ## Files in one directory -/

/-- Files were written into a directory, where the last of each name counts; nothing else was
changed but that directories were made on the way. -/
structure WroteFiles (directory : Path) (files : List Generated.File) (before after : Disk) :
    Prop where
  changesOnly : Disk.ChangesOnly (after.IsOnWay directory)
    (fun place => ∃ file ∈ files, after.IsIn directory file.name place) before after
  hasFile : ∀ front file rest, files = front ++ file :: rest →
    (∀ later ∈ rest, later.name ≠ file.name) →
    ∃ place, after.IsIn directory file.name place
      ∧ after.HasFile (Path.join directory file.name) place (Text.encode file.content)

/-- A file that was written stands under its name in the directory. -/
theorem exists_of_writeFile
    (h : (Action.writeFile (Path.join directory file.name)
      (Text.encode file.content)).perform workspace = (.ok (), after)) :
    after = { workspace with disk := after.disk }
      ∧ ∃ place, after.disk.IsIn directory file.name place
        ∧ after.disk.HasFile (Path.join directory file.name) place (Text.encode file.content)
        ∧ Disk.ChangesOnly (after.disk.IsOnWay directory) (fun other => other = place)
            workspace.disk after.disk := by
  rcases Action.exists_of_writeFile h with ⟨hafter, place, hfile, hchanges⟩
  have hne : file.name ≠ [] := hfile.name_ne_nil
  refine ⟨hafter, place, hfile.isIn file.slash_not_mem_name hne, hfile, ?_⟩
  refine hchanges.mono ?_ (fun _ => id)
  -- What is above a file in a directory is on the way of the directory, unless it is the root.
  intro other hnone habove
  exact habove.isOnWay file.slash_not_mem_name (Disk.ne_nil_of_objectAt_eq_none hnone)

/-- One more file in front was written and is left alone by those after it. -/
theorem WroteFiles.cons {before between after : Disk} {place : Location}
    (hplace : between.IsIn directory file.name place)
    (hfile : between.HasFile (Path.join directory file.name) place (Text.encode file.content))
    (hchanges : Disk.ChangesOnly (between.IsOnWay directory) (fun other => other = place)
      before between)
    (h : WroteFiles directory files between after) :
    WroteFiles directory (file :: files) before after := by
  have hkeeps := h.changesOnly.keeps
  have hstill : after.IsIn directory file.name place := hplace.mono hkeeps
  refine ⟨?_, ?_⟩
  · -- First this file was written, then the others.
    refine (hchanges.mono ?_ ?_).trans (h.changesOnly.mono (fun _ _ => id) ?_)
    · intro other _ hway
      exact hway.mono hkeeps
    · rintro other rfl
      exact ⟨file, List.mem_cons_self, hstill⟩
    · rintro other ⟨later, hlater, hin⟩
      exact ⟨later, List.mem_cons_of_mem file hlater, hin⟩
  · intro front other rest heq hlast
    cases front with
    | nil =>
      cases heq
      refine ⟨place, hstill, hfile.mono h.changesOnly ?_⟩
      rintro ⟨later, hlater, hin⟩
      exact hlast later hlater (hin.name_eq hstill)
    | cons first front =>
      cases heq
      exact h.hasFile front other rest rfl hlast

/-- Files that were written stand there, each with its content. The induction is on the files. -/
theorem wroteFiles_of_writeFiles
    (h : (writeFiles directory files).perform workspace = (.ok paths, after)) :
    paths = (files.map fun file => Path.join directory file.name)
      ∧ after = { workspace with disk := after.disk }
      ∧ WroteFiles directory files workspace.disk after.disk := by
  induction files generalizing workspace paths with
  | nil =>
    cases h
    exact ⟨rfl, rfl, .refl _, by simp⟩
  | cons file rest ih =>
    rcases Action.perform_bind_eq_ok_iff.1 h with ⟨_, between, hwrite, h⟩
    rcases Action.perform_bind_eq_ok_iff.1 h with ⟨others, last, hrest, h⟩
    cases h
    rcases exists_of_writeFile hwrite with ⟨hbetween, place, hplace, hfile, hchanges⟩
    -- The files after the first are written from the disk that the first has left.
    rcases ih hrest with ⟨rfl, hafter, hwrote⟩
    refine ⟨rfl, ?_, hwrote.cons hplace hfile hchanges⟩
    rw [hafter, hbetween]

/-- Writing files that stand there already changes nothing. -/
theorem perform_writeFiles_of_hasFile
    (h : ∀ file ∈ files, ∃ place, workspace.disk.HasFile (Path.join directory file.name) place
      (Text.encode file.content)) :
    (writeFiles directory files).perform workspace
      = (.ok (files.map fun file => Path.join directory file.name), workspace) := by
  induction files with
  | nil => rfl
  | cons file rest ih =>
    rcases h file List.mem_cons_self with ⟨place, hfile⟩
    have hrest := ih fun other hother => h other (List.mem_cons_of_mem file hother)
    simp only [writeFiles, Action.perform_bind, Action.perform_writeFile_of_hasFile hfile, hrest]
    rfl

/-- With different names each of the files is there. -/
theorem WroteFiles.hasFile_of_nodup {before after : Disk}
    (h : WroteFiles directory files before after) (hnodup : (files.map Generated.File.name).Nodup)
    (hmem : file ∈ files) :
    ∃ place, after.IsIn directory file.name place
      ∧ after.HasFile (Path.join directory file.name) place (Text.encode file.content) := by
  rcases List.append_of_mem hmem with ⟨front, rest, rfl⟩
  refine h.hasFile front file rest rfl ?_
  intro later hlater heq
  rw [List.map_append, List.map_cons] at hnodup
  have hnot : file.name ∉ rest.map Generated.File.name :=
    (List.nodup_cons.1 (List.nodup_append.1 hnodup).2.1).1
  exact hnot (heq ▸ List.mem_map_of_mem hlater)

/-- Different names that stand in one directory stand at one location. -/
theorem WroteFiles.exists_home {before after : Disk} (h : WroteFiles directory files before after)
    (hnodup : (files.map Generated.File.name).Nodup) (hne : files ≠ []) :
    ∃ home, after.LeadsTo directory home ∧ ∀ file ∈ files,
      after.HasFile (Path.join directory file.name) (home ++ [file.name])
        (Text.encode file.content) := by
  rcases List.exists_mem_of_ne_nil files hne with ⟨first, hfirst⟩
  rcases h.hasFile_of_nodup hnodup hfirst with ⟨-, ⟨home, hleads, -⟩, -⟩
  refine ⟨home, hleads, ?_⟩
  intro file hmem
  rcases h.hasFile_of_nodup hnodup hmem with ⟨_, ⟨another, hanother, rfl⟩, hfile⟩
  rwa [hleads.unique hanother]

/-! ## A run that reports -/

/-- A run reports files exactly if every stage passes and every file is written. -/
theorem perform_runWith_eq_ok_some_iff {outcome : Report} :
    (runWith registry options).perform workspace = (.ok (some outcome), after) ↔
      ∃ framework files paths, registry.resolve options.target = .ok framework
        ∧ (∃ content, workspace.disk.readFile options.input.path = .ok content)
        ∧ found options workspace.disk ≠ []
        ∧ framework.generate options.spec (found options workspace.disk) = .ok files
        ∧ (writeFiles options.outputDirectory files).perform (warned options workspace)
          = (.ok paths, after)
        ∧ outcome = report options workspace.disk framework paths := by
  constructor
  · intro h
    rw [perform_runWith] at h
    -- Every stage but the last has one way to go on; all others end in a failure or without a
    -- report.
    cases hresolve : registry.resolve options.target with
    | error failure => simp [hresolve] at h
    | ok framework =>
      cases hread : workspace.disk.readFile options.input.path with
      | error fault => simp [hresolve, hread] at h
      | ok content =>
        simp only [hresolve, hread] at h
        split_ifs at h with hfound
        · cases h
        · cases hgenerate : framework.generate options.spec (found options workspace.disk) with
          | error failure => simp [hgenerate] at h
          | ok files =>
            cases hwritten : (writeFiles options.outputDirectory files).perform
                (warned options workspace) with
            | mk result last =>
              simp only [hgenerate, hwritten] at h
              cases result with
              | error failure => cases h
              | ok paths =>
                cases h
                exact ⟨framework, files, paths, rfl, ⟨content, rfl⟩, hfound, hgenerate,
                  hwritten, rfl⟩
  · rintro ⟨framework, files, paths, hresolve, ⟨content, hread⟩, hfound, hgenerate, hwritten, rfl⟩
    simp only [perform_runWith, hresolve, hread, if_neg hfound, hgenerate, hwritten]

/-- Where all files are there already, a run leaves nothing but its warnings behind. -/
theorem perform_runWith_of_hasFile {framework : Framework} {content : Bytes}
    (hresolve : registry.resolve options.target = .ok framework)
    (hread : workspace.disk.readFile options.input.path = .ok content)
    (hfound : found options workspace.disk ≠ [])
    (hgenerate : framework.generate options.spec (found options workspace.disk) = .ok files)
    (hfiles : ∀ file ∈ files, ∃ place,
      workspace.disk.HasFile (Path.join options.outputDirectory file.name) place
        (Text.encode file.content)) :
    (runWith registry options).perform workspace
      = (.ok (some (report options workspace.disk framework
          (files.map fun file => Path.join options.outputDirectory file.name))),
        warned options workspace) := by
  have hwritten : (writeFiles options.outputDirectory files).perform (warned options workspace)
      = (.ok (files.map fun file => Path.join options.outputDirectory file.name),
        warned options workspace) := perform_writeFiles_of_hasFile hfiles
  exact perform_runWith_eq_ok_some_iff.2 ⟨framework, files, _, hresolve, ⟨content, hread⟩, hfound,
    hgenerate, hwritten, rfl⟩

/-- All entries of a compiled binding are internal. -/
theorem filter_public_of_binding {p : Path} (h : options.input = .binding p) (disk : Disk) :
    (found options disk).filter (fun e => e.httpStatus ≠ 0) = [] := by
  rw [List.filter_eq_nil_iff]
  intro e he
  have hbinding : ∃ text, e ∈ Binding.entries text := by
    unfold found at he
    split at he
    · next content _ => exact ⟨_, by simpa [h, Source.entries] using he⟩
    · cases he
  rcases hbinding with ⟨text, hmem⟩
  simp [(Binding.isDeclared_of_mem_entries hmem).status_eq]

/-- The public entries are those with a status. -/
theorem publicEntries_report (options : Options) (disk : Disk) (framework : Framework)
    (paths : List Path) :
    (report options disk framework paths).publicEntries
      = ((found options disk).filter fun e => e.httpStatus ≠ 0).length := by
  simp [report, Entry.isInternal]

/-- What a run that reports did: `files` is what the framework that the target selects generates
from the entries that the input held before, and `home` is where the output directory leads
afterwards. -/
structure Effect (registry : Registry) (options : Options) (before : Workspace) (outcome : Report)
    (after : Workspace) (framework : Framework) (files : List Generated.File) (home : Location) :
    Prop where
  resolve : registry.resolve options.target = .ok framework
  target : outcome.target = framework.name
  input : ∃ content, before.disk.readFile options.input.path = .ok content
  entries : outcome.entries = (found options before.disk).length
  publicEntries : outcome.publicEntries
    = ((found options before.disk).filter fun e => e.httpStatus ≠ 0).length
  publicEntries_of_binding : (∃ p, options.input = .binding p) → outcome.publicEntries = 0
  generate : framework.generate options.spec (found options before.disk) = .ok files
  names : files.map Generated.File.name = framework.fileNames
  paths : outcome.files = framework.fileNames.map (Path.join options.outputDirectory)
  leadsTo : after.disk.LeadsTo options.outputDirectory home
  content : ∀ file ∈ files, after.disk.readFile (Path.join options.outputDirectory file.name)
    = .ok (Text.encode file.content)
  place : ∀ file ∈ files, after.disk.locate (Path.join options.outputDirectory file.name)
    = .ok (home ++ [file.name])
  -- Elsewhere nothing is changed, but that directories were made where nothing stood on the way of
  -- the output directory.
  elsewhere : ∀ place, (∀ file ∈ files, place ≠ home ++ [file.name]) →
    after.disk.objectAt place = before.disk.objectAt place
    ∨ (before.disk.objectAt place = none ∧ after.disk.objectAt place = some .directory
      ∧ after.disk.IsOnWay options.outputDirectory place)
  workingDirectory : after.disk.workingDirectory = before.disk.workingDirectory
  -- What is no disk is changed by warnings about the entries only.
  workspace : after = { warned options before with disk := after.disk }

/-- A run that reports has no other effect than `Run.Effect` says. If the input is none of the files
that were written, the same run once more reports the same and leaves all but its warnings as it
is. -/
theorem runWith_effect {outcome : Report}
    (h : (runWith registry options).perform workspace = (.ok (some outcome), after)) :
    ∃ framework files home,
      Effect registry options workspace outcome after framework files home
      ∧ ((∀ file ∈ files,
            workspace.disk.locate options.input.path ≠ .ok (home ++ [file.name])) →
          (runWith registry options).perform after
            = (.ok (some outcome), { after with
                warnings := after.warnings ++ Source.duplicateWarnings options.input.path
                  (found options workspace.disk) })) := by
  rcases perform_runWith_eq_ok_some_iff.1 h with
    ⟨framework, files, paths, hresolve, ⟨content, hread⟩, hfound, hgenerate, hwritten, rfl⟩
  rcases wroteFiles_of_writeFiles hwritten with ⟨rfl, hafter, hwrote⟩
  have hnames := framework.map_name_of_generate hgenerate
  have hnodup : (files.map Generated.File.name).Nodup := hnames ▸ framework.nodup_fileNames
  -- There is at least one file, so the directory was reached and has a place.
  have hne : files ≠ [] := by
    rintro rfl
    cases framework <;> cases hnames
  -- All files stand in one place, and no later file has replaced an earlier one.
  rcases hwrote.exists_home hnodup hne with ⟨home, hleads, hfiles⟩
  have hpublic := publicEntries_report options workspace.disk framework
    (files.map fun file => Path.join options.outputDirectory file.name)
  refine ⟨framework, files, home, ?_, ?_⟩
  · refine ⟨hresolve, rfl, ⟨content, hread⟩, rfl, hpublic, ?_, hgenerate, hnames, ?_, hleads,
      fun file hmem => (hfiles file hmem).readFile, fun file hmem => (hfiles file hmem).locate, ?_,
      hwrote.changesOnly.workingDirectory, hafter⟩
    -- A binding has internal entries only.
    · rintro ⟨p, hinput⟩
      rw [hpublic, filter_public_of_binding hinput, List.length_nil]
    · rw [← hnames, List.map_map]
      rfl
    · intro place hplace
      rcases hwrote.changesOnly.objectAt place with hsame | ⟨hway, hnone, hmade⟩ | ⟨hfile, -, -⟩
      · exact .inl hsame
      · exact .inr ⟨hnone, hmade, hway⟩
      -- A file can be written in the directory only, so its place is one of those excluded.
      · rcases hfile with ⟨file, hmem, another, hanother, hin⟩
        exact absurd (hleads.unique hanother ▸ hin) (hplace file hmem)
  · intro hinput
    -- The input is none of the files written, so it reads as before, and so do its entries.
    have hagain : after.disk.readFile options.input.path = .ok content := by
      refine hwrote.changesOnly.readFile hread ?_
      rintro place ⟨file, hmem, another, hanother, rfl⟩
      exact hleads.unique hanother ▸ hinput file hmem
    have hsame : found options after.disk = found options workspace.disk := by
      simp only [found, hread, hagain]
    have hrerun := perform_runWith_of_hasFile hresolve hagain (hsame ▸ hfound)
      (hsame ▸ hgenerate) (fun file hmem => ⟨_, hfiles file hmem⟩)
    simpa only [report, warned, hsame] using hrerun

/-- A schema in a directory, and nothing else. -/
def shopDisk : Disk where
  objects := [(["shop"], .directory), (["shop", "errors.proto"], .file (Text.encode
    "enum ErrorCode \x7b\n  NOT_FOUND = 10; // gone @http=404\n  DB_DOWN = 20; // db\n\x7d\n"))]
  workingDirectory := ["shop"]

/-- Options that write to a directory which is missing together with the one above it. -/
def shopOptions : Options :=
  ⟨"example.com/shop", [], "gozero", "busy", .schema "errors.proto", "gen/api"⟩

theorem exists_effect_of_shop :
    ∃ outcome after framework files home,
      (runWith .builtin shopOptions).perform { disk := shopDisk } = (.ok (some outcome), after)
      ∧ outcome = ⟨"gozero", 2, 1,
          ["gen/api/types.go", "gen/api/errors_gen.go", "gen/api/handler.go"]⟩
      ∧ Effect .builtin shopOptions { disk := shopDisk } outcome after framework files home
      ∧ ((runWith .builtin shopOptions).perform after).2.disk = after.disk := by
  have hreport : ((runWith .builtin shopOptions).perform { disk := shopDisk }).1
      = .ok (some ⟨"gozero", 2, 1,
          ["gen/api/types.go", "gen/api/errors_gen.go", "gen/api/handler.go"]⟩) := by
    decide +kernel
  rcases hrun : (runWith .builtin shopOptions).perform { disk := shopDisk } with ⟨result, after⟩
  rw [hrun] at hreport
  subst hreport
  rcases runWith_effect hrun with ⟨framework, files, home, heffect, hagain⟩
  refine ⟨_, after, framework, files, home, rfl, rfl, heffect, ?_⟩
  rw [hagain]
  intro file hmem hinput
  have hlocate : shopDisk.locate shopOptions.input.path = .ok ["shop", "errors.proto"] := by
    decide +kernel
  -- The input stands in another directory, and under a name that no generated file has.
  have hlast := Except.ok.inj (hlocate.symm.trans hinput)
  have hname : (["shop", "errors.proto"] : Location).getLast? = some file.name := by
    rw [hlast, List.getLast?_concat]
  have hfile : file.name ∈ framework.fileNames :=
    heffect.names ▸ List.mem_map_of_mem hmem
  rw [← Option.some.inj hname] at hfile
  revert hfile
  cases framework <;> decide

end Run

end ErrorCatalog
