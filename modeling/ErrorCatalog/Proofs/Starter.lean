import ErrorCatalog.Proofs.Workspace
import ErrorCatalog.Starter

/-!
# Creating the starter schema

Whether something is there already is looked up first, and the directories that are missing are made
after that. So the path may lead to a file in the end that it did not lead to when it was looked up,
and this file is overwritten. It takes two dots behind a directory that was missing: where the dots
of the path are settled, every file keeps its content, whatever the outcome.
-/

namespace ErrorCatalog

namespace Starter

variable {path : Path} {workspace after : Workspace}

/-- The starter is written only where nothing is found. -/
theorem perform_create (path : Path) (workspace : Workspace) :
    (create path).perform workspace =
      if workspace.disk.exists? path then
        (.ok false, { workspace with warnings := workspace.warnings ++ [.schemaExists path] })
      else
        match (Action.writeFile path (Text.encode schema)).perform workspace with
        | (.ok (), after) => (.ok true, after)
        | (.error failure, after) => (.error failure, after) := by
  unfold create
  rw [Action.perform_bind, Action.perform_get]
  split_ifs with hexists
  · simp only [hexists, if_true, Action.perform_bind, Action.perform_warn, Action.perform_pure]
  · simp only [hexists, Bool.false_eq_true, if_false, Action.perform_bind]
    rcases (Action.writeFile path (Text.encode schema)).perform workspace with
      ⟨⟨failure⟩ | ⟨value⟩, after⟩
    · rfl
    · rfl

/-- How creating can end. -/
inductive Outcome (path : Path) (before : Workspace) : Except Failure Bool → Workspace → Prop where
  -- Something is there, and nothing is done.
  | skipped (h : before.disk.exists? path = true) :
      Outcome path before (.ok false)
        { before with warnings := before.warnings ++ [.schemaExists path] }
  -- Nothing was there, and the schema was written.
  | written {after : Workspace} (h : before.disk.exists? path = false)
      (hwrite : (Action.writeFile path (Text.encode schema)).perform before = (.ok (), after)) :
      Outcome path before (.ok true) after
  -- Nothing was there, but the schema could not be written.
  | failed {failure : Failure} {after : Workspace} (h : before.disk.exists? path = false)
      (hwrite : (Action.writeFile path (Text.encode schema)).perform before
        = (.error failure, after)) :
      Outcome path before (.error failure) after

/-- Each of the three ways to end is told by the result. -/
theorem outcome_of_create {result : Except Failure Bool}
    (h : (create path).perform workspace = (result, after)) :
    Outcome path workspace result after := by
  rw [perform_create] at h
  split_ifs at h with hexists
  · cases h
    exact .skipped hexists
  · rw [Bool.not_eq_true] at hexists
    -- Nothing was found, so the outcome is that of the write.
    cases hwrite : (Action.writeFile path (Text.encode schema)).perform workspace with
    | mk outcome between =>
      simp only [hwrite] at h
      cases outcome with
      | ok value =>
        cases h
        exact .written hexists hwrite
      | error failure =>
        cases h
        exact .failed hexists hwrite

theorem leaves_create {R : Disk → Disk → Prop} (hR : Action.CoversChanges R) (path : Path) :
    Action.Leaves R (create path) := by
  unfold create
  refine (Action.leaves_get hR).bind hR fun workspace => ?_
  split_ifs
  · exact (Action.leaves_warn hR _).bind hR fun _ => Action.leaves_pure hR false
  · exact (Action.leaves_writeFile hR _ _).bind hR fun _ => Action.leaves_pure hR true

theorem keepsTrees_create (path : Path) : Action.KeepsTrees (create path) :=
  leaves_create Action.coversChanges_isTree path

/-- What was written is the schema. -/
theorem readFile_of_create (h : (create path).perform workspace = (.ok true, after)) :
    after.disk.readFile path = .ok (Text.encode schema) := by
  cases outcome_of_create h with
  | written hexists hwrite =>
    rcases Action.exists_of_writeFile hwrite with ⟨-, place, hwritten, -⟩
    exact hwritten.readFile

/-! ## Files that were there -/

/-- A file loses its content only if the path leads to it in the end, with dots that were not
settled. -/
theorem file_of_writeFile {place : Location} {content : Bytes}
    (htree : workspace.disk.IsTree) (hexists : workspace.disk.exists? path = false)
    (hwrite : (Action.writeFile path (Text.encode schema)).perform workspace = (.ok (), after))
    (hfile : workspace.disk.objectAt place = some (.file content)) :
    after.disk.objectAt place = some (.file content)
      ∨ (after.disk.locate path = .ok place ∧ ¬ workspace.disk.DotsSettled path) := by
  rcases Action.exists_of_writeFile hwrite with ⟨-, written, hwritten, hchanges⟩
  by_cases heq : place = written
  · subst heq
    refine .inr ⟨hwritten.locate, ?_⟩
    intro hdots
    -- With settled dots the path would have led to the file at once.
    have hpresent : workspace.disk.objectAt place ≠ none := by simp [hfile]
    have hbefore := hchanges.locate_of_present htree hdots hpresent hwritten.locate
    have htrue : workspace.disk.exists? path = true :=
      Disk.exists?_iff.2 ⟨place, hbefore, hpresent⟩
    rw [htrue] at hexists
    cases hexists
  · exact .inl (hchanges.file heq hfile)

/-- In a tree, creating reports that it skipped exactly when the path leads to something, and then
it only warns. If it reports that it wrote, the path led to nothing before and leads to the schema
now. A file keeps its content unless the path, with dots that were not settled, leads to it in the
end. -/
theorem create_keeps_files (path : Path) (workspace : Workspace) (htree : workspace.disk.IsTree) :
    ∃ result after, (create path).perform workspace = (result, after)
      ∧ (result = .ok false ↔ workspace.disk.exists? path = true)
      ∧ (result = .ok false →
          after = { workspace with warnings := workspace.warnings ++ [.schemaExists path] })
      ∧ (result ≠ .ok false → after = { workspace with disk := after.disk })
      ∧ (result = .ok true → after.disk.readFile path = .ok (Text.encode schema))
      ∧ (∀ place content, workspace.disk.objectAt place = some (.file content) →
          after.disk.objectAt place = some (.file content)
            ∨ (result = .ok true ∧ after.disk.locate path = .ok place
                ∧ ¬ workspace.disk.DotsSettled path))
      ∧ after.disk.IsTree := by
  rcases hperform : (create path).perform workspace with ⟨result, after⟩
  have hstill := keepsTrees_create path hperform htree
  refine ⟨result, after, rfl, ?_⟩
  -- The three ways to end are those of `Outcome`; only the second can change a file.
  cases outcome_of_create hperform with
  | skipped hexists =>
    exact ⟨by simp [hexists], fun _ => rfl, fun h => absurd rfl h, nofun,
      fun place content hfile => .inl hfile, hstill⟩
  | written hexists hwrite =>
    rcases Action.exists_of_writeFile hwrite with ⟨hafter, -⟩
    refine ⟨by simp [hexists], nofun, fun _ => hafter, fun _ => readFile_of_create hperform, ?_,
      hstill⟩
    intro place content hfile
    exact (file_of_writeFile htree hexists hwrite hfile).imp_right fun h => ⟨rfl, h⟩
  | failed hexists hwrite =>
    rcases Action.exists_of_writeFile_error hwrite with ⟨hafter, hchanges⟩
    refine ⟨by simp [hexists], nofun, fun _ => hafter, nofun, ?_, hstill⟩
    intro place content hfile
    -- A write that fails has made directories at most.
    exact .inl (hchanges.file id hfile)

/-- A directory with a schema that someone has edited. -/
def editedDisk : Disk where
  objects := [(["shop"], .directory), (["shop", "error.proto"], .file (Text.encode "edited\n"))]
  workingDirectory := ["shop"]

/-- Two dots behind a directory that is there, and a missing directory behind these. -/
theorem exists_create_of_settled_dots :
    editedDisk.IsTree
    ∧ ∃ after, (create "../shop/docs/error.proto").perform { disk := editedDisk } = (.ok true, after)
      ∧ after.disk.readFile "../shop/docs/error.proto" = .ok (Text.encode schema)
      ∧ after.disk.objectAt ["shop", "error.proto"] = some (.file (Text.encode "edited\n")) := by
  have htree : editedDisk.IsTree := by decide +kernel
  have hresult : ((create "../shop/docs/error.proto").perform { disk := editedDisk }).1
      = .ok true := by
    decide +kernel
  -- The front up to the second segment leads to a directory, and no dots come behind it.
  have hdots : editedDisk.DotsSettled "../shop/docs/error.proto" :=
    ⟨["..", "shop"], ["docs", "error.proto"], ["shop"], by decide +kernel, by decide +kernel,
      by decide +kernel⟩
  have hfile : editedDisk.objectAt ["shop", "error.proto"]
      = some (.file (Text.encode "edited\n")) := by
    decide +kernel
  rcases create_keeps_files "../shop/docs/error.proto" { disk := editedDisk } htree with
    ⟨result, after, hperform, -, -, -, hread, hfiles, -⟩
  have hsame : result = .ok true := by rw [← hresult, hperform]
  refine ⟨htree, after, hsame ▸ hperform, hread hsame, ?_⟩
  exact (hfiles _ _ hfile).resolve_right fun h => h.2.2 hdots

/-- Two dots behind a missing directory lead to the edited schema once the directory is made. -/
theorem create_overwrites_edited :
    editedDisk.IsTree
    ∧ ((create "docs/../error.proto").perform { disk := editedDisk }).1 = .ok true
    ∧ editedDisk.readFile "error.proto" = .ok (Text.encode "edited\n")
    ∧ ((create "docs/../error.proto").perform { disk := editedDisk }).2.disk.readFile "error.proto"
        = .ok (Text.encode schema)
    ∧ ¬ ∀ (path : Path) (workspace : Workspace), workspace.disk.IsTree →
        ∀ place content, workspace.disk.objectAt place = some (.file content) →
          ((create path).perform workspace).2.disk.objectAt place = some (.file content) := by
  have htree : editedDisk.IsTree := by decide +kernel
  rcases hperform : (create "docs/../error.proto").perform { disk := editedDisk } with
    ⟨result, after⟩
  have hresult : result = .ok true := by
    have hcreated : ((create "docs/../error.proto").perform { disk := editedDisk }).1
        = .ok true := by
      decide +kernel
    rwa [hperform] at hcreated
  -- Now that the missing directory is there, the dots lead back out of it.
  have hlocate : after.disk.locate "docs/../error.proto" = after.disk.locate "error.proto" := by
    have hsame : ((create "docs/../error.proto").perform { disk := editedDisk }).2.disk.locate
          "docs/../error.proto"
        = ((create "docs/../error.proto").perform { disk := editedDisk }).2.disk.locate
          "error.proto" := by
      decide +kernel
    rwa [hperform] at hsame
  have hread : after.disk.readFile "error.proto" = .ok (Text.encode schema) := by
    have hcreated := readFile_of_create (hresult ▸ hperform)
    simpa only [Disk.readFile, Disk.find, hlocate] using hcreated
  refine ⟨htree, hresult, by decide +kernel, hread, ?_⟩
  intro h
  have hkept := h "docs/../error.proto" { disk := editedDisk } htree ["shop", "error.proto"]
    (Text.encode "edited\n") (by decide +kernel)
  revert hkept
  decide +kernel

end Starter

end ErrorCatalog
