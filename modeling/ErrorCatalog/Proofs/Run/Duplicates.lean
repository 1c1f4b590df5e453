import ErrorCatalog.Proofs.Binding.Declared
import ErrorCatalog.Proofs.Run.Stages
import Mathlib.Data.Finset.Card
/-!
# Duplicates

Loading warns about each entry whose code, and about each entry whose name, occurs among the entries
before it. So there are as many warnings of either kind as there are entries beyond the distinct
codes or names. Entries that break no rule get no warning, since equal names have equal identifiers;
hence a run whose input is warned about fails, and it leaves nothing but warnings behind.
-/

namespace ErrorCatalog

/-! ## Repeated values -/

section Repeated

variable {β : Type} [DecidableEq β]

/-- The values that occur among those before them, `seen` being before all of them. -/
def repeatedAfter (seen : List β) : List β → List β
  | [] => []
  | value :: rest =>
      if value ∈ seen then value :: repeatedAfter (value :: seen) rest
      else repeatedAfter (value :: seen) rest

def repeated (values : List β) : List β :=
  repeatedAfter [] values

/-- Every value is new once and repeated all other times. -/
theorem length_repeatedAfter (seen values : List β) :
    (repeatedAfter seen values).length + (seen.toFinset ∪ values.toFinset).card
      = seen.toFinset.card + values.length := by
  induction values generalizing seen with
  | nil => simp [repeatedAfter]
  | cons value rest ih =>
    have hrest := ih (value :: seen)
    -- It does not matter whether the first value is counted with those before or behind it.
    have hunion : (value :: seen).toFinset ∪ rest.toFinset
        = seen.toFinset ∪ (value :: rest).toFinset := by
      simp [List.toFinset_cons, Finset.insert_union, Finset.union_insert]
    rw [hunion] at hrest
    unfold repeatedAfter
    split_ifs with hmem
    · have hseen : (value :: seen).toFinset = seen.toFinset := by
        simp [List.toFinset_cons, hmem]
      rw [hseen] at hrest
      simp only [List.length_cons]
      omega
    · have hseen : (value :: seen).toFinset.card = seen.toFinset.card + 1 := by
        rw [List.toFinset_cons, Finset.card_insert_of_notMem (by simpa using hmem)]
      simp only [List.length_cons]
      omega

/-- There are as many repeated values as there are values beyond the distinct ones. -/
theorem length_repeated (values : List β) :
    (repeated values).length + values.toFinset.card = values.length := by
  simpa [repeated] using length_repeatedAfter [] values

/-- Nothing is repeated if the values are new and distinct. -/
theorem repeatedAfter_eq_nil_iff (seen values : List β) :
    repeatedAfter seen values = [] ↔ (∀ value ∈ values, value ∉ seen) ∧ values.Nodup := by
  -- The values seen grow along the list, so they stay general.
  induction values generalizing seen with
  | nil => simp [repeatedAfter]
  | cons value rest ih =>
    unfold repeatedAfter
    split_ifs with hmem
    · simp [hmem]
    · rw [ih, List.forall_mem_cons, List.nodup_cons]
      constructor
      · rintro ⟨hrest, hnodup⟩
        refine ⟨⟨hmem, fun other hother => ?_⟩, fun hvalue => ?_, hnodup⟩
        · exact fun hseen => hrest other hother (List.mem_cons_of_mem value hseen)
        · exact hrest value hvalue List.mem_cons_self
      · rintro ⟨⟨-, hrest⟩, hvalue, hnodup⟩
        refine ⟨fun other hother hseen => ?_, hnodup⟩
        rcases List.mem_cons.1 hseen with rfl | hseen
        · exact hvalue hother
        · exact hrest other hother hseen

theorem repeated_eq_nil_iff (values : List β) : repeated values = [] ↔ values.Nodup := by
  simpa [repeated] using repeatedAfter_eq_nil_iff [] values

end Repeated

/-! ## Warnings -/

def Warning.code? : Warning → Option Int
  | .duplicateCode _ code => some code
  | _ => none

def Warning.name? : Warning → Option Text
  | .duplicateName _ name => some name
  | _ => none

namespace Source

variable {path : Path} {entries : List Entry}

/-- If the warnings about one entry report a field where it is repeated, then the warnings about all
entries report the repeated values of the field. -/
theorem filterMap_warningsAfter {β : Type} [DecidableEq β] {select : Warning → Option β}
    {field : Entry → β}
    (h : ∀ (earlier : List Entry) (e : Entry), (entryWarnings path earlier e).filterMap select
      = if field e ∈ earlier.map field then [field e] else [])
    (earlier entries : List Entry) :
    (warningsAfter path earlier entries).filterMap select
      = repeatedAfter (earlier.map field) (entries.map field) := by
  -- Both sides keep what came earlier, one as entries and the other as their fields.
  induction entries generalizing earlier with
  | nil => rfl
  | cons e rest ih =>
    rw [warningsAfter, List.filterMap_append, h, ih, List.map_cons, List.map_cons, repeatedAfter]
    split_ifs with hmem
    · rfl
    · rfl

/-- The warnings of an entry are decided by the codes and the names before it. -/
theorem entryWarnings_eq (path : Path) (earlier : List Entry) (e : Entry) :
    entryWarnings path earlier e
      = (if e.code ∈ earlier.map Entry.code then [.duplicateCode path e.code] else [])
        ++ if e.name ∈ earlier.map Entry.name then [.duplicateName path e.name] else [] := by
  simp [entryWarnings]

/-- The warnings about codes are the codes that are repeated, in their order. -/
theorem filterMap_code?_duplicateWarnings (path : Path) (entries : List Entry) :
    (duplicateWarnings path entries).filterMap Warning.code?
      = repeated (entries.map Entry.code) := by
  refine filterMap_warningsAfter ?_ [] entries
  intro earlier e
  rw [entryWarnings_eq]
  split_ifs <;> rfl

theorem filterMap_name?_duplicateWarnings (path : Path) (entries : List Entry) :
    (duplicateWarnings path entries).filterMap Warning.name?
      = repeated (entries.map Entry.name) := by
  refine filterMap_warningsAfter ?_ [] entries
  intro earlier e
  rw [entryWarnings_eq]
  split_ifs <;> rfl

/-- A warning about duplicates in a source. -/
inductive IsDuplicate (path : Path) : Warning → Prop where
  | code (code : Int) : IsDuplicate path (.duplicateCode path code)
  | name (name : Text) : IsDuplicate path (.duplicateName path name)

/-- There are no other warnings than these two. -/
theorem isDuplicate_of_mem_warningsAfter {earlier : List Entry} {warning : Warning}
    (h : warning ∈ warningsAfter path earlier entries) : IsDuplicate path warning := by
  induction entries generalizing earlier with
  | nil => cases h
  | cons e rest ih =>
    rw [warningsAfter, entryWarnings, List.mem_append, List.mem_append] at h
    -- A warning is about the code of the first entry, about its name, or about a later entry.
    rcases h with (hcode | hname) | hrest
    · split_ifs at hcode
      · cases List.mem_singleton.1 hcode
        exact .code e.code
      · cases hcode
    · split_ifs at hname
      · cases List.mem_singleton.1 hname
        exact .name e.name
      · cases hname
    · exact ih hrest

/-- There is no warning exactly when neither a code nor a name belongs to two entries. -/
theorem duplicateWarnings_eq_nil_iff :
    duplicateWarnings path entries = [] ↔
      (entries.map Entry.code).Nodup ∧ (entries.map Entry.name).Nodup := by
  rw [← repeated_eq_nil_iff, ← repeated_eq_nil_iff, ← filterMap_code?_duplicateWarnings path,
    ← filterMap_name?_duplicateWarnings path, List.filterMap_eq_nil_iff,
    List.filterMap_eq_nil_iff, List.eq_nil_iff_forall_not_mem]
  constructor
  · intro h
    exact ⟨fun warning hmem => absurd hmem (h warning), fun warning hmem => absurd hmem (h warning)⟩
  · rintro ⟨hcode, hname⟩ warning hmem
    -- A warning is about a code or about a name.
    cases isDuplicate_of_mem_warningsAfter hmem with
    | code code => exact Option.some_ne_none _ (hcode _ hmem)
    | name name => exact Option.some_ne_none _ (hname _ hmem)

end Source

/-! ## Warnings and rules -/

namespace Entry

/-- Entries of one name have one identifier, so in renderable entries no name occurs twice. -/
theorem AreRenderable.nodup_name {entries : List Entry} (h : AreRenderable entries) :
    (entries.map name).Nodup := by
  have hidentifier : entries.map identifier
      = (entries.map name).map fun name => identifierPrefix ++ pascalCase name := by
    rw [List.map_map]
    rfl
  exact List.Nodup.of_map _ (hidentifier ▸ h.nodup_identifier)

end Entry

namespace Source

variable {path : Path} {entries : List Entry}

/-- A list without faults has no duplicates to warn about. -/
theorem duplicateWarnings_eq_nil (h : Entry.firstFault? entries = none) :
    duplicateWarnings path entries = [] := by
  have hrenderable := Entry.firstFault?_eq_none_iff.1 h
  exact duplicateWarnings_eq_nil_iff.2 ⟨hrenderable.nodup_code, hrenderable.nodup_name⟩

/-- So any warning means a fault. -/
theorem exists_firstFault? (h : duplicateWarnings path entries ≠ []) :
    ∃ fault, Entry.firstFault? entries = some fault :=
  Option.ne_none_iff_exists'.1 fun hnone => h (duplicateWarnings_eq_nil hnone)

end Source

/-- A binding keeps one entry for each code. -/
theorem Binding.nodup_code_entries (binding : Text) :
    ((Binding.entries binding).map Entry.code).Nodup := by
  refine List.pairwise_map.2 ((Binding.ascending_entries binding).imp ?_)
  intro e other hlt
  exact Int.ne_of_lt hlt

/-! ## Runs -/

namespace Run

variable {registry : Registry} {options : Options} {workspace : Workspace}

/-- A run whose entries break a rule fails and leaves only warnings behind. -/
theorem exists_perform_runWith_eq_error {fault : RenderFault}
    (h : Entry.firstFault? (found options workspace.disk) = some fault) :
    ∃ failure given, (runWith registry options).perform workspace
      = (.error failure, { workspace with warnings := workspace.warnings ++ given }) := by
  have hrules : Stage.rules.Fails registry options workspace.disk := ⟨fault, h⟩
  rcases exists_first_fails ⟨.rules, hrules⟩ with ⟨stage, hstage, hfirst⟩
  rcases perform_runWith_of_first_fails hstage hfirst with ⟨outcome, houtcome, hperform⟩
  rw [hperform]
  cases stage with
  | target => exact ⟨_, _, by rw [houtcome]⟩
  | input =>
    rcases houtcome with ⟨unreadable, -, rfl⟩
    exact ⟨_, _, rfl⟩
  | entries =>
    -- No entries have no fault.
    have hnone : found options workspace.disk = [] := hstage
    rw [hnone] at h
    cases h
  | package => exact ⟨_, _, by rw [houtcome]⟩
  | message => exact ⟨_, _, by rw [houtcome]⟩
  | rules =>
    rcases houtcome with ⟨broken, -, rfl⟩
    exact ⟨_, _, rfl⟩

end Run

namespace Source

/-- Loading a source that can be read gives its entries and warns once for each entry beyond the
distinct codes and once for each beyond the distinct names. Where there is a warning, a rule is
broken, and every run on this source fails and leaves only warnings behind. -/
theorem load_duplicates (source : Source) (workspace : Workspace) (content : Bytes)
    (h : workspace.disk.readFile source.path = .ok content) :
    ∃ entries warnings,
      entries = source.entries (Text.decodeLossy content)
      ∧ source.load.perform workspace
        = (.ok entries, { workspace with warnings := workspace.warnings ++ warnings })
      ∧ (∀ warning ∈ warnings, IsDuplicate source.path warning)
      ∧ (warnings.filterMap Warning.code?).length + (entries.map Entry.code).toFinset.card
        = entries.length
      ∧ (warnings.filterMap Warning.name?).length + (entries.map Entry.name).toFinset.card
        = entries.length
      ∧ ((∃ path, source = .binding path) → warnings.filterMap Warning.code? = [])
      ∧ (warnings ≠ [] →
          (∃ fault, Entry.firstFault? entries = some fault)
          ∧ ∀ (registry : Registry) (options : Options), options.input = source →
              ∃ failure given, (Run.runWith registry options).perform workspace
                = (.error failure, { workspace with warnings := workspace.warnings ++ given }))
      ∧ (Entry.firstFault? entries = none → warnings = []) := by
  refine ⟨_, duplicateWarnings source.path (source.entries (Text.decodeLossy content)), rfl, ?_,
    fun warning hmem => isDuplicate_of_mem_warningsAfter hmem, ?_, ?_, ?_, ?_,
    duplicateWarnings_eq_nil⟩
  · rw [Run.perform_load, h]
  · rw [filterMap_code?_duplicateWarnings, length_repeated, List.length_map]
  · rw [filterMap_name?_duplicateWarnings, length_repeated, List.length_map]
  · rintro ⟨path, rfl⟩
    -- A binding has one entry for each code, so no code is repeated.
    rw [filterMap_code?_duplicateWarnings, repeated_eq_nil_iff]
    exact Binding.nodup_code_entries _
  · intro hwarned
    rcases exists_firstFault? hwarned with ⟨fault, hfault⟩
    refine ⟨⟨fault, hfault⟩, ?_⟩
    rintro registry options rfl
    -- The run reads the same file, so it checks the entries that were warned about.
    have hfound : Run.found options workspace.disk
        = options.input.entries (Text.decodeLossy content) := by
      simp only [Run.found, h]
    exact Run.exists_perform_runWith_eq_error (hfound ▸ hfault)

/-- A schema in which one name has two codes and one code has two names. -/
def twinSchema : Text :=
  "enum ErrorCode \x7b\n  GONE = 10;\n  GONE = 20;\n  LOST = 20;\n\x7d\n"

def twinDisk : Disk where
  objects := [(["shop"], .directory),
    (["shop", "errors.proto"], .file (Text.encode twinSchema))]
  workingDirectory := ["shop"]

/-- Options that are sound but for the schema. -/
def twinOptions : Options :=
  ⟨"example.com/shop", [], "gozero", "busy", .schema "errors.proto", "gen"⟩

theorem exists_load_of_twins :
    ∃ entries warnings,
      (Source.schema "errors.proto").load.perform { disk := twinDisk }
        = (.ok entries, { disk := twinDisk, warnings := warnings })
      ∧ entries = [.internal 10 "GONE" [], .internal 20 "GONE" [], .internal 20 "LOST" []]
      ∧ (warnings.filterMap Warning.code?).length = 1
      ∧ (warnings.filterMap Warning.name?).length = 1
      ∧ ∃ failure given, (Run.runWith .builtin twinOptions).perform { disk := twinDisk }
        = (.error failure, { disk := twinDisk, warnings := given }) := by
  have hread : twinDisk.readFile "errors.proto" = .ok (Text.encode twinSchema) := by
    decide +kernel
  have hentries : Schema.entries (Text.decodeLossy (Text.encode twinSchema))
      = [.internal 10 "GONE" [], .internal 20 "GONE" [], .internal 20 "LOST" []] := by
    decide +kernel
  rcases load_duplicates (.schema "errors.proto") { disk := twinDisk } _ hread with
    ⟨entries, warnings, hsource, hload, -, hcodes, hnames, -, hfails, -⟩
  obtain rfl := hsource.trans hentries
  -- Two of the three codes are distinct, and two of the three names.
  have hcode : (warnings.filterMap Warning.code?).length = 1 := Nat.add_right_cancel hcodes
  have hname : (warnings.filterMap Warning.name?).length = 1 := Nat.add_right_cancel hnames
  have hwarned : warnings ≠ [] := by
    rintro rfl
    cases hcode
  exact ⟨_, warnings, hload, rfl, hcode, hname, (hfails hwarned).2 .builtin twinOptions rfl⟩

end Source

end ErrorCatalog
