import FlowLint.Proofs.Check.Gate
import FlowLint.Proofs.Command.Printing
import FlowLint.Proofs.File.Batch
import FlowLint.Proofs.File.Loading
import FlowLint.Proofs.File.Paths
import FlowLint.Proofs.Pool.Parallel

/-!
# Exit codes

The exit code of a validation is to tell what was found: two when the settings are refused, zero
when every file is loaded and has no error, and one otherwise. It does so when a document is
printed. When rows are printed, a file whose path cannot be shown makes the exit code one as well.

* **`Describes`**: what the result of a file says, and how an explanation of the file ends.
* **`reported_exitCode_iff`**: the exit code of a report is zero when all files pass.
* **`Reflects.unique`**: what the exit code tells leaves no choice of it, so that order, repetition
  and workers do not matter.
* **`validate_reflects`**: what the exit code of a validation tells.
-/

namespace FlowLint.Command

open Console

/-! ## What is reported -/

/-- **When results make the exit code zero**: every file is valid, and its blocks can be printed
when they are asked for. -/
theorem reported_exitCode_eq_zero_iff {json : Bool} {results : List FileResult} :
    (reported json (.ok results)).exitCode = 0
      ↔ ∀ result ∈ results, result.ok = true ∧ (json = true
        ∨ ∀ block ∈ resultBlocks result, ∀ text ∈ block.texts, Readable text) := by
  have hcode : resultsCode results = 0 ↔ ∀ result ∈ results, result.ok = true := by
    rw [resultsCode, ← List.all_eq_true]
    split
    · next hall => exact iff_of_true rfl hall
    · next hall => exact iff_of_false Nat.one_ne_zero hall
  cases json with
  | true =>
    have hreported : (reported true (.ok results)).exitCode = resultsCode results := rfl
    rw [hreported, hcode]
    exact forall₂_congr fun result _ => (and_iff_left (.inl rfl)).symm
  | false =>
    have hreported : (reported false (.ok results)).exitCode
        = (printing (resultsCode results) (results.flatMap resultBlocks)).exitCode := rfl
    rw [hreported, printing_exitCode_eq_zero_iff, hcode, List.forall_mem_flatMap, ← forall₂_and]
    exact forall₂_congr fun result _ =>
      and_congr_right fun _ => (or_iff_right Bool.false_ne_true).symm

/-- The exit code of a report is zero or one. -/
theorem reported_exitCode_le (json : Bool) (checked : Except Interruption (List FileResult)) :
    (reported json checked).exitCode ≤ 1 := by
  have hcode : ∀ results, resultsCode results ≤ 1 := by
    intro results
    unfold resultsCode
    split <;> decide
  unfold reported
  split
  · exact Nat.le_refl 1
  · split
    · exact hcode _
    · exact printing_exitCode_le (hcode _) _

/-! ## Files -/

/-- A file passes under settings: it is loaded, and no error is found in it. -/
def Passes (system : FileSystem) (settings : Settings) (text : String) : Prop :=
  ∃ g ds, Workflow.load system (.ofText text) = .ok g ∧ Check.graph g settings = .ok ds
    ∧ ∀ d ∈ ds, d.severity ≠ .error

/-- The path of a file that is loaded can be shown where it is printed. -/
def Shows (system : FileSystem) (text : String) : Prop :=
  ∀ g, Workflow.load system (.ofText text) = .ok g → ShowsPath g.isChecked (Path.ofText text).text

/-- What the result of a file says. -/
structure Describes (system : FileSystem) (settings : Settings) (text : String)
    (result : FileResult) : Prop where
  path_eq : result.path = (Path.ofText text).text
  ok_iff : result.ok = true ↔ Passes system settings text
  readable_iff : result.ok = true →
    ((∀ block ∈ resultBlocks result, ∀ text ∈ block.texts, Readable text) ↔ Shows system text)
  explain_iff : (explain system (.ofText text)).exitCode = 1 ↔ result.report? = none

section Files

variable {system : FileSystem} {settings : Settings}

/-- A file that is not loaded is not loaded for an explanation either. -/
theorem describes_failure {text : String} {failure : LoadFailure}
    (hload : Workflow.load system (.ofText text) = .error (.failure failure)) :
    Describes system settings text ⟨(Path.ofText text).text, .error failure⟩ where
  path_eq := rfl
  ok_iff := by
    refine iff_of_false Bool.false_ne_true ?_
    rintro ⟨g, ds, hg, -⟩
    rw [hload] at hg
    exact nomatch hg
  readable_iff := nofun
  explain_iff := by
    rw [explain, hload]
    exact iff_of_true (printing_exitCode_one _) rfl

/-- The report of a file that is loaded is that of its run. -/
theorem describes_report {text : String} {g : Graph} {ds : List Diagnostic}
    (hload : Workflow.load system (.ofText text) = .ok g) (hrun : Check.graph g settings = .ok ds) :
    Describes system settings text ⟨(Path.ofText text).text, .ok ⟨ds, g.isChecked⟩⟩ where
  path_eq := rfl
  ok_iff := by
    refine (Report.valid_iff_forall ⟨ds, g.isChecked⟩).trans ⟨fun h => ⟨g, ds, hload, hrun, h⟩, ?_⟩
    rintro ⟨g', ds', hload', hrun', hnone⟩
    rw [hload] at hload'
    cases hload'
    rw [hrun] at hrun'
    cases hrun'
    exact hnone
  readable_iff := by
    intro _
    rw [resultBlocks_readable_iff]
    refine ⟨fun h g' hload' => ?_, fun h => h g hload⟩
    rw [hload] at hload'
    cases hload'
    exact h
  explain_iff := by
    rw [explain, hload]
    exact iff_of_false Nat.zero_ne_one (Option.some_ne_none _)

/-- A file whose loading and whose run raise nothing else has a result. -/
theorem exists_result {text : String}
    (hloads : ∀ cause, Workflow.load system (.ofText text) ≠ .error (.file cause))
    (hruns : ∀ g, Workflow.load system (.ofText text) = .ok g →
      ∃ ds, Check.graph g settings = .ok ds) :
    ∃ result, Workflow.checkFile system settings (Path.ofText text).text = .ok result
      ∧ Describes system settings text result := by
  cases hload : Workflow.load system (.ofText text) with
  | error fault =>
    cases fault with
    | failure failure =>
      refine ⟨_, ?_, describes_failure hload⟩
      rw [Workflow.checkFile, Path.ofText_text, hload]
    | file cause => exact absurd hload (hloads cause)
  | ok g =>
    obtain ⟨ds, hrun⟩ := hruns g hload
    have hreport : Report.of g settings = .ok ⟨ds, g.isChecked⟩ := by
      rw [Report.of_eq_map, hrun]
      rfl
    refine ⟨_, ?_, describes_report hload hrun⟩
    rw [Workflow.checkFile, Path.ofText_text, hload]
    dsimp only
    rw [hreport]

/-- Such files have a result each. -/
theorem exists_results {texts : List String}
    (hloads : ∀ text ∈ texts, ∀ cause, Workflow.load system (.ofText text) ≠ .error (.file cause))
    (hruns : ∀ text ∈ texts, ∀ g, Workflow.load system (.ofText text) = .ok g →
      ∃ ds, Check.graph g settings = .ok ds) :
    ∃ results, Workflow.checkFiles system settings ((texts.map Path.ofText).map (·.text))
        = .ok results
      ∧ List.Forall₂ (Describes system settings) texts results := by
  induction texts with
  | nil => exact ⟨[], rfl, .nil⟩
  | cons text rest ih =>
    obtain ⟨hload, hloads⟩ := List.forall_mem_cons.1 hloads
    obtain ⟨hrun, hruns⟩ := List.forall_mem_cons.1 hruns
    obtain ⟨result, hresult, hdescribes⟩ := exists_result hload hrun
    obtain ⟨results, hresults, hall⟩ := ih hloads hruns
    refine ⟨result :: results, ?_, .cons hdescribes hall⟩
    rw [List.map_cons, List.map_cons, Workflow.checkFiles, hresult, hresults]
    rfl

/-- **The exit code of a report tells whether all files pass.** -/
theorem reported_exitCode_iff {json : Bool} {texts : List String} {results : List FileResult}
    (h : List.Forall₂ (Describes system settings) texts results) :
    (reported json (.ok results)).exitCode = 0
      ↔ ∀ text ∈ texts, Passes system settings text ∧ (json = true ∨ Shows system text) := by
  have heach : ∀ text result, Describes system settings text result →
      (result.ok = true ∧ (json = true
          ∨ ∀ block ∈ resultBlocks result, ∀ text ∈ block.texts, Readable text)
        ↔ Passes system settings text ∧ (json = true ∨ Shows system text)) := by
    intro text result hdescribes
    rw [← hdescribes.ok_iff]
    exact and_congr_right fun hok => or_congr_right (hdescribes.readable_iff hok)
  rw [reported_exitCode_eq_zero_iff]
  constructor
  · intro hall text htext
    obtain ⟨result, hresult, hdescribes⟩ := Outcome.exists_of_mem_left h htext
    exact (heach text result hdescribes).1 (hall result hresult)
  · intro hall result hresult
    obtain ⟨text, htext, hdescribes⟩ := Outcome.exists_of_mem_right h hresult
    exact (heach text result hdescribes).2 (hall text htext)

end Files

/-! ## What the exit code tells -/

/-- What the exit code of a validation tells: two that the settings are refused, zero that they are
loaded and every file passes, and one that neither is so. Without a document to print, the paths of
the files have to be shown as well. -/
structure Reflects (system : FileSystem) (config : Option Path) (texts : List String) (json : Bool)
    (code : Nat) : Prop where
  refused : code = 2 ↔ ∃ failure, Settings.load system config = .error (.failure failure)
  passed : code = 0 ↔ ∃ settings, Settings.load system config = .ok settings
    ∧ ∀ text ∈ texts, Passes system settings text ∧ (json = true ∨ Shows system text)
  le_two : code ≤ 2

/-- There is one exit code for files that are the same up to order and repetition, and for both ways
to print when the paths can be shown. -/
theorem Reflects.unique {system : FileSystem} {config : Option Path} {texts texts' : List String}
    {json json' : Bool} {code code' : Nat} (h : Reflects system config texts json code)
    (h' : Reflects system config texts' json' code') (htexts : ∀ text, text ∈ texts ↔ text ∈ texts')
    (hjson : json = json' ∨ ∀ text ∈ texts, Shows system text) : code = code' := by
  have hzero : code = 0 ↔ code' = 0 := by
    rw [h.passed, h'.passed]
    refine exists_congr fun settings => and_congr_right fun _ => ?_
    simp only [← htexts]
    refine forall₂_congr fun text htext => and_congr_right fun _ => ?_
    rcases hjson with rfl | hshows
    · exact .rfl
    · exact iff_of_true (.inr (hshows text htext)) (.inr (hshows text htext))
  have htwo : code = 2 ↔ code' = 2 := h.refused.trans h'.refused.symm
  have hle := h.le_two
  have hle' := h'.le_two
  omega

section Validation

variable {system : FileSystem} {config : Option Path}

theorem validate_of_settings {settings : Settings} (h : Settings.load system config = .ok settings)
    (texts : List String) (json : Bool) :
    validate system (texts.map .ofText) json config
      = reported json
          (Workflow.checkFiles system settings ((texts.map Path.ofText).map (·.text))) := by
  rw [validate, h]
  rfl

/-- The exit code of a validation tells what was found. -/
theorem reflects_validate {texts : List String}
    (hloads : ∀ text ∈ texts, ∀ cause, Workflow.load system (.ofText text) ≠ .error (.file cause))
    (hruns : ∀ settings, Settings.load system config = .ok settings → ∀ text ∈ texts, ∀ g,
      Workflow.load system (.ofText text) = .ok g → ∃ ds, Check.graph g settings = .ok ds)
    (json : Bool) :
    Reflects system config texts json
      (validate system (texts.map .ofText) json config).exitCode := by
  cases hsettings : Settings.load system config with
  | error fault =>
    have hnone : ∀ settings, Settings.load system config ≠ .ok settings := by
      intro settings hok
      rw [hsettings] at hok
      exact nomatch hok
    cases fault with
    | failure failure =>
      have hcode : (validate system (texts.map .ofText) json config).exitCode = 2 := by
        rw [validate, hsettings]
      rw [hcode]
      exact ⟨iff_of_true rfl ⟨failure, hsettings⟩,
        iff_of_false (by decide) (fun ⟨settings, hok, _⟩ => hnone settings hok), Nat.le_refl 2⟩
    | _ =>
      have hcode : (validate system (texts.map .ofText) json config).exitCode = 1 := by
        rw [validate, hsettings]
      rw [hcode]
      refine ⟨iff_of_false (by decide) ?_,
        iff_of_false Nat.one_ne_zero (fun ⟨settings, hok, _⟩ => hnone settings hok), by decide⟩
      rintro ⟨failure, hfailure⟩
      rw [hsettings] at hfailure
      exact nomatch hfailure
  | ok settings =>
    obtain ⟨results, hresults, hall⟩ := exists_results hloads (hruns settings hsettings)
    rw [validate_of_settings hsettings, hresults]
    have hle := reported_exitCode_le json (.ok results)
    refine ⟨iff_of_false (by omega) ?_, ?_, by omega⟩
    · rintro ⟨failure, hfailure⟩
      rw [hsettings] at hfailure
      exact nomatch hfailure
    · rw [reported_exitCode_iff hall]
      constructor
      · intro hpass
        exact ⟨settings, hsettings, hpass⟩
      · rintro ⟨settings', hsettings', hpass⟩
        rw [hsettings] at hsettings'
        cases hsettings'
        exact hpass

end Validation

/-- What a validation reads can be told from its files: loading them raises nothing but failures,
and no half of a surrogate pair is escaped in them or in the settings. -/
structure Legible (system : FileSystem) (config : Option Path) (texts : List String) : Prop where
  loads : ∀ text ∈ texts, ∀ cause, Workflow.load system (.ofText text) ≠ .error (.file cause)
  whole : ∀ text ∈ texts, Workflow.isWhole system (.ofText text) = true
  config_whole : ∀ path, config = some path → Settings.isWhole system path = true

/-- **What the exit code of a validation tells.** When the files are legible and their runs raise
nothing, it is two when the settings are refused, and then nothing is reported; zero when the
settings are loaded, every file is loaded and has no error, and the paths can be shown or a document
is printed; and one otherwise. Neither the workers nor the order and the repetition of the files
change it, and how it is printed does not when the paths can be shown, as paths without opening
brackets can. An explanation ends with one on the files that are reported as not loaded. -/
theorem validate_reflects (system : FileSystem) (config : Option Path) (texts : List String)
    (hlegible : Legible system config texts)
    (hruns : ∀ settings, Settings.load system config = .ok settings → ∀ text ∈ texts, ∀ g,
      Workflow.load system (.ofText text) = .ok g → ∃ ds, Check.graph g settings = .ok ds) :
    (∀ json, Reflects system config texts json
        (validate system (texts.map .ofText) json config).exitCode)
    ∧ (∀ json, (validate system (texts.map .ofText) json config).exitCode = 2 →
        (validate system (texts.map .ofText) json config).output = .nothing)
    ∧ (∀ json workers settings checked, Settings.load system config = .ok settings →
        Workflow.Gives system settings ((texts.map Path.ofText).map (·.text)) workers checked →
        reported json checked = validate system (texts.map .ofText) json config)
    ∧ (∀ json (texts' : List String), (∀ text, text ∈ texts' ↔ text ∈ texts) →
        (validate system (texts'.map .ofText) json config).exitCode
          = (validate system (texts.map .ofText) json config).exitCode)
    ∧ ((∀ text ∈ texts, Shows system text) →
        (validate system (texts.map .ofText) true config).exitCode
          = (validate system (texts.map .ofText) false config).exitCode)
    ∧ (∀ text, '[' ∉ (Path.ofText text).text.toList → Shows system text)
    ∧ ∀ settings, Settings.load system config = .ok settings → ∃ results,
        (validate system (texts.map .ofText) true config).output = .results results
        ∧ List.Forall₂ (fun text result => result.path = (Path.ofText text).text
            ∧ ((explain system (.ofText text)).exitCode = 1 ↔ result.report? = none))
          texts results := by
  have hloads := hlegible.loads
  have hreflects := reflects_validate hloads hruns
  refine ⟨hreflects, ?_, ?_, ?_, ?_, fun text htext g _ => showsPath_plain htext _, ?_⟩
  · intro json hcode
    obtain ⟨failure, hfailure⟩ := (hreflects json).refused.1 hcode
    rw [validate, hfailure]
  · intro json workers settings checked hsettings hgives
    rw [validate_of_settings hsettings, Workflow.gives_iff.1 hgives]
  · intro json texts' htexts
    have hreflects' : Reflects system config texts' json
        (validate system (texts'.map .ofText) json config).exitCode :=
      reflects_validate (fun text htext => hloads text ((htexts text).1 htext))
        (fun settings hsettings text htext => hruns settings hsettings text ((htexts text).1 htext))
        json
    exact hreflects'.unique (hreflects json) htexts (.inl rfl)
  · intro hshows
    exact (hreflects true).unique (hreflects false) (fun _ => .rfl) (.inr hshows)
  · intro settings hsettings
    obtain ⟨results, hresults, hall⟩ := exists_results hloads (hruns settings hsettings)
    refine ⟨results, ?_, hall.imp fun text result h => ⟨h.path_eq, h.explain_iff⟩⟩
    rw [validate_of_settings hsettings, hresults]
    rfl

/-- A directory with a workflow of an agent without a model, one without nodes, and another one
without nodes in a directory that is named by an opening bracket. -/
def bracketFiles : FileTree :=
  [(["agent.json"], .file ("\x7b\"nodes\": [\x7b\"id\": \"1\", \"name\": \"Agent\", "
      ++ "\"type\": \"@n8n/n8n-nodes-langchain.agent\"\x7d]\x7d").toUTF8.toList),
    (["good.json"], .file "\x7b\"nodes\": []\x7d".toUTF8.toList),
    (["[", "].json"], .file "\x7b\"nodes\": []\x7d".toUTF8.toList)]

namespace bracketFiles

/-- Its files, and one that is not there. -/
def names : List String :=
  ["agent.json", "good.json", "gone.json", "[/].json"]

/-- All of them have a result. -/
theorem isOk_checkFile : ∀ text ∈ names,
    (Workflow.checkFile bracketFiles.system .defaults (Path.ofText text).text).isOk = true := by
  decide +kernel

theorem exists_checkFile {text : String} (h : text ∈ names) :
    ∃ result, Workflow.checkFile bracketFiles.system .defaults (Path.ofText text).text
      = .ok result := by
  have hok := isOk_checkFile text h
  cases hcheck : Workflow.checkFile bracketFiles.system .defaults (Path.ofText text).text with
  | ok result => exact ⟨result, rfl⟩
  | error cause =>
    rw [hcheck] at hok
    exact nomatch hok

theorem load_ne_file {text : String} (h : text ∈ names) (cause : FileFault) :
    Workflow.load bracketFiles.system (.ofText text) ≠ .error (.file cause) := by
  obtain ⟨result, hcheck⟩ := exists_checkFile h
  obtain ⟨-, ⟨failure, hload, -⟩ | ⟨g, report, hload, -⟩⟩ := Workflow.checkFile_eq_ok_iff.1 hcheck
  · rw [← Path.ofText_text, hload]
    exact nofun
  · rw [← Path.ofText_text, hload]
    exact nofun

theorem exists_graph {text : String} (h : text ∈ names) {settings : Settings}
    (hsettings : Settings.load bracketFiles.system none = .ok settings) {g : Graph}
    (hload : Workflow.load bracketFiles.system (.ofText text) = .ok g) :
    ∃ ds, Check.graph g settings = .ok ds := by
  cases hsettings
  obtain ⟨result, hcheck⟩ := exists_checkFile h
  rw [← Path.ofText_text] at hload
  obtain ⟨-, ⟨failure, hload', -⟩ | ⟨g', report, hload', hreport, -⟩⟩ :=
    Workflow.checkFile_eq_ok_iff.1 hcheck
  · exact nomatch hload.symm.trans hload'
  · cases hload.symm.trans hload'
    rw [Report.of_eq_map, Outcome.map_eq_ok_iff] at hreport
    obtain ⟨ds, hrun, -⟩ := hreport
    exact ⟨ds, hrun⟩

end bracketFiles

/-- The agent without a model makes the exit code one, whichever way it is printed, and in whichever
order and however often the files are named. -/
theorem validate_reflects_bracketFiles :
    Legible bracketFiles.system none ["agent.json", "good.json", "gone.json"]
    ∧ (∀ settings, Settings.load bracketFiles.system none = .ok settings →
        ∀ text ∈ ["agent.json", "good.json", "gone.json"], ∀ g,
          Workflow.load bracketFiles.system (.ofText text) = .ok g →
            ∃ ds, Check.graph g settings = .ok ds)
    ∧ Reflects bracketFiles.system none ["agent.json", "good.json", "gone.json"] true 1
    ∧ (validate bracketFiles.system
        (["agent.json", "good.json", "gone.json"].map .ofText) false none).exitCode = 1
    ∧ (validate bracketFiles.system
        (["gone.json", "good.json", "agent.json", "good.json"].map .ofText) true none).exitCode
      = 1 := by
  have hsub : ["agent.json", "good.json", "gone.json"] ⊆ bracketFiles.names := by decide
  have hlegible : Legible bracketFiles.system none ["agent.json", "good.json", "gone.json"] :=
    ⟨fun text htext => bracketFiles.load_ne_file (hsub htext), by decide +kernel, nofun⟩
  have hruns : ∀ settings, Settings.load bracketFiles.system none = .ok settings →
      ∀ text ∈ ["agent.json", "good.json", "gone.json"], ∀ g,
        Workflow.load bracketFiles.system (.ofText text) = .ok g →
          ∃ ds, Check.graph g settings = .ok ds :=
    fun settings hsettings text htext g => bracketFiles.exists_graph (hsub htext) hsettings
  have hcode : (validate bracketFiles.system
      (["agent.json", "good.json", "gone.json"].map .ofText) true none).exitCode = 1 := by
    decide +kernel
  have hplain : ∀ text ∈ ["agent.json", "good.json", "gone.json"],
      '[' ∉ (Path.ofText text).text.toList := by decide
  obtain ⟨hreflects, -, -, hreordered, hprinted, hshows, -⟩ :=
    validate_reflects bracketFiles.system none ["agent.json", "good.json", "gone.json"] hlegible
      hruns
  refine ⟨hlegible, hruns, ?_, ?_, ?_⟩
  · rw [← hcode]
    exact hreflects true
  · rw [← hcode]
    exact (hprinted fun text htext => hshows text (hplain text htext)).symm
  · rw [← hcode]
    refine hreordered true _ fun text => ?_
    simp only [List.mem_cons, List.not_mem_nil, or_false]
    tauto

/-- The last of the files passes, and the exit code says so when a document is printed. Its path
reads as a tag that closes nothing, so that it cannot be shown, and then the exit code is one. -/
theorem validate_bracketFiles :
    (∃ settings, Settings.load bracketFiles.system none = .ok settings
      ∧ Passes bracketFiles.system settings "[/].json")
    ∧ (validate bracketFiles.system [.ofText "[/].json"] true none).exitCode = 0
    ∧ (validate bracketFiles.system [.ofText "[/].json"] false none).exitCode = 1 := by
  have hzero :
      (validate bracketFiles.system (["[/].json"].map .ofText) true none).exitCode = 0 := by
    decide +kernel
  have hone : (validate bracketFiles.system [.ofText "[/].json"] false none).exitCode = 1 := by
    decide +kernel
  refine ⟨?_, hzero, hone⟩
  have hsub : ["[/].json"] ⊆ bracketFiles.names := by decide
  -- the exit code zero tells that the file passes
  obtain ⟨settings, hsettings, hpass⟩ := (reflects_validate
    (fun text htext => bracketFiles.load_ne_file (hsub htext))
    (fun _ hsettings text htext _ => bracketFiles.exists_graph (hsub htext) hsettings)
    true).passed.1 hzero
  exact ⟨settings, hsettings, (hpass _ List.mem_cons_self).1⟩

end FlowLint.Command
