import FlowLint.File.Workflow
import FlowLint.Proofs.Outcome

/-!
# Checking many files

A batch is to give one result for each path, whatever the files hold, and each the same as the path
alone would give. Five things in a file keep it from giving a result of its own, and then the whole
batch gives none (`Workflow.Interrupts`): a null character in the path, octets that are no UTF-8, a
JSON text nested too deep, a YAML scalar that is a misfit, and a workflow whose run is ended by a
node. Everything else that is wrong with a file is a failure in its result.

* **`checkFile_eq_error_iff`**: a path gives no result exactly when one of the five is there.
* **`checkFile_congr`**: the result of a path rests on what the file system has under it alone.
* **`checkFiles_isolated`**: a batch without any of the five gives the results of its paths one by
  one, and a batch with some gives the first of them and nothing else.
-/

namespace FlowLint.Workflow

/-! ## One file -/

/-- What interrupts a batch at a path, and as what it is told. -/
inductive Interrupts (system : FileSystem) (settings : Settings) (path : String) :
    Interruption → Prop
  | nullInPath (null : (Path.ofText path).hasNull = true) :
      Interrupts system settings path (.file .nullInPath)
  | undecodable {octets : List UInt8} {cause : Utf8.Fault}
      (proper : (Path.ofText path).hasNull = false)
      (octets_eq : system (Path.ofText path) = .ok octets)
      (invalid : Utf8.decode octets = .error cause) :
      Interrupts system settings path (.file (.undecodable cause))
  | tooDeep {text : List Char} {collection : Json.Collection}
      (text_eq : system.readText (Path.ofText path) = .ok text)
      (json : (Path.ofText path).isYaml = false)
      (deep : Json.read text = .error (.tooDeep collection)) :
      Interrupts system settings path (.file (.tooDeep collection))
  | misfit {text : List Char} {cause : Yaml.Misfit}
      (text_eq : system.readText (Path.ofText path) = .ok text)
      (yaml : (Path.ofText path).isYaml = true)
      (misfit : Yaml.read text = .error (.misfit cause)) :
      Interrupts system settings path (.file (.misfit cause))
  | check {g : Graph} {cause : CheckFault}
      (loaded : load system (Path.ofText path) = .ok g)
      (ended : Report.of g settings = .error cause) :
      Interrupts system settings path (.check cause)

/-- What a text of the wrong nesting or with a misfit says about its document. -/
theorem ofText_eq_file_iff {path : Path} {text : List Char} {cause : FileFault} :
    ofText path text = .error (.file cause)
      ↔ (path.isYaml = false
          ∧ ∃ collection, Json.read text = .error (.tooDeep collection)
            ∧ cause = .tooDeep collection)
        ∨ (path.isYaml = true
          ∧ ∃ misfit, Yaml.read text = .error (.misfit misfit) ∧ cause = .misfit misfit) := by
  -- a document that is there is refused as a failure of its file, never as a fault of no file
  have hgraph : ∀ value, ¬ (Graph.ofValue value).mapError (fun cause =>
      LoadFault.failure (.badGraph cause)) = .error (.file cause) := by
    intro value
    cases Graph.ofValue value <;> simp [Except.mapError]
  rw [ofText, Outcome.bind_eq_error_iff]
  simp only [hgraph, and_false, exists_false, or_false]
  unfold document
  cases hyaml : path.isYaml with
  | false =>
    cases hread : Json.read text with
    | ok value => simp
    | error fault => cases fault <;> simp [eq_comm]
  | true =>
    cases hread : Yaml.read text with
    | ok value => simp
    | error fault => cases fault <;> simp [eq_comm]

/-- A fault of no file comes from the path, from its octets, or from their text. -/
theorem load_eq_file_iff {system : FileSystem} {path : Path} {cause : FileFault} :
    load system path = .error (.file cause)
      ↔ (path.hasNull = true ∧ cause = .nullInPath)
        ∨ (path.hasNull = false ∧ ∃ octets fault, system path = .ok octets
          ∧ Utf8.decode octets = .error fault ∧ cause = .undecodable fault)
        ∨ ∃ text, system.readText path = .ok text ∧ ofText path text = .error (.file cause) := by
  unfold load FileSystem.readText
  cases hnull : path.hasNull with
  | true => simp [eq_comm]
  | false =>
    cases hoctets : system path with
    | error fault => simp
    | ok octets =>
      cases hdecode : Utf8.decode octets with
      | error fault => simp [hdecode, eq_comm]
      | ok text => simp [hdecode]

variable {system : FileSystem} {settings : Settings}

/-- **When a path gives no result.** -/
theorem checkFile_eq_error_iff {path : String} {cause : Interruption} :
    checkFile system settings path = .error cause ↔ Interrupts system settings path cause := by
  constructor
  · intro h
    unfold checkFile at h
    -- a failure is a result; a fault of no file or of the run is none
    split at h
    · exact nomatch h
    · next fault hload =>
      cases h
      rcases load_eq_file_iff.1 hload with ⟨hnull, rfl⟩ | ⟨hproper, octets, fault, hoctets,
        hinvalid, rfl⟩ | ⟨text, htext, hdocument⟩
      · exact .nullInPath hnull
      · exact .undecodable hproper hoctets hinvalid
      · rcases ofText_eq_file_iff.1 hdocument with ⟨hjson, collection, hdeep, rfl⟩
          | ⟨hyaml, misfit, hmisfit, rfl⟩
        · exact .tooDeep htext hjson hdeep
        · exact .misfit htext hyaml hmisfit
    · next g hload =>
      split at h
      · exact nomatch h
      · next fault hreport =>
        cases h
        exact .check hload hreport
  · intro h
    -- each of the first four is a fault of no file when the path is loaded
    have hfile : ∀ fault, load system (Path.ofText path) = .error (.file fault) →
        checkFile system settings path = .error (.file fault) := by
      intro fault hload
      rw [checkFile, hload]
    cases h with
    | nullInPath hnull => exact hfile _ (load_eq_file_iff.2 (.inl ⟨hnull, rfl⟩))
    | undecodable hproper hoctets hinvalid =>
      exact hfile _ (load_eq_file_iff.2 (.inr (.inl ⟨hproper, _, _, hoctets, hinvalid, rfl⟩)))
    | tooDeep htext hjson hdeep =>
      have hdocument := ofText_eq_file_iff.2 (.inl ⟨hjson, _, hdeep, rfl⟩)
      exact hfile _ (load_eq_file_iff.2 (.inr (.inr ⟨_, htext, hdocument⟩)))
    | misfit htext hyaml hmisfit =>
      have hdocument := ofText_eq_file_iff.2 (.inr ⟨hyaml, _, hmisfit, rfl⟩)
      exact hfile _ (load_eq_file_iff.2 (.inr (.inr ⟨_, htext, hdocument⟩)))
    | check hload hreport =>
      rw [checkFile, hload]
      dsimp only
      rw [hreport]

theorem exists_checkFile_iff {path : String} :
    (∃ result, checkFile system settings path = .ok result)
      ↔ ∀ cause, ¬ Interrupts system settings path cause := by
  simp only [← checkFile_eq_error_iff]
  cases checkFile system settings path <;> simp

/-- **The result of a path rests on what is under it.** -/
theorem checkFile_congr {system' : FileSystem} {path : String}
    (h : system' (Path.ofText path) = system (Path.ofText path)) :
    checkFile system' settings path = checkFile system settings path := by
  -- the file system is asked for this path only
  have htext : system'.readText (Path.ofText path) = system.readText (Path.ofText path) := by
    unfold FileSystem.readText
    rw [h]
  have hload : load system' (Path.ofText path) = load system (Path.ofText path) := by
    unfold load
    rw [htext]
  rw [checkFile, hload]
  rfl

/-- What a result says: the failure of a file that is not loaded, or the report of its workflow. -/
theorem checkFile_eq_ok_iff {path : String} {result : FileResult} :
    checkFile system settings path = .ok result
      ↔ result.path = path
        ∧ ((∃ failure, load system (Path.ofText path) = .error (.failure failure)
            ∧ result.outcome = .error failure)
          ∨ ∃ g report, load system (Path.ofText path) = .ok g
            ∧ Report.of g settings = .ok report ∧ result.outcome = .ok report) := by
  obtain ⟨name, outcome⟩ := result
  unfold checkFile
  cases load system (Path.ofText path) with
  | error fault => cases fault <;> simp [eq_comm]
  | ok g =>
    cases hreport : Report.of g settings with
    | error fault => simp [hreport]
    | ok report => simp [hreport, @eq_comm _ name, @eq_comm _ outcome]

/-! ## Many files -/

theorem checkFiles_eq_walk (paths : List String) :
    checkFiles system settings paths = Outcome.walk (checkFile system settings) paths := by
  induction paths with
  | nil => rfl
  | cons path rest ih => rw [checkFiles, ih, Outcome.walk]

theorem checkFiles_singleton_iff {path : String} {result : FileResult} :
    checkFiles system settings [path] = .ok [result]
      ↔ checkFile system settings path = .ok result := by
  rw [checkFiles_eq_walk, Outcome.walk_eq_ok_iff, List.forall₂_cons, and_iff_left .nil]

/-- The result of a path in a batch: what the path gives alone, also when the files under all other
paths are different ones. -/
structure Isolated (system : FileSystem) (settings : Settings) (path : String)
    (result : FileResult) : Prop where
  path_eq : result.path = path
  alone : ∀ system' : FileSystem, system' (Path.ofText path) = system (Path.ofText path) →
    checkFiles system' settings [path] = .ok [result]
  failed : ∀ failure, load system (Path.ofText path) = .error (.failure failure) →
    result.report? = none ∧ result.failure? = some failure.message
  checked : ∀ g, load system (Path.ofText path) = .ok g →
    ∃ report, Report.of g settings = .ok report ∧ result.outcome = .ok report

theorem isolated_of_checkFile {path : String} {result : FileResult}
    (h : checkFile system settings path = .ok result) : Isolated system settings path result := by
  obtain ⟨hpath, houtcome⟩ := checkFile_eq_ok_iff.1 h
  refine ⟨hpath, fun system' hsystem => ?_, fun failure hload => ?_, fun g hload => ?_⟩
  · rw [checkFiles_singleton_iff, checkFile_congr hsystem]
    exact h
  · rcases houtcome with ⟨failure', hload', hfailed⟩ | ⟨g, report, hload', -, -⟩
    · rw [hload] at hload'
      cases hload'
      simp [FileResult.report?, FileResult.failure?, hfailed]
    · rw [hload] at hload'
      exact nomatch hload'
  · rcases houtcome with ⟨failure, hload', -⟩ | ⟨g', report, hload', hreport, hchecked⟩
    · rw [hload] at hload'
      exact nomatch hload'
    · rw [hload] at hload'
      cases hload'
      exact ⟨report, hreport, hchecked⟩

/-- **A batch keeps its files apart unless one interrupts it.** It gives results exactly when
nothing interrupts it at any path; these are one for each path, in their order, each on its own.
Otherwise it ends with the first interruption, and the results before it are lost. -/
theorem checkFiles_isolated (system : FileSystem) (settings : Settings) (paths : List String) :
    ((∃ results, checkFiles system settings paths = .ok results)
        ↔ ∀ path ∈ paths, ∀ cause, ¬ Interrupts system settings path cause)
    ∧ (∀ results, checkFiles system settings paths = .ok results →
        List.Forall₂ (Isolated system settings) paths results)
    ∧ ∀ cause, checkFiles system settings paths = .error cause
        ↔ ∃ before path after, paths = before ++ path :: after
          ∧ (∀ other ∈ before, ∀ cause, ¬ Interrupts system settings other cause)
          ∧ Interrupts system settings path cause := by
  rw [checkFiles_eq_walk]
  refine ⟨?_, ?_, ?_⟩
  · rw [Outcome.exists_walk_eq_ok_iff]
    exact forall₂_congr fun path _ => exists_checkFile_iff
  · intro results hresults
    exact (Outcome.walk_eq_ok_iff.1 hresults).imp fun _ _ => isolated_of_checkFile
  · intro cause
    rw [Outcome.walk_eq_error_iff]
    simp only [exists_checkFile_iff, checkFile_eq_error_iff]

/-- A directory with a workflow without nodes and a file of one octet that starts no character. -/
def mixedFiles : FileTree :=
  [(["good.json"], .file "\x7b\"nodes\": []\x7d".toUTF8.toList), (["bad.json"], .file [0xFF])]

/-- The bad file interrupts the batch, and the result of the good one is lost with it. -/
theorem checkFiles_mixedFiles :
    ¬ ∃ results, checkFiles mixedFiles.system {} ["good.json", "bad.json"] = .ok results := by
  rw [checkFiles_eq_walk, Outcome.exists_walk_eq_ok_iff]
  intro hall
  obtain ⟨result, hresult⟩ := hall "bad.json" (by simp)
  have hfault : checkFile mixedFiles.system {} "bad.json"
      = .error (.file (.undecodable ⟨0, 1, 0xFF, .badStart⟩)) := rfl
  rw [hfault] at hresult
  exact nomatch hresult

end FlowLint.Workflow
