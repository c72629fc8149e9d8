import FlowLint.File.Settings
import FlowLint.Proofs.Value.Keys

/-!
# Loading settings

A settings file is to give settings or to be refused as a settings file. It gives settings when it
is empty or holds a mapping that states them (`Settings.Loads`), and there are four ways in which it
is refused (`Settings.Refuses`). Five others end the loading with a fault that no settings file is
blamed for (`Settings.Escapes`): a null character in the path, octets that are no UTF-8, a YAML
scalar that denotes no value or is a misfit, and a key that is no text.

* **`Settings.ofMembers_eq_ok_iff`**: a mapping gives the settings that it states, the fields that
  it leaves out having their defaults.
* **`Settings.loads_or_refuses_iff`**: a file gives settings or is refused exactly when none of the
  five is there.
-/

namespace FlowLint

namespace SettingsField

/-- The least number that a field can have. -/
def least : SettingsField → Nat
  | .maxLanguageModels | .maxIterationsWarning | .maxTopKWarning => 1
  | .minSystemMessageLength | .minToolDescriptionLength => 0

theorem mem_all (f : SettingsField) : f ∈ all := by
  cases f <;> decide

end SettingsField

namespace Settings

/-! ## Members -/

/-- A mapping states settings: it holds nothing but fields, the settings have the numbers that it
gives, and where it gives none they have the default. -/
structure StatedBy (members : Members) (settings : Settings) : Prop where
  known : ∀ member ∈ members, ∃ f : SettingsField, member.1 = .text f.name
  given : ∀ (f : SettingsField) (value : Value), members.get? f.name = some value →
    LenientInteger.ofValue value = .ok (settings.get f : Int)
  absent : ∀ f : SettingsField, members.get? f.name = none → settings.get f = defaults.get f

/-- Fields are texts. -/
theorem StatedBy.keysNotText_eq_nil {members : Members} {settings : Settings}
    (h : StatedBy members settings) : members.keysNotText = [] := by
  rw [List.eq_nil_iff_forall_not_mem]
  intro key hkey
  obtain ⟨hmem, hnot⟩ := Members.mem_keysNotText_iff.1 hkey
  obtain ⟨member, hmember, rfl⟩ := List.mem_map.1 hmem
  obtain ⟨f, hf⟩ := h.known member hmember
  exact hnot f.name hf

/-- The numbers of settings are in their bounds. -/
theorem least_le_get (settings : Settings) (f : SettingsField) : f.least ≤ settings.get f := by
  cases f with
  | maxLanguageModels => exact settings.maxLanguageModels.least_le
  | minSystemMessageLength => exact settings.minSystemMessageLength.least_le
  | maxIterationsWarning => exact settings.maxIterationsWarning.least_le
  | maxTopKWarning => exact settings.maxTopKWarning.least_le
  | minToolDescriptionLength => exact settings.minToolDescriptionLength.least_le

theorem threshold_eq_ok_iff {least : Nat} {value : Value} {t : Threshold least} :
    threshold least value = .ok t ↔ LenientInteger.ofValue value = .ok (t.value : Int) := by
  obtain ⟨n, hn⟩ := t
  unfold threshold
  cases LenientInteger.ofValue value with
  | error cause => simp
  | ok m =>
    dsimp only
    split
    · next hm =>
      simp only [Except.ok.injEq, Threshold.mk.injEq]
      omega
    · next hm =>
      simp only [reduceCtorEq, Except.ok.injEq, false_iff]
      omega

theorem field_eq_ok_iff {least : Nat} {members : Members} {f : SettingsField}
    {default t : Threshold least} :
    field members f default = .ok t
      ↔ (∀ value, members.get? f.name = some value →
          LenientInteger.ofValue value = .ok (t.value : Int))
        ∧ (members.get? f.name = none → t.value = default.value) := by
  unfold field
  cases members.get? f.name with
  | none =>
    obtain ⟨n, hn⟩ := t
    obtain ⟨m, hm⟩ := default
    simp [eq_comm]
  | some value => simp [threshold_eq_ok_iff]

theorem unknownIssues_eq_nil_iff {members : Members} (htexts : members.keysNotText = []) :
    unknownIssues members = []
      ↔ ∀ member ∈ members, ∃ f : SettingsField, member.1 = .text f.name := by
  rw [unknownIssues, List.filterMap_eq_nil_iff]
  refine forall₂_congr fun member hmem => ?_
  cases hkey : member.1 with
  | text name =>
    have hany : SettingsField.all.any (·.name == name) = true
        ↔ ∃ f : SettingsField, name = f.name := by
      rw [List.any_eq_true]
      constructor
      · rintro ⟨f, -, hf⟩
        exact ⟨f, (beq_iff_eq.1 hf).symm⟩
      · rintro ⟨f, rfl⟩
        exact ⟨f, f.mem_all, beq_self_eq_true _⟩
    simp [hany]
  | _ =>
    -- such a key is none of a mapping whose keys are texts
    have hnot : member.1 ∈ members.keysNotText :=
      Members.mem_keysNotText_iff.2 ⟨List.mem_map_of_mem hmem, by simp [hkey]⟩
    rw [htexts] at hnot
    exact absurd hnot List.not_mem_nil

/-- All fields are read, and no name is left. -/
theorem ofMembers_eq_ok_iff_fields {members : Members} {settings : Settings} :
    ofMembers members = .ok settings
      ↔ field members .maxLanguageModels defaults.maxLanguageModels = .ok settings.maxLanguageModels
        ∧ field members .minSystemMessageLength defaults.minSystemMessageLength
          = .ok settings.minSystemMessageLength
        ∧ field members .maxIterationsWarning defaults.maxIterationsWarning
          = .ok settings.maxIterationsWarning
        ∧ field members .maxTopKWarning defaults.maxTopKWarning = .ok settings.maxTopKWarning
        ∧ field members .minToolDescriptionLength defaults.minToolDescriptionLength
          = .ok settings.minToolDescriptionLength
        ∧ unknownIssues members = [] := by
  obtain ⟨models', message', iterations', topK', description'⟩ := settings
  unfold ofMembers
  cases field members .maxLanguageModels defaults.maxLanguageModels with
  | error fault => simp
  | ok models =>
  cases field members .minSystemMessageLength defaults.minSystemMessageLength with
  | error fault => simp
  | ok message =>
  cases field members .maxIterationsWarning defaults.maxIterationsWarning with
  | error fault => simp
  | ok iterations =>
  cases field members .maxTopKWarning defaults.maxTopKWarning with
  | error fault => simp
  | ok topK =>
  cases field members .minToolDescriptionLength defaults.minToolDescriptionLength with
  | error fault => simp
  | ok description =>
    cases hunknown : unknownIssues members <;> simp [issue?]

/-- **A mapping gives the settings that it states.** -/
theorem ofMembers_eq_ok_iff {members : Members} (htexts : members.keysNotText = [])
    {settings : Settings} : ofMembers members = .ok settings ↔ StatedBy members settings := by
  rw [ofMembers_eq_ok_iff_fields, unknownIssues_eq_nil_iff htexts]
  simp only [field_eq_ok_iff]
  constructor
  · rintro ⟨hmodels, hmessage, hiterations, htopK, hdescription, hknown⟩
    refine ⟨hknown, fun f => ?_, fun f => ?_⟩
    · cases f with
      | maxLanguageModels => exact hmodels.1
      | minSystemMessageLength => exact hmessage.1
      | maxIterationsWarning => exact hiterations.1
      | maxTopKWarning => exact htopK.1
      | minToolDescriptionLength => exact hdescription.1
    · cases f with
      | maxLanguageModels => exact hmodels.2
      | minSystemMessageLength => exact hmessage.2
      | maxIterationsWarning => exact hiterations.2
      | maxTopKWarning => exact htopK.2
      | minToolDescriptionLength => exact hdescription.2
  · rintro ⟨hknown, hgiven, habsent⟩
    exact ⟨⟨hgiven .maxLanguageModels, habsent .maxLanguageModels⟩,
      ⟨hgiven .minSystemMessageLength, habsent .minSystemMessageLength⟩,
      ⟨hgiven .maxIterationsWarning, habsent .maxIterationsWarning⟩,
      ⟨hgiven .maxTopKWarning, habsent .maxTopKWarning⟩,
      ⟨hgiven .minToolDescriptionLength, habsent .minToolDescriptionLength⟩, hknown⟩

/-! ## Files -/

/-- The settings of a file: the defaults when it is empty, or else those that its mapping states. -/
inductive Loads (system : FileSystem) (path : Path) : Settings → Prop
  | empty {text : List Char} (text_eq : system.readText path = .ok text)
      (read_eq : Yaml.read text = .ok .null) : Loads system path defaults
  | stated {text : List Char} {value : Value} {members : Members} {settings : Settings}
      (text_eq : system.readText path = .ok text) (read_eq : Yaml.read text = .ok value)
      (members_eq : value.members? = some members) (stated : StatedBy members settings) :
      Loads system path settings

/-- Why a file is refused as a settings file. -/
inductive Refuses (system : FileSystem) (path : Path) : SettingsFailure → Prop
  | unreadable {cause : ReadFault} (proper : path.hasNull = false)
      (system_eq : system path = .error cause) : Refuses system path (.unreadable path cause)
  | malformed {text : List Char} {problem : Yaml.Problem}
      (text_eq : system.readText path = .ok text)
      (read_eq : Yaml.read text = .error (.malformed problem)) :
      Refuses system path (.malformed path problem)
  | notMapping {text : List Char} {value : Value} (text_eq : system.readText path = .ok text)
      (read_eq : Yaml.read text = .ok value) (given : value ≠ .null)
      (members_eq : value.members? = none) : Refuses system path (.notMapping path)
  | invalid {text : List Char} {value : Value} {members : Members} {issues : List SettingIssue}
      (text_eq : system.readText path = .ok text) (read_eq : Yaml.read text = .ok value)
      (members_eq : value.members? = some members) (texts : members.keysNotText = [])
      (issues_eq : ofMembers members = .error issues) : Refuses system path (.invalid path issues)

/-- What ends the loading without blaming the settings file. -/
inductive Escapes (system : FileSystem) (path : Path) : SettingsFault → Prop
  | nullInPath (null : path.hasNull = true) : Escapes system path (.file .nullInPath)
  | undecodable {octets : List UInt8} {cause : Utf8.Fault} (proper : path.hasNull = false)
      (octets_eq : system path = .ok octets) (invalid : Utf8.decode octets = .error cause) :
      Escapes system path (.file (.undecodable cause))
  | misfit {text : List Char} {cause : Yaml.Misfit} (text_eq : system.readText path = .ok text)
      (read_eq : Yaml.read text = .error (.misfit cause)) :
      Escapes system path (.file (.misfit cause))
  | badValue {text : List Char} {cause : Yaml.BadValue}
      (text_eq : system.readText path = .ok text)
      (read_eq : Yaml.read text = .error (.badValue cause)) :
      Escapes system path (.badValue cause)
  | keysNotText {text : List Char} {value : Value} {members : Members}
      (text_eq : system.readText path = .ok text) (read_eq : Yaml.read text = .ok value)
      (members_eq : value.members? = some members) (key : members.keysNotText ≠ []) :
      Escapes system path .keysNotText

variable {system : FileSystem} {path : Path}

/-! ### Each case is the outcome of the loading -/

theorem load_of_text {text : List Char} (h : system.readText path = .ok text) :
    load system (some path) = ofText path text := by
  rw [load, h]

theorem load_of_read {text : List Char} {value : Value} (htext : system.readText path = .ok text)
    (h : Yaml.read text = .ok value) : load system (some path) = ofValue path value := by
  rw [load_of_text htext, ofText, h]

theorem load_of_members {text : List Char} {value : Value} {members : Members}
    (htext : system.readText path = .ok text) (hread : Yaml.read text = .ok value)
    (h : value.members? = some members) :
    load system (some path)
      = if members.keysNotText.isEmpty then
          (ofMembers members).mapError fun issues => .failure (.invalid path issues)
        else .error .keysNotText := by
  rw [load_of_read htext hread]
  unfold ofValue
  split
  · exact nomatch h
  · rw [h]

theorem Loads.load_eq {settings : Settings} (h : Loads system path settings) :
    load system (some path) = .ok settings := by
  cases h with
  | empty text_eq read_eq =>
    rw [load_of_read text_eq read_eq]
    rfl
  | stated text_eq read_eq members_eq stated =>
    have htexts := stated.keysNotText_eq_nil
    rw [load_of_members text_eq read_eq members_eq, htexts, (ofMembers_eq_ok_iff htexts).2 stated]
    rfl

theorem Refuses.load_eq {failure : SettingsFailure} (h : Refuses system path failure) :
    load system (some path) = .error (.failure failure) := by
  cases h with
  | unreadable proper system_eq => simp [load, FileSystem.readText, proper, system_eq]
  | malformed text_eq read_eq => rw [load_of_text text_eq, ofText, read_eq]
  | notMapping text_eq read_eq given members_eq =>
    rw [load_of_read text_eq read_eq]
    unfold ofValue
    split
    · exact absurd rfl given
    · rw [members_eq]
  | invalid text_eq read_eq members_eq texts issues_eq =>
    rw [load_of_members text_eq read_eq members_eq, texts, issues_eq]
    rfl

theorem Escapes.load_eq {fault : SettingsFault} (h : Escapes system path fault) :
    load system (some path) = .error fault := by
  cases h with
  | nullInPath null => simp [load, FileSystem.readText, null]
  | undecodable proper octets_eq invalid =>
    simp [load, FileSystem.readText, proper, octets_eq, invalid]
  | misfit text_eq read_eq => rw [load_of_text text_eq, ofText, read_eq]
  | badValue text_eq read_eq => rw [load_of_text text_eq, ofText, read_eq]
  | keysNotText text_eq read_eq members_eq key =>
    rw [load_of_members text_eq read_eq members_eq, if_neg (mt List.isEmpty_iff.1 key)]

/-- A fault that is none of the settings file is not the refusal of one. -/
theorem Escapes.ne_failure {fault : SettingsFault} (h : Escapes system path fault)
    (failure : SettingsFailure) : fault ≠ .failure failure := by
  cases h <;> exact nofun

/-! ### There are no other cases -/

/-- A document is loaded, or refused, or has a key that is no text. -/
theorem cases_of_read {text : List Char} {value : Value} (htext : system.readText path = .ok text)
    (hread : Yaml.read text = .ok value) :
    (∃ settings, Loads system path settings) ∨ (∃ failure, Refuses system path failure)
      ∨ ∃ fault, Escapes system path fault := by
  by_cases hnull : value = .null
  · subst hnull
    exact .inl ⟨_, .empty htext hread⟩
  cases hmembers : value.members? with
  | none => exact .inr (.inl ⟨_, .notMapping htext hread hnull hmembers⟩)
  | some members =>
    by_cases htexts : members.keysNotText = []
    · cases hsettings : ofMembers members with
      | ok settings =>
        have hstated := (ofMembers_eq_ok_iff htexts).1 hsettings
        exact .inl ⟨_, .stated htext hread hmembers hstated⟩
      | error issues => exact .inr (.inl ⟨_, .invalid htext hread hmembers htexts hsettings⟩)
    · exact .inr (.inr ⟨_, .keysNotText htext hread hmembers htexts⟩)

theorem load_cases (system : FileSystem) (path : Path) :
    (∃ settings, Loads system path settings) ∨ (∃ failure, Refuses system path failure)
      ∨ ∃ fault, Escapes system path fault := by
  by_cases hnull : path.hasNull = true
  · exact .inr (.inr ⟨_, .nullInPath hnull⟩)
  have hproper : path.hasNull = false := Bool.eq_false_iff.2 hnull
  cases hoctets : system path with
  | error cause => exact .inr (.inl ⟨_, .unreadable hproper hoctets⟩)
  | ok octets =>
    cases hdecode : Utf8.decode octets with
    | error cause => exact .inr (.inr ⟨_, .undecodable hproper hoctets hdecode⟩)
    | ok characters =>
      have htext : system.readText path = .ok (Text.normalizeLineEnds characters) := by
        simp [FileSystem.readText, hproper, hoctets, hdecode]
      cases hread : Yaml.read (Text.normalizeLineEnds characters) with
      | ok value => exact cases_of_read htext hread
      | error fault =>
        cases fault with
        | malformed problem => exact .inr (.inl ⟨_, .malformed htext hread⟩)
        | badValue cause => exact .inr (.inr ⟨_, .badValue htext hread⟩)
        | misfit cause => exact .inr (.inr ⟨_, .misfit htext hread⟩)

theorem load_eq_ok_iff {settings : Settings} :
    load system (some path) = .ok settings ↔ Loads system path settings := by
  refine ⟨fun h => ?_, Loads.load_eq⟩
  rcases load_cases system path with ⟨other, hloads⟩ | ⟨failure, hrefuses⟩ | ⟨fault, hescapes⟩
  · cases h.symm.trans hloads.load_eq
    exact hloads
  · exact nomatch h.symm.trans hrefuses.load_eq
  · exact nomatch h.symm.trans hescapes.load_eq

theorem load_eq_failure_iff {failure : SettingsFailure} :
    load system (some path) = .error (.failure failure) ↔ Refuses system path failure := by
  refine ⟨fun h => ?_, Refuses.load_eq⟩
  rcases load_cases system path with ⟨settings, hloads⟩ | ⟨other, hrefuses⟩ | ⟨fault, hescapes⟩
  · exact nomatch h.symm.trans hloads.load_eq
  · cases h.symm.trans hrefuses.load_eq
    exact hrefuses
  · cases h.symm.trans hescapes.load_eq
    exact absurd rfl (hescapes.ne_failure failure)

/-- **A settings file gives settings or is refused, unless the loading escapes.** The settings are
the defaults for an empty file and those that the mapping states for another, and each field is in
its bounds. -/
theorem loads_or_refuses_iff (system : FileSystem) :
    load system none = .ok defaults
    ∧ ∀ path,
      (((∃ settings, load system (some path) = .ok settings)
          ∨ ∃ failure, load system (some path) = .error (.failure failure))
        ↔ ∀ fault, ¬ Escapes system path fault)
      ∧ (∀ settings, load system (some path) = .ok settings
          ↔ Loads system path settings ∧ ∀ f : SettingsField, f.least ≤ settings.get f)
      ∧ (∀ failure, load system (some path) = .error (.failure failure)
          ↔ Refuses system path failure)
      ∧ ∀ fault, Escapes system path fault → load system (some path) = .error fault := by
  refine ⟨rfl, fun path => ⟨⟨?_, ?_⟩, ?_, fun _ => load_eq_failure_iff, fun _ => Escapes.load_eq⟩⟩
  · rintro (⟨settings, hsettings⟩ | ⟨failure, hfailure⟩) fault hescapes
    · exact nomatch hsettings.symm.trans hescapes.load_eq
    · cases hfailure.symm.trans hescapes.load_eq
      exact hescapes.ne_failure failure rfl
  · intro hkept
    rcases load_cases system path with ⟨settings, hloads⟩ | ⟨failure, hrefuses⟩ | ⟨fault, hescapes⟩
    · exact .inl ⟨settings, hloads.load_eq⟩
    · exact .inr ⟨failure, hrefuses.load_eq⟩
    · exact absurd hescapes (hkept fault)
  · intro settings
    rw [load_eq_ok_iff, and_iff_left settings.least_le_get]

/-- A settings file with a day that no calendar has. -/
def undatedSettings : FileTree :=
  [(["s.yaml"], .file "max_language_models: 2020-13-45\n".toUTF8.toList)]

/-- The file gives no settings, and it is not refused as a settings file. -/
theorem load_undatedSettings :
    ¬ ((∃ settings, load undatedSettings.system (some (.ofText "s.yaml")) = .ok settings)
      ∨ ∃ failure, load undatedSettings.system (some (.ofText "s.yaml"))
          = .error (.failure failure)) := by
  have hescapes : (match load undatedSettings.system (some (.ofText "s.yaml")) with
      | .error (.badValue _) => true
      | _ => false) = true := by decide +kernel
  rintro (⟨settings, hsettings⟩ | ⟨failure, hfailure⟩)
  · rw [hsettings] at hescapes
    exact Bool.noConfusion hescapes
  · rw [hfailure] at hescapes
    exact Bool.noConfusion hescapes

end Settings

end FlowLint
