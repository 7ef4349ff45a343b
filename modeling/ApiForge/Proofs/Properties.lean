import ApiForge.Backend.ManifestBackend
import ApiForge.Proofs.Dict
import ApiForge.Proofs.Except
import ApiForge.Readers.Standard
import ApiForge.Run
/-
# ApiForge.Proofs.Properties -- what the properties of a run say

The run itself has entries of certain names only (`Properties.ownNames`).  Under every other
name the properties of a run say what the configuration says, or else the backend
(`Job.get?_of_info`).  Which of its names the run really uses depends on the description and on
the switches (`Job.ownEntries`); those that it does not use are left to properties from outside
as well (`Job.properties_layered`).
-/

namespace ApiForge

set_option autoImplicit false

theorem forall_mem_optionalField {name : String} {value : Option Json}
    {P : String × Json → Prop} :
    (∀ e ∈ optionalField name value, P e) ↔ ∀ v, value = some v → P (name, v) := by
  cases value <;> simp [optionalField]

theorem mem_optionalField_iff {name : String} {value : Option Json} {e : String × Json} :
    e ∈ optionalField name value ↔ e.1 = name ∧ value = some e.2 := by
  cases value <;> simp [optionalField, Prod.ext_iff, eq_comm]

/-- The names of the entries that an info block makes. -/
def AppInfo.names : List String :=
  ["appName", "appVersion", "appDescription", "unescapedAppDescription", "infoEmail",
    "infoName", "infoUrl", "licenseInfo", "licenseUrl", "version", "termsOfService"]

theorem sublist_optionalField (name : String) (value : Option Json) :
    ((optionalField name value).map Prod.fst).Sublist [name] := by
  cases value with
  | none => exact List.nil_sublist _
  | some v => exact List.Sublist.refl _

theorem AppInfo.sublist_names (a : AppInfo) : (a.fields.map Prod.fst).Sublist names := by
  have text (name : String) (value : Option String) := sublist_optionalField name (value.map .str)
  simp only [fields, List.map_append]
  exact (((((((text _ _).append (.refl _)).append (text _ _)).append (text _ _)).append
    (text _ _)).append (text _ _)).append (text _ _)).append (.refl _) |>.append (text _ _)

namespace Properties

/-- The names of the run's own entries. -/
def ownNames : List String :=
  ["generatorVersion", "generatedDate", "generatedYear", "generatorClass", "inputSpec",
    "generateApiTests", "generateModelTests", "generateApiDocs", "generateModelDocs", "useOas2",
    "excludeTests"] ++ AppInfo.names

/-- The entries of a run come in the order of their names here, each at most once. -/
theorem sublist_ownNames (p : Properties) : (p.ownFields.map Prod.fst).Sublist ownNames := by
  have info : (((p.app.map AppInfo.fields).getD []).map Prod.fst).Sublist AppInfo.names := by
    cases p.app with
    | none => exact List.nil_sublist _
    | some a => exact a.sublist_names
  have field (name : String) (value : Option Json) := sublist_optionalField name value
  simp only [ownFields, optionalText, List.map_append]
  exact (((((List.Sublist.refl _).append (field _ _)).append (.refl _)).append (field _ _)).append
    (field _ _)).append info

/-- What the run itself says stands in the properties as it is. -/
theorem get?_entries_of_mem (p : Properties) {e : String × Json} (mem : e ∈ p.ownFields) :
    p.entries.get? e.1 = some e.2 := by
  have distinct : ownNames.Nodup := by decide
  rw [entries, Dict.get?_extend, Dict.get?_ofList_of_mem mem (p.sublist_ownNames.nodup distinct)]
  rfl

/-- Where the run says nothing stands what comes from outside. -/
theorem get?_entries_of_forall_ne (p : Properties) {name : String}
    (silent : ∀ e ∈ p.ownFields, e.1 ≠ name) : p.entries.get? name = p.extra.get? name := by
  rw [entries, Dict.get?_extend, Dict.get?_ofList_eq_none silent, Option.none_or]

/-- Under a name that is not the run's own stands what comes from outside. -/
theorem get?_entries (p : Properties) {name : String} (foreign : name ∉ ownNames) :
    p.entries.get? name = p.extra.get? name :=
  p.get?_entries_of_forall_ne fun _ mem same =>
    foreign (same ▸ p.sublist_ownNames.subset (List.mem_map_of_mem mem))

end Properties

namespace Job

/-- What properties from outside say under a name: those of the configuration come before
those that the backend declares. -/
def given (config : Config) (backend : Backend) (name : String) : Option Json :=
  (config.properties.get? name).or (backend.settings.properties.get? name)

/-- **Under every name that is not the run's own the properties of a run are those from
outside.** -/
theorem get?_of_info [Readers] {now : Moment} {config : Config} {backend : Backend}
    {description : Description} {run : RunInfo} {name : String} (plain : backend.hooks = .none)
    (ok : info now config backend description = .ok run)
    (foreign : name ∉ Properties.ownNames) :
    run.properties.get? name = given config backend name := by
  obtain ⟨p, resolved, ok⟩ := bind_eq_ok_iff.1 ok
  obtain ⟨_, -, same⟩ := bind_eq_ok_iff.1 ok
  cases same
  obtain ⟨q, hooked, rfl⟩ := map_eq_ok_iff.1 resolved
  rw [plain, mapError_eq_ok_iff] at hooked
  cases hooked
  have extra : ((Dict.empty.extend backend.settings.properties).extend
      config.properties).get? name = given config backend name := by
    simp only [Dict.get?_extend, Dict.get?_empty, Option.or_none, given]
  exact (Properties.get?_entries _ foreign).trans extra

/-! ## Name by name -/

/-- The name of the switch for the older format. -/
def olderFormat : String := Toggle.useOas2.key

section Layers

variable (now : Moment) (config : Config) (backend : Backend) (description : Description)

/-- What a run says of itself, whatever comes from outside: what it is, what its description is
called where that is known, how it is switched, that there are no tests where there are none, and
what the description says about the API. -/
def ownEntries : List (String × Json) :=
  let options := Options.resolve (toggleSources config backend)
  [("generatorVersion", .str Product.version), ("generatedDate", .str now.date),
    ("generatedYear", .str now.year), ("generatorClass", .str backend.settings.name)]
    ++ optionalText "inputSpec" config.inputSpec
    ++ [("generateApiTests", .bool options.apiTests),
      ("generateModelTests", .bool options.modelTests),
      ("generateApiDocs", .bool options.apiDocs),
      ("generateModelDocs", .bool options.modelDocs)]
    ++ (if !options.apiTests && !options.modelTests then [("excludeTests", .bool true)] else [])
    ++ ((description.info.map (AppInfo.ofInfo backend.naming.escapeText)).map
      AppInfo.fields).getD []

/-- The run itself or a property for switches sets the switch for the older format. -/
def asksForOlderFormat : Bool :=
  (config.overrides.get .useOas2).isSome || (config.propertyToggles.get .useOas2).isSome

/-- What a run says about the older format: nothing where nobody asks, and nothing where an entry
from outside says it already. -/
def olderFormatEntry : Option Json :=
  if asksForOlderFormat config && (given config backend olderFormat).isNone then
    some (.bool (Options.resolve (toggleSources config backend)).useOas2)
  else none

variable {now config backend description}

theorem ne_olderFormat_of_mem_ownEntries :
    ∀ e ∈ ownEntries now config backend description, e.1 ≠ olderFormat := by
  have info (a : AppInfo) : ∀ e ∈ a.fields, e.1 ≠ olderFormat := fun e mem same =>
    absurd (same ▸ a.sublist_names.subset (List.mem_map_of_mem mem)) (by decide)
  simp only [ownEntries, optionalText, List.forall_mem_append, forall_mem_optionalField]
  refine ⟨⟨⟨⟨?_, ?_⟩, ?_⟩, ?_⟩, ?_⟩
  · simp [olderFormat, Toggle.key]
  · exact fun _ _ => by decide
  · simp [olderFormat, Toggle.key]
  · split
    · simp [olderFormat, Toggle.key]
    · exact fun _ mem => nomatch mem
  · cases description.info with
    | none => exact fun _ mem => nomatch mem
    | some i => exact info _

/-- What comes from outside stands beside the entries of the run. -/
theorem get?_extend_extend (name : String) :
    ((Dict.empty.extend backend.settings.properties).extend config.properties).get? name
      = given config backend name := by
  simp only [Dict.get?_extend, Dict.get?_empty, Option.or_none, given]

/-- A run whose backend leaves its properties alone says what it says of itself, and what it says
about the older format. -/
theorem properties_of_unchanged (unchanged : ∀ p, backend.hooks.processOptions p = .ok p) :
    ∃ p, properties now config backend description = .ok p ∧
      (∀ name, p.extra.get? name = given config backend name) ∧
      ∀ e, e ∈ p.ownFields ↔ e ∈ ownEntries now config backend description ∨
        e ∈ optionalField olderFormat (olderFormatEntry config backend) := by
  refine ⟨_, by rw [properties, unchanged]; rfl, get?_extend_extend, fun e => ?_⟩
  have older : olderFormatEntry config backend =
      (if ((config.overrides.get .useOas2).or (config.propertyToggles.get .useOas2)).isSome &&
          !((Dict.empty.extend backend.settings.properties).extend config.properties).contains
            olderFormat then
        some (Options.resolve (toggleSources config backend)).useOas2
      else none).map Json.bool := by
    rw [Dict.contains, get?_extend_extend, Option.isSome_or, Option.not_isSome, olderFormatEntry,
      asksForOlderFormat]
    split <;> rfl
  have tests (off : Bool) : optionalField "excludeTests"
      ((if off then some true else none).map .bool)
        = if off then [("excludeTests", .bool true)] else [] := by
    cases off <;> rfl
  have parts {front older tests app : List (String × Json)} :
      e ∈ front ++ older ++ tests ++ app ↔ e ∈ front ++ tests ++ app ∨ e ∈ older := by
    simp only [List.mem_append]
    grind
  rw [older, ownEntries, ← tests]
  exact parts

/-- Nobody has to ask twice: what comes from outside is not said again by the run. -/
theorem olderFormatEntry_or_given :
    (olderFormatEntry config backend).or (given config backend olderFormat) =
      (given config backend olderFormat).or (if asksForOlderFormat config then
        some (.bool (Options.resolve (toggleSources config backend)).useOas2) else none) := by
  rw [olderFormatEntry]
  cases given config backend olderFormat <;> cases asksForOlderFormat config <;> rfl

/-- **What the properties of a run say, name by name.**  What the run says of itself stands as it
is.  The switch for the older format says what comes from outside, and where nothing does it is
the decided switch, if the run or a property asks for it; that the backend prefers it is not
enough.  Under every other name stands what the configuration says, or else the backend, and
nothing where neither does. -/
theorem properties_layered [Readers] (unchanged : ∀ p, backend.hooks.processOptions p = .ok p) :
    ∃ p, properties now config backend description = .ok p ∧
      (∀ run, info now config backend description = .ok run → run.properties = p.entries) ∧
      (∀ e ∈ ownEntries now config backend description, p.entries.get? e.1 = some e.2) ∧
      p.entries.get? olderFormat = (given config backend olderFormat).or
        (if asksForOlderFormat config then
          some (.bool (Options.resolve (toggleSources config backend)).useOas2)
        else none) ∧
      ∀ name, name ≠ olderFormat →
        (∀ e ∈ ownEntries now config backend description, e.1 ≠ name) →
        p.entries.get? name
          = (config.properties.get? name).or (backend.settings.properties.get? name) := by
  obtain ⟨p, done, outside, own⟩ :=
    @properties_of_unchanged now config backend description unchanged
  simp only [mem_optionalField_iff] at own
  refine ⟨p, done, fun run ok => ?_, fun e mem => p.get?_entries_of_mem ((own e).2 (.inl mem)),
    ?_, fun name ne silent => ?_⟩
  · obtain ⟨q, resolved, ok⟩ := bind_eq_ok_iff.1 ok
    obtain ⟨_, -, same⟩ := bind_eq_ok_iff.1 ok
    cases done.symm.trans resolved
    cases same
    rfl
  · rw [← olderFormatEntry_or_given]
    cases entry : olderFormatEntry config backend with
    | some value => exact p.get?_entries_of_mem ((own (olderFormat, value)).2 (.inr ⟨rfl, entry⟩))
    | none =>
        rw [p.get?_entries_of_forall_ne, outside, Option.none_or]
        intro e mem
        rcases (own e).1 mem with ofRun | ⟨-, older⟩
        · exact ne_olderFormat_of_mem_ownEntries e ofRun
        · cases entry.symm.trans older
  · rw [p.get?_entries_of_forall_ne, outside, given]
    intro e mem
    rcases (own e).1 mem with ofRun | ⟨older, -⟩
    · exact silent e ofRun
    · exact older ▸ ne.symm

end Layers

/-- The backend of a manifest that declares properties and prefers the older format. -/
def themedBackend : Backend :=
  ManifestBackend.toBackend ⟨{ Manifest.standard with
    properties := .ofList [("theme", .str "dark"), ("flavour", .str "plain")]
    toggles := ToggleLayer.empty.set .useOas2 (some true) }, ⟨""⟩, none⟩

/-- A configuration whose properties have names that others use as well. -/
def shadowingConfig : Config :=
  { Config.standard with properties := .ofList [("flavour", .str "spiced"),
      ("generatorClass", .str "mine"), ("appName", .str "Mine"), ("version", .str "0")] }

/-- An API without a name. -/
def namelessApi : Description :=
  { Description.empty with
    info := some { (default : Info) with version := some "2.0" } }

theorem properties_layered_shadowed :
    (∀ p, themedBackend.hooks.processOptions p = .ok p) ∧
      ∃ p, properties ⟨"", ""⟩ shadowingConfig themedBackend namelessApi = .ok p ∧
        p.entries.get? "theme" = some (.str "dark") ∧
        p.entries.get? "flavour" = some (.str "spiced") ∧
        p.entries.get? "generatorClass" = some (.str Product.manifestBackendName) ∧
        p.entries.get? "appName" = some (.str "Mine") ∧
        p.entries.get? "version" = some (.str "2.0") ∧
        p.entries.get? olderFormat = none := by
  have unchanged : ∀ p, themedBackend.hooks.processOptions p = .ok p := fun _ => rfl
  obtain ⟨p, done, -, own, older, others⟩ :=
    @properties_layered ⟨"", ""⟩ shadowingConfig themedBackend namelessApi .standard unchanged
  have silent : ∀ name ∈ ["theme", "flavour", "appName"],
      ∀ e ∈ ownEntries ⟨"", ""⟩ shadowingConfig themedBackend namelessApi, e.1 ≠ name := by
    decide
  have outside : ∀ name ∈ ["theme", "flavour", "appName"], p.entries.get? name
      = (shadowingConfig.properties.get? name).or (themedBackend.settings.properties.get? name) :=
    fun name mem => others name (by rintro rfl; revert mem; decide) (silent name mem)
  refine ⟨unchanged, p, done, ?_, ?_, ?_, ?_, ?_, older⟩
  · exact outside "theme" (by decide)
  · exact outside "flavour" (by decide)
  · exact own ("generatorClass", _) (List.mem_of_getElem? (i := 3) rfl)
  · exact outside "appName" (by decide)
  · exact own ("version", _) (List.mem_of_getElem? (i := 11) rfl)

end Job

end ApiForge
