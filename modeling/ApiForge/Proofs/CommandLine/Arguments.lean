import ApiForge.Backend.ManifestBackend
import ApiForge.CommandLine.Arguments
import ApiForge.Proofs.Dict
import ApiForge.Proofs.Except
import ApiForge.Run
/-
# ApiForge.Proofs.CommandLine.Arguments -- arguments are stronger than variables

Laying arguments over a configuration changes it part by part (`Arguments.Applied`): a toggle
keeps its value unless an argument says something about it, a category keeps what narrows it
down unless it is asked for, and a property keeps its value unless there is a definition for
it.  In every part the outcome is `asked.or found`, so what was found shows only where nothing
is asked, and asking once more changes nothing.

What a run then does is decided by the three layers of toggles and by the lists together with
the switch for all supporting files.  None of them leaks through an argument
(`Arguments.apply_overrules`).
-/

namespace ApiForge

set_option autoImplicit false

/-! ## Toggles -/

namespace ToggleLayer

variable {l : ToggleLayer}

/-- A layer is nothing but what it says about every toggle. -/
theorem ext_get {m : ToggleLayer} (same : ∀ t, l.get t = m.get t) : l = m := by
  cases l
  cases m
  rw [mk.injEq]
  exact ⟨same .apis, same .models, same .supportingFiles, same .modelTests, same .modelDocs,
    same .apiTests, same .apiDocs, same .useOas2⟩

/-- Set a toggle, if there is a value for it. -/
def lay (l : ToggleLayer) (t : Toggle) : Option Bool → ToggleLayer
  | some on => l.set t (some on)
  | none => l

theorem get_lay (t u : Toggle) (said : Option Bool) :
    (l.lay t said).get u = if u = t then said.or (l.get u) else l.get u := by
  cases said with
  | none => rw [lay, Option.none_or, ite_self]
  | some on =>
      rw [lay, Option.some_or]
      split
      · rename_i same
        rw [same, get_set_self]
      · rename_i other
        exact get_set_of_ne l _ other

end ToggleLayer

namespace Options

def get (o : Options) : Toggle → Bool
  | .apis => o.apis
  | .models => o.models
  | .supportingFiles => o.supportingFiles
  | .modelTests => o.modelTests
  | .modelDocs => o.modelDocs
  | .apiTests => o.apiTests
  | .apiDocs => o.apiDocs
  | .useOas2 => o.useOas2

theorem get_resolve (s : ToggleSources) (t : Toggle) :
    (resolve s).get t = (s.probe t).getD (s.fallback t) := by
  cases t <;> rfl

/-- **What the run itself asks for is done**, whatever the other layers say. -/
theorem get_resolve_of_explicit {s : ToggleSources} {t : Toggle} {on : Bool}
    (asked : s.explicit.get t = some on) : (resolve s).get t = on := by
  rw [get_resolve, ToggleSources.probe, asked, Option.some_or, Option.getD_some]

end Options

/-! ## Lists that narrow something down -/

theorem NameSet.isEmpty_eq_true_iff {s : NameSet} : s.isEmpty = true ↔ s = .empty := by
  rw [isEmpty, List.isEmpty_iff, empty, mk.injEq]

namespace Config

variable {c : Config} {names : Option NameSet}

theorem narrowing_eq_some_iff {s : NameSet} :
    narrowing names = some s ↔ names = some s ∧ s ≠ .empty := by
  rw [narrowing, Option.filter_eq_some_iff, Bool.not_eq_true', ← Bool.not_eq_true,
    NameSet.isEmpty_eq_true_iff]

theorem narrowing_eq_none_iff : narrowing names = none ↔ ∀ s, names = some s → s = .empty := by
  simp only [narrowing, Option.filter_eq_none_iff, Bool.not_eq_true', Bool.not_eq_false,
    NameSet.isEmpty_eq_true_iff]

@[simp] theorem narrowing_narrowing : narrowing (narrowing names) = narrowing names := by
  rw [narrowing, narrowing, Option.filter_filter]
  simp only [Bool.and_self]

/-- What a category is narrowed down to; all of it is wanted where there is nothing. -/
def filterOf (c : Config) : Toggle → Option NameSet
  | .apis => c.apiFilter
  | .models => c.modelFilter
  | .supportingFiles => bif c.supportingFilesAll then none else narrowing c.supportingFiles
  | _ => none

theorem wants_eq (destination : String) :
    c.wants destination = (c.filterOf .supportingFiles).all fun names =>
      names.contains destination := by
  rw [wants, filterOf]
  cases c.supportingFilesAll
  · rw [Bool.false_or]
    cases narrowing c.supportingFiles <;> rfl
  · rfl

end Config

namespace Arguments

open Config (splitList narrowing)

variable {a : Arguments} {c applied : Config} {backend : Backend}

/-! ## What arguments say -/

/-- The argument that asks for a category, with or without a list. -/
def asksFor (a : Arguments) : Toggle → Option (Option String)
  | .apis => a.apis
  | .models => a.models
  | .supportingFiles => a.supportingFiles
  | _ => none

/-- Is there an argument that switches the toggle off? -/
def forbids (a : Arguments) : Toggle → Bool
  | .modelTests => a.noModelTests
  | .modelDocs => a.noModelDocs
  | .apiTests => a.noApiTests
  | .apiDocs => a.noApiDocs
  | _ => false

/-- What the arguments say about a toggle. -/
def wish (a : Arguments) (t : Toggle) : Option Bool :=
  bif (a.asksFor t).isSome then some true else bif a.forbids t then some false else none

theorem wish_of_asksFor {t : Toggle} {raw : Option String} (asked : a.asksFor t = some raw) :
    a.wish t = some true := by
  rw [wish, asked]
  rfl

/-- Nothing that is switched off can be asked for. -/
theorem asksFor_of_forbids {t : Toggle} (off : a.forbids t = true) : a.asksFor t = none := by
  cases t <;> first | rfl | cases off

theorem wish_of_forbids {t : Toggle} (off : a.forbids t = true) : a.wish t = some false := by
  rw [wish, asksFor_of_forbids off, off]
  rfl

theorem wish_eq_none {t : Toggle} (unasked : a.asksFor t = none) (free : a.forbids t = false) :
    a.wish t = none := by
  rw [wish, unasked, free]
  rfl

/-! ## Definitions -/

/-- The properties that definitions stand for, in the order in which they are given. -/
def entriesOf (definitions : List String) : List (String × Json) :=
  definitions.filterMap fun raw => (Definition.parse raw).toOption

theorem mem_entriesOf_iff {definitions : List String} {e : String × Json} :
    e ∈ entriesOf definitions ↔ ∃ raw ∈ definitions, Definition.parse raw = .ok e := by
  simp only [entriesOf, List.mem_filterMap]
  refine exists_congr fun raw => and_congr_right fun _ => ⟨eq_ok_of_toOption, fun parsed => ?_⟩
  rw [parsed]
  rfl

/-- Definitions are put in, one after the other, where every one of them is one. -/
theorem addDefinitions_eq_ok_iff {definitions : List String} {properties added : Dict Json} :
    addDefinitions definitions properties = .ok added ↔
      (∀ raw ∈ definitions, ∃ e, Definition.parse raw = .ok e) ∧
        (entriesOf definitions).foldl (fun acc e => acc.insert e.1 e.2) properties = added := by
  induction definitions generalizing properties with
  | nil => simp [addDefinitions, entriesOf]
  | cons raw rest ih =>
      rw [addDefinitions, List.forall_mem_cons]
      cases parsed : Definition.parse raw with
      | error e => simp
      | ok e =>
          have entries : entriesOf (raw :: rest) = e :: entriesOf rest :=
            List.filterMap_cons_some (by rw [parsed]; rfl)
          simp [ih, entries]

/-- **Of the definitions of one property the last one counts**, and it counts more than what
the property was before. -/
theorem get?_of_addDefinitions {definitions : List String} {properties added : Dict Json}
    (done : addDefinitions definitions properties = .ok added) (key : String) :
    added.get? key =
      (Entries.get? (entriesOf definitions).reverse key).or (properties.get? key) := by
  obtain ⟨-, rfl⟩ := addDefinitions_eq_ok_iff.1 done
  exact Dict.get?_foldl_insert _ _ key

theorem get?_entriesOf_append {before after : List String} {raw key : String} {value : Json}
    (parsed : Definition.parse raw = .ok (key, value))
    (last : ∀ later ∈ after, ∀ v, Definition.parse later ≠ .ok (key, v)) :
    Entries.get? (entriesOf (before ++ raw :: after)).reverse key = some value := by
  have entries : entriesOf (before ++ raw :: after)
      = entriesOf before ++ (key, value) :: entriesOf after := by
    rw [entriesOf, List.filterMap_append]
    exact congrArg _ (List.filterMap_cons_some (by rw [parsed]; rfl))
  have none : Entries.get? (entriesOf after).reverse key = .none := by
    refine Entries.get?_eq_none_of_forall_ne fun e mem same => ?_
    obtain ⟨later, place, reads⟩ := mem_entriesOf_iff.1 (List.mem_reverse.1 mem)
    exact last later place e.2 (same ▸ reads)
  rw [entries, List.reverse_append, List.reverse_cons, Entries.get?_append, Entries.get?_append,
    none]
  simp [Entries.get?]

theorem get?_entriesOf_eq_none {definitions : List String} {key : String}
    (undefined : ∀ raw ∈ definitions, ∀ v, Definition.parse raw ≠ .ok (key, v)) :
    Entries.get? (entriesOf definitions).reverse key = none := by
  refine Entries.get?_eq_none_of_forall_ne fun e mem same => ?_
  obtain ⟨raw, place, reads⟩ := mem_entriesOf_iff.1 (List.mem_reverse.1 mem)
  exact undefined raw place e.2 (same ▸ reads)

/-! ## Arguments over a configuration -/

/-- What arguments make of a configuration, part by part. -/
structure Applied (a : Arguments) (c applied : Config) : Prop where
  overrides : ∀ t, applied.overrides.get t = (a.wish t).or (c.overrides.get t)
  propertyToggles : applied.propertyToggles = c.propertyToggles
  apis : applied.apis = a.apis.elim c.apis selection
  models : applied.models = a.models.elim c.models selection
  /-- A list that was there stays, but then it does not count. -/
  supportingFiles : applied.supportingFiles =
    a.supportingFiles.elim c.supportingFiles fun raw => (selection raw).or c.supportingFiles
  supportingFilesAll : applied.supportingFilesAll =
    a.supportingFiles.elim c.supportingFilesAll fun raw => (selection raw).isNone
  generateMetadata : applied.generateMetadata = (c.generateMetadata && !a.noMetadata)
  ignoreFile : applied.ignoreFile = a.ignoreFile.or c.ignoreFile
  inputSpec : applied.inputSpec = some a.spec.text
  debug : applied.debug = c.debug
  properties : addDefinitions a.definitions c.properties = .ok applied.properties

theorem applyApis_eq : a.applyApis c =
    { c with
      overrides := c.overrides.lay .apis (a.wish .apis)
      apis := a.apis.elim c.apis selection } := by
  rw [applyApis, wish, asksFor]
  cases a.apis <;> rfl

theorem applyModels_eq : a.applyModels c =
    { c with
      overrides := c.overrides.lay .models (a.wish .models)
      models := a.models.elim c.models selection } := by
  rw [applyModels, wish, asksFor]
  cases a.models <;> rfl

theorem applySupportingFiles_eq : a.applySupportingFiles c =
    { c with
      overrides := c.overrides.lay .supportingFiles (a.wish .supportingFiles)
      supportingFiles :=
        a.supportingFiles.elim c.supportingFiles fun raw => (selection raw).or c.supportingFiles
      supportingFilesAll :=
        a.supportingFiles.elim c.supportingFilesAll fun raw => (selection raw).isNone } := by
  rw [applySupportingFiles, wish, asksFor]
  cases a.supportingFiles with
  | none => rfl
  | some raw =>
      simp only [Option.elim_some]
      cases selection raw <;> rfl

theorem switchOff_eq (t : Toggle) (asked : Bool) : switchOff asked t c =
    { c with overrides := c.overrides.lay t (bif asked then some false else none) } := by
  cases asked <;> rfl

theorem applied_of_apply (done : a.apply c = .ok applied) : a.Applied c applied := by
  obtain ⟨properties, added, rfl⟩ := map_eq_ok_iff.1 done
  simp only [switchOff_eq, applySupportingFiles_eq, applyModels_eq, applyApis_eq] at added ⊢
  refine ⟨fun t => ?_, rfl, rfl, rfl, rfl, rfl, rfl, rfl, rfl, rfl, added⟩
  -- every toggle is set in one place only
  cases t <;> simp [ToggleLayer.get_lay, wish, asksFor, forbids]

/-- The parts leave no choice. -/
theorem Applied.eq {other : Config} (done : a.Applied c applied) (also : a.Applied c other) :
    applied = other := by
  have overrides : applied.overrides = other.overrides :=
    ToggleLayer.ext_get fun t => (done.overrides t).trans (also.overrides t).symm
  have properties : applied.properties = other.properties :=
    Except.ok.inj (done.properties.symm.trans also.properties)
  have propertyToggles := done.propertyToggles.trans also.propertyToggles.symm
  have apis := done.apis.trans also.apis.symm
  have models := done.models.trans also.models.symm
  have supportingFiles := done.supportingFiles.trans also.supportingFiles.symm
  have supportingFilesAll := done.supportingFilesAll.trans also.supportingFilesAll.symm
  have generateMetadata := done.generateMetadata.trans also.generateMetadata.symm
  have ignoreFile := done.ignoreFile.trans also.ignoreFile.symm
  have inputSpec := done.inputSpec.trans also.inputSpec.symm
  have debug := done.debug.trans also.debug.symm
  cases applied
  cases other
  simp_all only

/-- Definitions that are put in once more change nothing. -/
theorem addDefinitions_again {definitions : List String} {properties added : Dict Json}
    (done : addDefinitions definitions properties = .ok added) :
    addDefinitions definitions added = .ok added := by
  have redone := addDefinitions_eq_ok_iff.2
    ⟨(addDefinitions_eq_ok_iff.1 done).1, @rfl _ (List.foldl _ added _)⟩
  rw [redone]
  refine congrArg Except.ok (Dict.ext_get? fun key => ?_)
  rw [get?_of_addDefinitions redone, get?_of_addDefinitions done, ← Option.or_assoc,
    Option.or_self]

/-- What was made of a configuration is what is made of it again. -/
theorem Applied.again (done : a.Applied c applied) : a.Applied applied applied where
  overrides t := by rw [done.overrides, ← Option.or_assoc, Option.or_self]
  propertyToggles := rfl
  apis := by rw [done.apis]; cases a.apis <;> rfl
  models := by rw [done.models]; cases a.models <;> rfl
  supportingFiles := by
    rw [done.supportingFiles]
    cases a.supportingFiles with
    | none => rfl
    | some raw => simp only [Option.elim_some, ← Option.or_assoc, Option.or_self]
  supportingFilesAll := by rw [done.supportingFilesAll]; cases a.supportingFiles <;> rfl
  generateMetadata := by rw [done.generateMetadata, Bool.and_assoc, Bool.and_self]
  ignoreFile := by rw [done.ignoreFile, ← Option.or_assoc, Option.or_self]
  inputSpec := done.inputSpec
  debug := rfl
  properties := addDefinitions_again done.properties

theorem exists_apply_iff : (∃ applied, a.apply c = .ok applied) ↔
    ∀ raw ∈ a.definitions, ∃ e, Definition.parse raw = .ok e := by
  simp only [apply, map_eq_ok_iff, addDefinitions_eq_ok_iff]
  constructor
  · rintro ⟨_, _, ⟨sound, -⟩, -⟩
    exact sound
  · exact fun sound => ⟨_, _, ⟨sound, rfl⟩, rfl⟩

/-- **To apply arguments twice is to apply them once.** -/
theorem apply_again (done : a.apply c = .ok applied) : a.apply applied = .ok applied := by
  obtain ⟨again, redone⟩ := exists_apply_iff.2 (exists_apply_iff.1 ⟨_, done⟩)
  rw [redone, (applied_of_apply redone).eq (applied_of_apply done).again]

/-! ## What a run makes of them -/

theorem Applied.filterOf_eq (done : a.Applied c applied) (t : Toggle) :
    applied.filterOf t = (a.asksFor t).elim (c.filterOf t) selection := by
  cases t with
  | apis =>
      rw [Config.filterOf, Config.apiFilter, done.apis, asksFor]
      cases a.apis with
      | none => rfl
      | some raw => exact Config.narrowing_narrowing
  | models =>
      rw [Config.filterOf, Config.modelFilter, done.models, asksFor]
      cases a.models with
      | none => rfl
      | some raw => exact Config.narrowing_narrowing
  | supportingFiles =>
      rw [Config.filterOf, done.supportingFilesAll, done.supportingFiles, asksFor]
      cases a.supportingFiles with
      | none => rfl
      | some raw =>
          simp only [Option.elim_some]
          cases listed : selection raw with
          | none => rfl
          | some names =>
              rw [Option.isNone_some, Option.some_or, ← listed]
              exact Config.narrowing_narrowing
  | _ => rfl

/-- Arguments are stronger than a configuration, and where they say nothing the configuration
holds.  A run with the backend is decided by the outcome in this way. -/
structure Overrules (a : Arguments) (backend : Backend) (c applied : Config) : Prop where
  /-- A category that is asked for is produced. -/
  asked : ∀ t raw, a.asksFor t = some raw →
    (Options.resolve (Job.toggleSources applied backend)).get t = true
  /-- It is narrowed down to the names of its own list. -/
  listed : ∀ t list, a.asksFor t = some (some list) → splitList list ≠ .empty →
    applied.filterOf t = some (splitList list)
  /-- It is not narrowed down where there are no names. -/
  unlisted : ∀ t raw, a.asksFor t = some raw →
    (∀ list, raw = some list → splitList list = .empty) → applied.filterOf t = none
  /-- The same for the destinations of supporting files. -/
  wanted : ∀ raw, a.supportingFiles = some raw → ∀ destination,
    (applied.wants destination = true ↔
      ∀ list, raw = some list → splitList list ≠ .empty → destination ∈ splitList list)
  /-- A category that is not asked for is as narrow as before. -/
  unasked : ∀ t, a.asksFor t = none → applied.filterOf t = c.filterOf t
  wantedBefore : a.supportingFiles = none →
    ∀ destination, applied.wants destination = c.wants destination
  /-- What was said about a toggle that no argument is about is still said of it. -/
  untouched : ∀ t, a.asksFor t = none → a.forbids t = false →
    applied.overrides.get t = c.overrides.get t
  /-- What the variables say is nowhere replaced, only outvoted. -/
  external : applied.propertyToggles = c.propertyToggles
  /-- What is switched off is not produced. -/
  forbidden : ∀ t, a.forbids t = true →
    (Options.resolve (Job.toggleSources applied backend)).get t = false
  noMetadata : a.noMetadata = true → applied.generateMetadata = false
  /-- Of the definitions of one property the last one holds, whatever the property was. -/
  defined : ∀ before raw after key value, a.definitions = before ++ raw :: after →
    Definition.parse raw = .ok (key, value) →
    (∀ later ∈ after, ∀ v, Definition.parse later ≠ .ok (key, v)) →
    applied.properties.get? key = some value
  undefined : ∀ key, (∀ raw ∈ a.definitions, ∀ v, Definition.parse raw ≠ .ok (key, v)) →
    applied.properties.get? key = c.properties.get? key

theorem Applied.overrules (done : a.Applied c applied) : a.Overrules backend c applied where
  asked t raw asked := by
    refine Options.get_resolve_of_explicit ?_
    rw [Job.toggleSources, done.overrides, wish_of_asksFor asked, Option.some_or]
  listed t list asked some := by
    rw [done.filterOf_eq, asked, Option.elim_some, selection]
    exact Config.narrowing_eq_some_iff.2 ⟨rfl, some⟩
  unlisted t raw asked none := by
    rw [done.filterOf_eq, asked, Option.elim_some, selection, Config.narrowing_eq_none_iff]
    rintro names listed
    obtain ⟨list, given, rfl⟩ := Option.map_eq_some_iff.1 listed
    exact none list given
  wanted raw asked destination := by
    have filter : applied.filterOf .supportingFiles = selection raw := by
      rw [done.filterOf_eq, asksFor, asked, Option.elim_some]
    rw [Config.wants_eq, filter, Option.all_eq_true]
    simp only [selection, Config.narrowing_eq_some_iff, Option.map_eq_some_iff,
      NameSet.contains_iff]
    grind
  unasked t unasked := by rw [done.filterOf_eq, unasked, Option.elim_none]
  wantedBefore unasked destination := by
    rw [Config.wants_eq, Config.wants_eq, done.filterOf_eq, asksFor, unasked, Option.elim_none]
  untouched t unasked free := by
    rw [done.overrides, wish_eq_none unasked free, Option.none_or]
  external := done.propertyToggles
  forbidden t off := by
    refine Options.get_resolve_of_explicit ?_
    rw [Job.toggleSources, done.overrides, wish_of_forbids off, Option.some_or]
  noMetadata asked := by rw [done.generateMetadata, asked, Bool.not_true, Bool.and_false]
  defined before raw after key value given parsed last := by
    rw [get?_of_addDefinitions done.properties, given, get?_entriesOf_append parsed last,
      Option.some_or]
  undefined key none := by
    rw [get?_of_addDefinitions done.properties, get?_entriesOf_eq_none none, Option.none_or]

/-- **Arguments are stronger than everything else that is said about a run.**  Those whose
definitions are sound can be laid over any configuration, that of the variables in particular;
what they say holds, what they say nothing about stays, and laying them over the outcome once
more changes nothing. -/
theorem apply_overrules (a : Arguments) (c : Config) (backend : Backend)
    (sound : ∀ raw ∈ a.definitions, ∃ e, Definition.parse raw = .ok e) :
    ∃ applied, a.apply c = .ok applied ∧ a.Overrules backend c applied ∧
      a.apply applied = .ok applied := by
  obtain ⟨applied, done⟩ := exists_apply_iff.2 sound
  exact ⟨applied, done, (applied_of_apply done).overrules, apply_again done⟩

/-- Tags and supporting files are asked for without a list, models are not asked for. -/
def broad : Arguments :=
  { spec := ⟨"api.yaml"⟩
    manifest := none
    output := none
    apis := some none
    models := none
    supportingFiles := some (some " , ")
    noModelTests := true
    noModelDocs := false
    noApiTests := false
    noApiDocs := false
    noMetadata := false
    ignoreFile := none
    dryRun := false
    definitions := ["size=1", " size =2"] }

/-- Variables that switch tags off and narrow the other categories down. -/
def narrowVariables : String → Option String
  | "BRRTR_GEN_APIS" => some "false"
  | "BRRTR_GEN_MODELS" => some "Pet"
  | "BRRTR_GEN_SUPPORTING_FILES" => some "README.md"
  | "BRRTR_GEN_MODEL_TESTS" => some "true"
  | _ => none

/-- The list of the variables does not show in a category that is asked for without one. -/
theorem apply_overrules_broad :
    (∀ raw ∈ broad.definitions, ∃ e, Definition.parse raw = .ok e) ∧
      (Config.ofVariables narrowVariables).wants "pom.xml" = false ∧
      ∃ applied, broad.apply (.ofVariables narrowVariables) = .ok applied ∧
        applied.wants "pom.xml" = true ∧
        (Options.resolve (Job.toggleSources applied
          (ManifestBackend.toBackend ⟨.standard, ⟨""⟩, none⟩))).get .apis = true ∧
        (Options.resolve (Job.toggleSources applied
          (ManifestBackend.toBackend ⟨.standard, ⟨""⟩, none⟩))).get .modelTests = false ∧
        applied.filterOf .models = some (.ofList ["Pet"]) ∧
        applied.properties.get? "size" = some (.int 2) := by
  have sound : ∀ raw ∈ broad.definitions, ∃ e, Definition.parse raw = .ok e :=
    List.forall_mem_cons.2 ⟨⟨("size", .int 1), rfl⟩,
      List.forall_mem_singleton.2 ⟨("size", .int 2), rfl⟩⟩
  obtain ⟨applied, done, overruled, -⟩ := apply_overrules broad (.ofVariables narrowVariables)
    (ManifestBackend.toBackend ⟨.standard, ⟨""⟩, none⟩) sound
  refine ⟨sound, by decide, applied, done, ?_, overruled.asked .apis none rfl,
    overruled.forbidden .modelTests rfl, ?_, ?_⟩
  · refine (overruled.wanted _ rfl _).2 fun list given some => absurd ?_ some
    cases given
    decide
  · rw [overruled.unasked .models rfl]
    decide
  · exact overruled.defined ["size=1"] " size =2" [] "size" (.int 2) rfl rfl
      fun later mem => absurd mem List.not_mem_nil

end Arguments

end ApiForge
