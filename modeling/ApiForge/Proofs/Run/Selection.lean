import ApiForge.Proofs.Models.Selected
import ApiForge.Proofs.Operations.GroupContext
import ApiForge.Proofs.Run.Stages
import ApiForge.Readers.Standard
/-
# ApiForge.Proofs.Run.Selection -- a partial run makes what the whole run makes

A run may be narrowed down: to some models, to some tags, to some supporting files, to some of
the three categories.  None of that reaches what the run as a whole says
(`Job.info_congr`).  With the backend of a manifest a narrower run therefore makes the same
models and the same contexts of groups; only whether there are models at all shows in a group
(`ManifestBackend.run_selects`).
-/

namespace ApiForge

set_option autoImplicit false

/-- Two configurations that ask for the same, apart from what they select: which models, tags
and supporting files, and which of the three categories. -/
structure Config.Alike (a b : Config) : Prop where
  properties : a.properties = b.properties
  inputSpec : a.inputSpec = b.inputSpec
  overrides : ∀ t : Toggle, t.isCategory = false → a.overrides.get t = b.overrides.get t
  propertyToggles : ∀ t : Toggle, t.isCategory = false →
    a.propertyToggles.get t = b.propertyToggles.get t

namespace Job

variable {now : Moment} {config config' : Config} {backend : Backend} {description : Description}

/-! ## What the run as a whole says -/

/-- What decides about a switch that is no category does not depend on the categories. -/
theorem decided_congr (alike : config.Alike config') {t : Toggle} (sub : t.isCategory = false) :
    ((toggleSources config backend).probe t).getD ((toggleSources config backend).fallback t)
      = ((toggleSources config' backend).probe t).getD
        ((toggleSources config' backend).fallback t) := by
  have probed : (toggleSources config backend).probe t
      = (toggleSources config' backend).probe t := by
    simp only [toggleSources, ToggleSources.probe, alike.overrides t sub,
      alike.propertyToggles t sub]
  simp only [probed, ToggleSources.fallback, sub, Bool.false_eq_true, if_false]

theorem stamp_congr (alike : config.Alike config') (p : Properties) :
    p.stamp (toggleSources config backend) (switches config backend)
      = p.stamp (toggleSources config' backend) (switches config' backend) := by
  have apiTests : (switches config backend).apiTests = (switches config' backend).apiTests :=
    decided_congr alike rfl
  have modelTests : (switches config backend).modelTests = (switches config' backend).modelTests :=
    decided_congr alike rfl
  have apiDocs : (switches config backend).apiDocs = (switches config' backend).apiDocs :=
    decided_congr alike rfl
  have modelDocs : (switches config backend).modelDocs = (switches config' backend).modelDocs :=
    decided_congr alike rfl
  have useOas2 : (switches config backend).useOas2 = (switches config' backend).useOas2 :=
    decided_congr alike rfl
  have explicit : (toggleSources config backend).explicit.get .useOas2
      = (toggleSources config' backend).explicit.get .useOas2 := alike.overrides _ rfl
  have external : (toggleSources config backend).external.get .useOas2
      = (toggleSources config' backend).external.get .useOas2 := alike.propertyToggles _ rfl
  rw [Properties.stamp, Properties.stamp, apiTests, modelTests, apiDocs, modelDocs, useOas2,
    explicit, external]

theorem properties_congr (alike : config.Alike config') :
    properties now config backend description = properties now config' backend description := by
  have stamped := @stamp_congr config config' backend alike
  simp only [switches] at stamped
  simp only [properties, alike.properties, alike.inputSpec, stamped]

/-- **What a run selects does not show in what it says as a whole.** -/
theorem info_congr [Readers] (alike : config.Alike config') :
    info now config backend description = info now config' backend description := by
  simp only [info, properties_congr alike]

namespace Stages

variable [Readers] {bundle bundle' : Context}

theorem run_congr (alike : config.Alike config')
    (s : Stages now config backend description bundle)
    (s' : Stages now config' backend description bundle') : s.run = s'.run := by
  have informed := s.informed
  rw [info_congr alike, s'.informed] at informed
  exact (Except.ok.inj informed).symm

/-! ## Groups -/

/-- **A group that two runs make has the same context in both, but for the entry that says
whether there are models.** -/
theorem get?_context_congr (plain : backend.hooks = .none) (alike : config.Alike config')
    (s : Stages now config backend description bundle)
    (s' : Stages now config' backend description bundle') {tag : String}
    {context context' : Context} (made : (tag, context) ∈ s.contexts)
    (made' : (tag, context') ∈ s'.contexts) {name : String} (ne : name ≠ Key.hasModel) :
    context.get? name = context'.get? name := by
  obtain ⟨operations, mem, built⟩ := s.group_of_mem made
  obtain ⟨operations', mem', built'⟩ := s'.group_of_mem made'
  have groups : s.groups = s'.groups :=
    Except.ok.inj ((s.ofDescription_of_mem mem).symm.trans (s'.ofDescription_of_mem mem'))
  have stands := Dict.mem_entries_iff.1 (List.mem_filter.1 mem).1
  have stands' := Dict.mem_entries_iff.1 (List.mem_filter.1 mem').1
  rw [groups, stands'] at stands
  cases stands
  rw [← run_congr alike s s'] at built'
  exact GroupContext.get?_of_build_of_ne plain built built' ne

end Stages

end Job

namespace ManifestBackend

/-! ## Runs of a manifest -/

variable {b : ManifestBackend} {now : Moment} {config config' : Config}
  {description : Description}

open Job

/-- **A partial run makes what the whole run makes.**  Two runs that select differently agree
on every model and, but for the entry that says whether there are models, on the context of
every group that both of them make; and a run of some models makes that part of the table of
all models. -/
theorem run_selects [Readers] {sink sink' : Sink} {bundle bundle' : Context}
    (apart : b.Apart description.schemas) (alike : config.Alike config')
    (done : ((run ⟨some description, some b.toBackend, config, now⟩).run
      (Output.start sink)).1 = .ok bundle)
    (done' : ((run ⟨some description, some b.toBackend, config', now⟩).run
      (Output.start sink')).1 = .ok bundle') :
    ∃ (s : Stages now config b.toBackend description bundle)
      (s' : Stages now config' b.toBackend description bundle'),
      tasks ⟨some description, some b.toBackend, config, now⟩ = s.tasks ∧
      tasks ⟨some description, some b.toBackend, config', now⟩ = s'.tasks ∧
      (∀ className className' m m', Dict.get? s.table className = some m →
        Dict.get? s'.table className' = some m' → m.name = m'.name →
          className = className' ∧ m = m') ∧
      (∀ tag context context', (tag, context) ∈ s.contexts → (tag, context') ∈ s'.contexts →
        ∀ name, name ≠ Key.hasModel → context.get? name = context'.get? name) ∧
      (∀ wanted, config.modelFilter = some wanted → config'.modelFilter = none →
        (switches config b.toBackend).models = true →
        (switches config' b.toBackend).models = true →
        Dict.entries s.table = (Dict.entries s'.table).filter
          fun e => wanted.contains e.2.name) := by
  obtain ⟨s, planned⟩ := stages_of_run done
  obtain ⟨s', planned'⟩ := stages_of_run done'
  have told : s.run.properties = s'.run.properties :=
    congrArg RunInfo.properties (Stages.run_congr alike s s')
  refine ⟨s, s', planned, planned', ?_, ?_, ?_⟩
  · intro className className' m m' stands stands' named
    have built := s.build_of_get? stands
    rw [told] at built
    exact eq_of_get?_of_build apart built (s'.build_of_get? stands') stands stands' named
  · intro tag context context' made made' name ne
    exact Stages.get?_context_congr rfl alike s s' made made' ne
  · intro wanted some_ none_ on on'
    have built := s.build_of_on on
    rw [some_, told] at built
    have builtWhole := s'.build_of_on on'
    rw [none_] at builtWhole
    exact entries_of_build_eq_filter apart built builtWhole

/-- A description with a composed schema, one that it refers to, and a group of operations. -/
def catDescription : Description :=
  { Description.empty with
    components := some ⟨.ofList [
      ("Cat", .object [("allOf", .arr [.object [("$ref", .str "#/components/schemas/Pet")]])]),
      ("Pet", .object [("type", .str "object")])], .empty, .empty⟩
    paths := some (.ofList [("/cats", { (default : PathItem) with
      get := some { (default : Operation) with tags := some ["cats"] } })]) }

/-- A run of one model and of the groups; models and groups have to be asked for. -/
def catConfig : Config :=
  { Config.standard with
    overrides := { ToggleLayer.empty with models := some true, apis := some true }
    models := some (.ofList ["Cat"]) }

theorem run_selects_cats :
    (⟨.standard, ⟨""⟩, none⟩ : ManifestBackend).Apart catDescription.schemas ∧
      catConfig.Alike .standard ∧
      ∃ bundle bundle',
        ((ofManifest .standard catConfig catDescription).run.run
          (Output.start (.recording (Disk.emptyAt [])))).1 = .ok bundle ∧
        ((ofManifest .standard .standard catDescription).run.run
          (Output.start (.recording (Disk.emptyAt [])))).1 = .ok bundle' ∧
        ∃ (s : Stages ⟨"", ""⟩ catConfig (backendOf .standard) catDescription bundle)
          (s' : Stages ⟨"", ""⟩ .standard (backendOf .standard) catDescription bundle'),
          Dict.entries s.table = (Dict.entries s'.table).filter fun e => e.2.name = "Cat" := by
  have apart : (⟨.standard, ⟨""⟩, none⟩ : ManifestBackend).Apart catDescription.schemas := by
    decide
  have alike : catConfig.Alike .standard := by
    refine ⟨rfl, rfl, fun t sub => ?_, fun _ _ => rfl⟩
    cases t <;> first | rfl | cases sub
  have part : ((ofManifest .standard catConfig catDescription).run.run
      (Output.start (.recording (Disk.emptyAt [])))).1.toOption.isSome = true := by
    decide
  have whole : ((ofManifest .standard .standard catDescription).run.run
      (Output.start (.recording (Disk.emptyAt [])))).1.toOption.isSome = true := by
    decide
  obtain ⟨bundle, made⟩ := Option.isSome_iff_exists.1 part
  obtain ⟨bundle', made'⟩ := Option.isSome_iff_exists.1 whole
  have done := eq_ok_of_toOption made
  have done' := eq_ok_of_toOption made'
  obtain ⟨s, s', -, -, -, -, restricted⟩ := run_selects apart alike done done'
  have only (name : String) : (NameSet.ofList ["Cat"]).contains name = decide (name = "Cat") := by
    rw [Bool.eq_iff_iff, NameSet.contains_iff, NameSet.mem_ofList]
    simp
  refine ⟨apart, alike, bundle, bundle', done, done', s, s', ?_⟩
  rw [restricted (.ofList ["Cat"]) (by rfl) (by rfl) (by decide) (by decide)]
  simp only [only]

end ManifestBackend

end ApiForge
