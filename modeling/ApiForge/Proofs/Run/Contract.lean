import ApiForge.Proofs.Bundle
import ApiForge.Proofs.Models.Table
import ApiForge.Proofs.Run.Stages
import ApiForge.Readers.Standard
/-
# ApiForge.Proofs.Run.Contract -- what templates can rely on

Templates rely on some entries of every context, and properties from outside go into every
context as well.  They take nothing from the bundle.  From a group a property called
`operations` takes the operations, and from a model one called `models` takes the model
(`Job.run_keeps_entries`).  What the run says about itself a bundle says as it is, and a group
says what a property of that name says, if there is one (`Job.bundle_shares`).
-/

namespace ApiForge

set_option autoImplicit false

namespace Job

namespace Stages

variable [Readers] {now : Moment} {config : Config} {backend : Backend}
  {description : Description} {bundle : Context}

theorem get?_properties (plain : backend.hooks = .none)
    (s : Stages now config backend description bundle) {name : String}
    (foreign : name ∉ Properties.ownNames) :
    s.run.properties.get? name = given config backend name :=
  get?_of_info plain s.informed foreign

theorem bundle_eq_draft (plain : backend.hooks = .none)
    (s : Stages now config backend description bundle) :
    bundle = Bundle.draft description (s.table.listed backend)
      (markHasMore (s.contexts.map fun c => .ofDict c.2)) s.run :=
  (Bundle.build_eq_ok_iff plain).1 s.bundled

/-- What a group lacks of what it has to hold. -/
theorem mem_missing_iff (plain : backend.hooks = .none)
    (s : Stages now config backend description bundle) {c : String × Context}
    (made : c ∈ s.contexts) {name : String} :
    name ∈ c.2.missing Key.ofGroup ↔ ∃ value part,
      given config backend Key.operations = some value ∧ part ∈ Key.ofOperations ∧
      value.field? part = none ∧ name = "operations." ++ part := by
  obtain ⟨operations, -, built⟩ := s.group_of_mem made
  rw [GroupContext.mem_missing_iff plain built, s.get?_properties plain (by decide)]

/-- Which models have an entry that holds all that it has to hold. -/
theorem startsWithEntry_iff (plain : backend.hooks = .none)
    (s : Stages now config backend description bundle) {className : String} {m : TableModel}
    (stands : Dict.get? s.table className = some m) :
    (∃ entry, m.entry? = some entry ∧
      ∀ key ∈ Key.ofModelEntry, (entry.field? key).isSome = true) ↔
    ∀ list, given config backend Key.models = some list → TableModel.StartsWithEntry list := by
  have lists := ModelTable.lists_of_build (by rw [plain]; exact fun _ => rfl)
    (by rw [plain]; exact fun _ => rfl) (s.build_of_get? stands) className m stands
  rw [lists.startsWithEntry_iff, s.get?_properties plain (by decide)]

/-- A group that is listed in the bundle says of the run what the bundle says, unless a
property says something else. -/
theorem field?_of_mem_markHasMore (plain : backend.hooks = .none)
    (s : Stages now config backend description bundle) {listed : Json}
    (mem : listed ∈ markHasMore (s.contexts.map fun c => .ofDict c.2)) :
    listed.field? Key.hasModel = bundle.get? Key.hasModel ∧
      ∀ name ∈ Bundle.sharedNames,
        listed.field? name = (given config backend name).or (bundle.get? name) := by
  have names : ∀ name ∈ Bundle.sharedNames,
      name ≠ Key.hasMore ∧ name ∉ Properties.ownNames := by decide
  rw [show s.contexts.map (fun c => Json.ofDict c.2)
    = (s.contexts.map Prod.snd).map .ofDict by simp] at mem
  obtain ⟨context, inContexts, same⟩ := GroupContext.field?_of_mem_markHasMore mem
  obtain ⟨c, made, rfl⟩ := List.mem_map.1 inContexts
  obtain ⟨operations, -, built⟩ := s.group_of_mem made
  rw [s.bundle_eq_draft plain]
  constructor
  · rw [same _ (by decide), GroupContext.get?_of_build_hasModel plain built]
    exact (Bundle.get?_draft_of_mem (e := (Key.hasModel, _))
      (List.mem_of_getElem? (i := 9) rfl)).symm
  · intro name shared
    obtain ⟨notMore, foreign⟩ := names name shared
    rw [same _ notMore, GroupContext.get?_of_build_eq_bundle plain built shared,
      s.get?_properties plain foreign]

end Stages

/-! ## Entries that have to be there -/

/-- **What properties take from the contexts of a run.**  The bundle lacks nothing that it has
to hold.  A group lacks the parts of its operations that a property in their place does not
have, and nothing else.  A model has its entry, unless a property in place of the list of
models starts with something else. -/
theorem run_keeps_entries [Readers] {now : Moment} {config : Config} {backend : Backend}
    {description : Description} {bundle : Context} {sink : Sink} (plain : backend.hooks = .none)
    (done : ((run ⟨some description, some backend, config, now⟩).run (Output.start sink)).1
      = .ok bundle) :
    bundle.missing Key.ofBundle = [] ∧
      ∃ s : Stages now config backend description bundle,
        tasks ⟨some description, some backend, config, now⟩ = s.tasks ∧
        (∀ tag context, (tag, context) ∈ s.contexts → ∀ name,
          name ∈ context.missing Key.ofGroup ↔ ∃ value part,
            given config backend Key.operations = some value ∧ part ∈ Key.ofOperations ∧
            value.field? part = none ∧ name = "operations." ++ part) ∧
        (∀ className m, Dict.get? s.table className = some m →
          ((∃ entry, m.entry? = some entry ∧
            ∀ key ∈ Key.ofModelEntry, (entry.field? key).isSome = true) ↔
          ∀ list, given config backend Key.models = some list →
            TableModel.StartsWithEntry list)) := by
  obtain ⟨s, planned⟩ := stages_of_run done
  refine ⟨?_, s, planned, ?_, ?_⟩
  · rw [s.bundle_eq_draft plain]
    exact Bundle.missing_eq_nil
  · intro tag context made name
    exact s.mem_missing_iff plain made
  · intro className m stands
    exact s.startsWithEntry_iff plain stands

/-- A manifest with one template, for groups. -/
def groupManifest : Manifest :=
  { Manifest.standard with
    outputDir := ⟨"out"⟩
    templates := { TemplateSets.empty with api := .ofList [("a.txt", ".rs")] } }

/-- A description with one model and one group. -/
def petsDescription : Description :=
  { Description.empty with
    components := some ⟨.ofList [("Pet", .object [("type", .str "object")])], .empty, .empty⟩
    paths := some (.ofList [("/pets", { (default : PathItem) with
      get := some { (default : Operation) with tags := some ["pets"] } })]) }

/-- A configuration with properties. -/
def configWith (properties : List (String × Json)) : Config :=
  { Config.standard with generateMetadata := false, properties := .ofList properties }

/-- A run with properties. -/
def withProperties (properties : List (String × Json)) : Job :=
  ofManifest groupManifest (configWith properties) petsDescription

/-- A disk with the template of the manifest. -/
def groupDisk : Disk := (Disk.emptyAt []).put ⟨"templates/a.txt"⟩ (.text "a")

theorem run_keeps_entries_without_operations : (backendOf groupManifest).hooks = .none ∧
    ∃ bundle, ((withProperties [(Key.operations, .null)]).run.run
        (Output.start (.recording groupDisk))).1 = .ok bundle ∧
      bundle.missing Key.ofBundle = [] ∧
      ∃ s : Stages ⟨"", ""⟩ (configWith [(Key.operations, .null)]) (backendOf groupManifest)
          petsDescription bundle,
        ∀ tag context, (tag, context) ∈ s.contexts →
          "operations.pathPrefix" ∈ context.missing Key.ofGroup := by
  have made : ((withProperties [(Key.operations, .null)]).run.run
      (Output.start (.recording groupDisk))).1.toOption.isSome = true := by decide +kernel
  obtain ⟨bundle, made⟩ := Option.isSome_iff_exists.1 made
  have done := eq_ok_of_toOption made
  obtain ⟨whole, s, -, lacks, -⟩ := run_keeps_entries rfl done
  refine ⟨rfl, bundle, done, whole, s, fun tag context mem => ?_⟩
  exact (lacks tag context mem _).2 ⟨.null, Key.pathPrefix, rfl, by decide, rfl, rfl⟩

/-- **Properties take the operations from a group and the entry from a model.** -/
theorem properties_take_entries :
    ((withProperties [(Key.operations, .null)]).bundle groupDisk).toOption.isSome = true ∧
      ((tasks (withProperties [(Key.operations, .null)])).map fun t =>
        match t.making with
        | .render _ context => context.missing Key.ofGroup
        | _ => []) = [["operations.classname", "operations.pathPrefix", "operations.operation"]] ∧
      ((ModelTable.build (backendOf groupManifest) petsDescription.schemas none
        (.ofList [(Key.models, .arr [])])).toOption.map fun table =>
          (Dict.values table).map fun m => (m.name, m.entry?.isSome)) = some [("Pet", false)] := by
  decide +kernel

/-! ## Entries that are said twice -/

/-- **The bundle and the groups in it agree on whether there are models, and on what the run
says wherever no property says something else.**  A group says what a property says, and only
where there is none what the bundle says. -/
theorem bundle_shares [Readers] {now : Moment} {config : Config} {backend : Backend}
    {description : Description} {bundle : Context} {disk : Disk} (plain : backend.hooks = .none)
    (done : Job.bundle ⟨some description, some backend, config, now⟩ disk = .ok bundle) :
    ∃ contexts, bundle.lookup "apiInfo.apis" = some (.arr contexts) ∧
      ∀ context ∈ contexts, context.field? Key.hasModel = bundle.get? Key.hasModel ∧
        ∀ name ∈ Bundle.sharedNames,
          context.field? name = (given config backend name).or (bundle.get? name) := by
  obtain ⟨s, -⟩ := stages_of_run done
  refine ⟨markHasMore (s.contexts.map fun c => .ofDict c.2), ?_, fun context mem => ?_⟩
  · exact (congrArg (·.lookup "apiInfo.apis") (s.bundle_eq_draft plain)).trans
      Bundle.lookup_draft_apis
  · exact s.field?_of_mem_markHasMore plain mem

theorem bundle_shares_elsewhere : ∃ bundle contexts,
    (withProperties [(Key.basePath, .str "/elsewhere")]).bundle groupDisk = .ok bundle ∧
      bundle.lookup "apiInfo.apis" = some (.arr contexts) ∧
      ∀ context ∈ contexts, context.field? Key.basePath = some (.str "/elsewhere") ∧
        context.field? Key.contextPath = bundle.get? Key.contextPath := by
  have made : ((withProperties [(Key.basePath, .str "/elsewhere")]).bundle
      groupDisk).toOption.isSome = true := by decide +kernel
  obtain ⟨bundle, made⟩ := Option.isSome_iff_exists.1 made
  have done := eq_ok_of_toOption made
  obtain ⟨contexts, listed, shares⟩ := bundle_shares rfl done
  refine ⟨bundle, contexts, done, listed, fun context mem => ⟨?_, ?_⟩⟩
  · rw [(shares context mem).2 Key.basePath (by decide)]
    rfl
  · rw [(shares context mem).2 Key.contextPath (by decide)]
    rfl

/-- **A property puts a group elsewhere than the bundle.** -/
theorem property_moves_group :
    ((withProperties [(Key.basePath, .str "/elsewhere")]).bundle groupDisk).toOption.map
        (fun bundle => (bundle.text? Key.basePath,
          ((bundle.lookup "apiInfo.apis").bind Json.asItems?).map
            (·.map fun context => (context.field? Key.basePath).bind Json.asString?)))
      = some (some "http://localhost", some [some "/elsewhere"]) := by
  decide +kernel

end Job

end ApiForge
