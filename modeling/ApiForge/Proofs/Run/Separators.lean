import ApiForge.Proofs.Models.Kept
import ApiForge.Proofs.Operations.Auth
import ApiForge.Proofs.Operations.Nicknames
import ApiForge.Proofs.Run.Contract
import ApiForge.Proofs.Run.Obliging
import ApiForge.Proofs.Run.Shown
import ApiForge.Proofs.Separators
/-
# ApiForge.Proofs.Run.Separators -- where the lists of a run are separated

The bundle lists groups and models, and a group lists operations.  As long as nobody else uses
the names of the flags, all three lists are marked exactly (`Job.planBundle_separates`).  Groups
and models are marked as copies in the bundle, so the files of a single model or a single group
see no flag for what follows it.  They do see what a property or the description as a whole says
under the name of a flag (`Job.files_show_more_models`).
-/

namespace ApiForge

set_option autoImplicit false

/-! ## Where flags have no rivals -/

/-- Neither schemas nor operations have vendor extensions with the names of flags. -/
structure Description.Unmarked (d : Description) : Prop where
  schemas : ∀ name schema, d.schemas.get? name = some schema →
    ∀ flag ∈ [Key.moreModelsExtension, Key.moreExtension], schema.field? flag = none
  operations : ∀ path verb item operation, d.Declares path verb item operation →
    ∀ flag ∈ [Key.moreModelsExtension, Key.moreExtension], operation.extensions.get? flag = none

namespace Json

/-- What a vendor extension of the model in an entry says. -/
def modelExtension? (entry : Json) (name : String) : Option Json :=
  (entry.field? Key.model).bind (·.extension? name)

/-- The entry without that vendor extension of its model. -/
def withoutModelExtension (entry : Json) (name : String) : Json :=
  entry.modifyField Key.model (·.withoutExtension name)

end Json

theorem TableModel.marked_entryFor {backend : Backend} {model : ModelProjection} {name : String}
    (absent : model.extensions.get? name = none) (schema flag : Json) :
    Marked (·.modelExtension? name) (·.withoutModelExtension name) flag
      (entryFor backend model schema)
      ((entryFor backend model schema).modifyField Key.model
        (setVendorExtension · name flag)) := by
  have stands := @field?_entryFor_model backend model schema
  rw [Json.modifyField_of_field? stands]
  exact (marked_setVendorExtension (Json.isRecord_object _) model.field?_toJson_vendorExtensions
    absent flag).inField (Json.isRecord_object _) stands

theorem OperationProjection.marked_toJson {o : OperationProjection} {name : String}
    (absent : o.extensions.get? name = none) (flag : Json) :
    Marked (·.extension? name) (·.withoutExtension name) flag o.toJson
      (setVendorExtension o.toJson name flag) :=
  marked_setVendorExtension (Json.isRecord_object _) o.field?_toJson_vendorExtensions absent flag

namespace ManifestBackend

variable {b : ManifestBackend} {name : String}

theorem get?_extensions_of_projectSchema {schemaName : String} {schema : Json}
    {model : ModelProjection} (projected : projectSchema schemaName schema = some model)
    (ne : name ≠ Key.aliasExtension) (absent : schema.field? name = none) :
    model.extensions.get? name = none := by
  cases schema with
  | obj fields =>
      cases projected
      have none : Entries.get? (vendorEntries fields).reverse name = none := by
        refine Entries.get?_eq_none_of_forall_ne fun e mem => ?_
        exact Entries.ne_of_get?_eq_none absent e (List.mem_filter.1 (List.mem_reverse.1 mem)).1
      simp only
      rw [Dict.get?_foldl_insert, none, Option.none_or]
      split
      · exact Dict.get?_insert_of_ne _ _ ne.symm
      · rfl
  | _ => cases projected

/-- No model of a table has a vendor extension that no schema has. -/
theorem get?_extensions_of_build {schemas properties : Dict Json} {allowed : Option NameSet}
    {table : ModelTable}
    (ne : name ∉ [Key.aliasExtension, Key.composedExtension])
    (absent : ∀ schemaName schema, schemas.get? schemaName = some schema →
      schema.field? name = none)
    (built : ModelTable.build b.toBackend schemas allowed properties = .ok table) :
    table.Forall fun _ m => m.model.extensions.get? name = none := by
  simp only [List.mem_cons, List.not_mem_nil, or_false, not_or] at ne
  refine ModelTable.forall_of_build_of_made (fun _ _ _ same => same) (fun _ => rfl) ?_ ?_ built
  · intro s mem m made
    have projected := (TableModel.ofSchema_eq_ok made).1
    exact get?_extensions_of_projectSchema (Except.ok.inj projected) ne.1
      (absent s.1 s.2 (mem_candidateSchemas_iff.1 mem).1)
  · intro _ models asked model mem m made
    cases asked
    obtain ⟨e, -, rfl⟩ := List.mem_map.1 mem
    rw [(TableModel.fields_of_ofProjection made).2.2]
    exact Dict.get?_insert_of_ne _ _ (Ne.symm ne.2)

/-- No operation of a group has a vendor extension that no declared operation has. -/
theorem get?_extensions_of_projects {d : Description} {path : String} {verb : Verb}
    {o : OperationProjection} (ne : name ≠ Key.authMethodsExtension)
    (absent : ∀ path verb item operation, d.Declares path verb item operation →
      operation.extensions.get? name = none)
    (projects : d.Projects b.toBackend path verb o) : o.extensions.get? name = none := by
  obtain ⟨item, operation, projected, tags, declared, ok, -, rfl⟩ := projects
  cases ok
  have own : (Dict.ofList (vendorEntries operation.extensions.entries)).get? name = none := by
    refine Dict.get?_ofList_eq_none fun e mem => ?_
    exact Entries.ne_of_get?_eq_none (absent _ _ _ _ declared) e (List.mem_filter.1 mem).1
  cases resolveAuth operation.security d.security d.securitySchemes with
  | nil => exact own
  | cons method methods =>
      rw [OperationProjection.secured_cons]
      exact (Dict.get?_insert_of_ne _ _ ne.symm).trans own

end ManifestBackend

/-! ## Lists that are marked -/

namespace GroupContext

variable {backend : Backend} {tag : String} {operations : List OperationProjection}
  {models : List Json} {run : RunInfo} {context : Context}

/-- The last of the operations of a context is marked. -/
theorem tells_of_build (plain : backend.hooks = .none)
    (silent : run.properties.get? Key.operations = none)
    (unmarked : ∀ o ∈ operations, o.extensions.get? Key.moreExtension = none)
    (built : build backend tag operations models run = .ok context) :
    ∃ items, context.lookup "operations.operation" = some (.arr items) ∧
      Tells (·.extension? Key.moreExtension) none (some (.bool false)) items ∧
      items.map (·.withoutExtension Key.moreExtension)
        = (disambiguateNicknames (sortByNickname operations)).map OperationProjection.toJson := by
  obtain ⟨entry, drafted, listed⟩ := @marked_of_draft backend tag operations run
  have two : Text.splitString (· = '.') "operations.operation"
      = [Key.operations, Key.operation] := by decide
  have marked : ∀ j ∈ (disambiguateNicknames (sortByNickname operations)).map
      OperationProjection.toJson, Marked (·.extension? Key.moreExtension)
        (·.withoutExtension Key.moreExtension) (.bool false) j
        (setVendorExtension j Key.moreExtension (.bool false)) := by
    intro j mem
    obtain ⟨o, inGroup, rfl⟩ := List.mem_map.1 mem
    obtain ⟨p, known, same⟩ := exists_of_mem_disambiguateNicknames inGroup
    exact OperationProjection.marked_toJson (by rw [same]; exact unmarked p known) _
  rw [changeLast_eq] at listed
  refine ⟨_, ?_, tells_last marked⟩
  rw [Context.lookup_dotted two, get?_of_build_of_notMem plain built (by decide), silent,
    Option.none_or, drafted]
  exact listed

end GroupContext

/-! ## Runs -/

/-- The models that are listed, in their order. -/
def ModelTable.shown (backend : Backend) (table : ModelTable) : List TableModel :=
  (table.generated backend).filter fun m => !m.isSuppressed backend

/-- A context that says nothing about what follows it, nor do the models and operations that
it lists. -/
structure Context.Unmarked (c : Context) : Prop where
  hasMore : c.get? Key.hasMore = none
  models : ∀ items, c.get? Key.models = some (.arr items) →
    ∀ entry ∈ items, entry.modelExtension? Key.moreModelsExtension = none
  operations : ∀ items, c.lookup "operations.operation" = some (.arr items) →
    ∀ o ∈ items, o.extension? Key.moreModelsExtension = none

namespace Job

section Separating

variable [Readers] {now : Moment} {config : Config} {b : ManifestBackend}
  {description : Description} {bundle : Context}

theorem vendorExtensions_of_info {backend : Backend} {run : RunInfo}
    (ok : info now config backend description = .ok run) :
    run.vendorExtensions = description.vendorExtensions := by
  obtain ⟨_, -, ok⟩ := bind_eq_ok_iff.1 ok
  obtain ⟨_, -, same⟩ := bind_eq_ok_iff.1 ok
  cases same
  rfl

namespace Stages

variable (s : Stages now config b.toBackend description bundle)

/-! ### What comes from outside -/

/-- What a model does not say itself comes from outside. -/
theorem get?_of_model {className : String} {m : TableModel}
    (stands : Dict.get? s.table className = some m) {name : String}
    (foreign : name ∉ TableModel.contextNames ++ Key.composedExtension :: Properties.ownNames) :
    m.context.get? name = given config b.toBackend name := by
  simp only [List.mem_append, List.mem_cons, not_or] at foreign
  obtain ⟨notModel, notFlag, notRun⟩ := foreign
  rw [← s.get?_properties rfl notRun]
  exact ModelTable.get?_of_build (fun _ => rfl) notModel notFlag (fun _ => rfl)
    (s.build_of_get? stands) className m stands

/-- What a group does not say itself, nor the run for it, comes from outside. -/
theorem get?_of_context {c : String × Context} (made : c ∈ s.contexts) {name : String}
    (foreign : name ∉ GroupContext.draftNames ++ (GroupContext.fixedNames ++
      GroupContext.runNames ++ RunInfo.securityNames) ++ Properties.ownNames) :
    c.2.get? name = given config b.toBackend name := by
  rw [List.mem_append, List.mem_append, not_or, not_or] at foreign
  obtain ⟨⟨notGroup, notFixed⟩, notRun⟩ := foreign
  obtain ⟨operations, -, built⟩ := s.group_of_mem made
  rw [GroupContext.get?_of_build_of_notMem rfl built notFixed, s.get?_properties rfl notRun,
    GroupContext.get?_markLastOperation_draft notGroup, Option.or_none]

/-- The vendor extensions that a model sees come from outside. -/
theorem extension?_of_model {className : String} {m : TableModel}
    (stands : Dict.get? s.table className = some m) (name : String) :
    (Json.ofDict m.context).extension? name
      = (given config b.toBackend Key.vendorExtensions).bind (·.field? name) := by
  rw [Json.extension?, Json.field?_ofDict, s.get?_of_model stands (by decide)]

/-- The vendor extensions that a group sees are those of the description, or they come from
outside where it has none. -/
theorem extension?_of_context {c : String × Context} (made : c ∈ s.contexts) (name : String) :
    (Json.ofDict c.2).extension? name =
      if description.vendorExtensions.isEmpty then
        (given config b.toBackend Key.vendorExtensions).bind (·.field? name)
      else description.vendorExtensions.get? name := by
  obtain ⟨operations, -, built⟩ := s.group_of_mem made
  rw [Json.extension?, Json.field?_ofDict, GroupContext.get?_of_build rfl built,
    GroupContext.get?_fixedEntries_vendorExtensions, vendorExtensions_of_info s.informed,
    s.get?_properties rfl (by decide), GroupContext.get?_runEntries_of_notMem (by decide),
    RunInfo.get?_authEntries_eq_none _ (by decide),
    GroupContext.get?_markLastOperation_draft (by decide)]
  split
  · simp
  · rfl

/-! ### Models and operations without flags -/

section Unmarked

variable (unmarked : description.Unmarked)
include unmarked

theorem get?_extensions_of_model {className : String} {m : TableModel}
    (stands : Dict.get? s.table className = some m) :
    m.model.extensions.get? Key.moreModelsExtension = none :=
  ManifestBackend.get?_extensions_of_build (by decide)
    (fun name schema declared => unmarked.schemas name schema declared _ (by simp))
    (s.build_of_get? stands) className m stands

theorem get?_extensions_of_group {key : String} {operations : List OperationProjection}
    (mem : (key, operations) ∈ s.groups.selected config.apiFilter) {o : OperationProjection}
    (inGroup : o ∈ operations) {flag : String}
    (isFlag : flag ∈ [Key.moreModelsExtension, Key.moreExtension]) :
    o.extensions.get? flag = none := by
  have stores := @OperationGroups.stores_of_appends b.toBackend fun _ _ _ => rfl
  have stands : Dict.get? s.groups key = some operations :=
    Dict.mem_entries_iff.1 (List.mem_filter.1 mem).1
  obtain ⟨path, verb, projects⟩ := OperationGroups.projects_of_mem stores
    (s.ofDescription_of_mem mem) key o (by rw [stands]; exact inGroup)
  refine ManifestBackend.get?_extensions_of_projects ?_
    (fun path verb item operation declared =>
      unmarked.operations path verb item operation declared flag isFlag) projects
  rintro rfl
  exact absurd isFlag (by decide)

end Unmarked

section Silent

variable (silent : ∀ key ∈ [Key.hasMore, Key.models, Key.operations],
  given config b.toBackend key = none)
include silent

theorem faithful {className : String} {m : TableModel}
    (stands : Dict.get? s.table className = some m) : m.Faithful b.toBackend := by
  have own : s.run.properties.get? Key.models = none :=
    (s.get?_properties rfl (by decide)).trans (silent _ (by simp))
  exact ModelTable.faithful_of_build (fun _ => rfl) own (fun _ => rfl) (s.build_of_get? stands)
    className m stands

/-! ### Lists -/

/-- The contexts of all groups but the last are marked. -/
theorem tells_contexts :
    Tells (·.field? Key.hasMore) (some (.bool true)) none
        (markHasMore (s.contexts.map fun c => .ofDict c.2)) ∧
      (markHasMore (s.contexts.map fun c => .ofDict c.2)).map (·.without Key.hasMore)
        = s.contexts.map fun c => .ofDict c.2 := by
  have marked : ∀ j ∈ s.contexts.map fun c => Json.ofDict c.2,
      Marked (·.field? Key.hasMore) (·.without Key.hasMore) (.bool true) j
        (j.setField Key.hasMore (.bool true)) := by
    intro j mem
    obtain ⟨c, made, rfl⟩ := List.mem_map.1 mem
    refine marked_setField (Json.isRecord_ofDict _) ?_ _
    exact (s.get?_of_context made (by decide)).trans (silent _ (by simp))
  rw [markHasMore_eq]
  exact tells_before marked

variable (unmarked : description.Unmarked)
include unmarked

/-- Every model that is listed has an entry of its own. -/
theorem entry_of_shown {m : TableModel} (mem : m ∈ s.table.shown b.toBackend) :
    ∃ schema, m.entry? = some (TableModel.entryFor b.toBackend m.model schema) ∧
      m.model.extensions.get? Key.moreModelsExtension = none := by
  obtain ⟨className, stands⟩ := ModelTable.exists_of_mem_generated (List.mem_filter.1 mem).1
  obtain ⟨schema, first⟩ := (s.faithful silent stands).exists_entry
  exact ⟨schema, first, s.get?_extensions_of_model unmarked stands⟩

/-- The entries of all models but the last are marked. -/
theorem tells_models :
    Tells (·.modelExtension? Key.moreModelsExtension) (some (.bool true)) none
        (Bundle.markMoreModels (s.table.listed b.toBackend)) ∧
      ((Bundle.markMoreModels (s.table.listed b.toBackend)).map
          (·.withoutModelExtension Key.moreModelsExtension)).map some
        = (s.table.shown b.toBackend).map TableModel.entry? := by
  have marked : ∀ j ∈ s.table.listed b.toBackend,
      Marked (·.modelExtension? Key.moreModelsExtension)
        (·.withoutModelExtension Key.moreModelsExtension) (.bool true) j
        (j.modifyField Key.model (setVendorExtension · Key.moreModelsExtension (.bool true))) := by
    intro j mem
    obtain ⟨m, shown, found⟩ := List.mem_filterMap.1 mem
    obtain ⟨schema, first, absent⟩ := s.entry_of_shown silent unmarked shown
    cases first.symm.trans found
    exact TableModel.marked_entryFor absent schema _
  obtain ⟨tells, whole⟩ := tells_before marked
  rw [Bundle.markMoreModels_eq, whole]
  refine ⟨tells, ?_⟩
  rw [ModelTable.listed, List.map_filterMap_some_eq_filter_map_isSome, List.filter_eq_self.2]
  · rfl
  intro found mem
  obtain ⟨m, shown, rfl⟩ := List.mem_map.1 mem
  obtain ⟨schema, first, -⟩ := s.entry_of_shown silent unmarked shown
  rw [first]
  rfl

/-- The last of the operations of a group is marked. -/
theorem tells_operations {c : String × Context} (made : c ∈ s.contexts) :
    ∃ operations items, (c.1, operations) ∈ s.groups.selected config.apiFilter ∧
      c.2.lookup "operations.operation" = some (.arr items) ∧
      Tells (·.extension? Key.moreExtension) none (some (.bool false)) items ∧
      items.map (·.withoutExtension Key.moreExtension)
        = (disambiguateNicknames (sortByNickname operations)).map OperationProjection.toJson := by
  obtain ⟨operations, mem, built⟩ := s.group_of_mem made
  have own : s.run.properties.get? Key.operations = none :=
    (s.get?_properties rfl (by decide)).trans (silent _ (by simp))
  obtain ⟨items, listed⟩ := GroupContext.tells_of_build rfl own
    (fun o inGroup => s.get?_extensions_of_group unmarked mem inGroup (by simp)) built
  exact ⟨operations, items, mem, listed⟩

/-! ### Files -/

/-- Templates of a single model or a single group do not see what follows. -/
theorem unmarked_of_model {className : String} {m : TableModel}
    (stands : Dict.get? s.table className = some m) : m.context.Unmarked where
  hasMore := (s.get?_of_model stands (by decide)).trans (silent _ (by simp))
  models := by
    intro items listed entry mem
    obtain ⟨schema, only⟩ := s.faithful silent stands
    cases only.symm.trans listed
    cases List.mem_singleton.1 mem
    exact (TableModel.marked_entryFor (s.get?_extensions_of_model unmarked stands) schema
      .null).unsaid
  operations := by
    intro items listed
    have two : Text.splitString (· = '.') "operations.operation"
        = [Key.operations, Key.operation] := by decide
    have none : m.context.get? Key.operations = none :=
      (s.get?_of_model stands (by decide)).trans (silent _ (by simp))
    rw [Context.lookup_dotted two, none] at listed
    cases listed

theorem unmarked_of_context {c : String × Context} (made : c ∈ s.contexts) :
    c.2.Unmarked where
  hasMore := (s.get?_of_context made (by decide)).trans (silent _ (by simp))
  models := by
    intro items listed
    have none := (s.get?_of_context made (by decide)).trans
      (silent Key.models (by simp))
    cases none.symm.trans listed
  operations := by
    intro items listed o mem
    obtain ⟨operations, items', inGroups, stands, -, whole⟩ :=
      s.tells_operations silent unmarked made
    cases stands.symm.trans listed
    have cleared := List.mem_map_of_mem (f := (·.withoutExtension Key.moreExtension)) mem
    rw [whole] at cleared
    obtain ⟨p, inGroup, same⟩ := List.mem_map.1 cleared
    obtain ⟨q, known, renamed⟩ := exists_of_mem_disambiguateNicknames inGroup
    have absent : p.extensions.get? Key.moreModelsExtension = none := by
      rw [renamed]
      exact s.get?_extensions_of_group unmarked inGroups known (by simp)
    rw [← o.extension?_withoutExtension_of_ne (show Key.moreModelsExtension ≠ Key.moreExtension by
      decide), ← same]
    exact (OperationProjection.marked_toJson absent .null).unsaid

end Silent

/-- A template that is no supporting file sees the context of a model or of a group. -/
theorem exists_of_render {t : Task} (mem : t ∈ s.tasks) {template : String} {context : Context}
    (making : t.making = .render template context) :
    (∃ className m, Dict.get? s.table className = some m ∧ context = m.context) ∨
      ∃ c ∈ s.contexts, context = c.2 := by
  have sees {subject : Subject} {own : Context} (renders : t.Renders subject own) :
      context = own := by
    obtain ⟨_, made⟩ := renders.making
    cases making.symm.trans made
    rfl
  simp only [tasks, List.mem_append] at mem
  rcases mem with ((inModels | inGroups) | supporting) | stamp
  · obtain ⟨m, generated, inModel⟩ := List.mem_flatMap.1 inModels
    obtain ⟨className, stands⟩ := ModelTable.exists_of_mem_generated generated
    exact .inl ⟨className, m, stands, sees (m.renders_of_mem_tasks inModel)⟩
  · obtain ⟨c, made, inGroup⟩ := List.mem_flatMap.1 inGroups
    exact .inr ⟨c, made, sees (renders_of_mem_groupTasks inGroup)⟩
  · split at supporting
    · obtain ⟨f, -, rfl⟩ := List.mem_map.1 supporting
      cases making
    · cases supporting
  · split at stamp
    · simp only [stampTasks, List.mem_cons, List.not_mem_nil, or_false] at stamp
      rcases stamp with rfl | rfl <;> cases making
    · cases stamp

end Stages

/-- **Separator flags mark all but the last.**  Where no property and no vendor extension goes by
one of their names, the bundle says of every group and of every model but the last that others
follow, and a group says of its last operation that none does.  Without the flags these lists hold
the contexts of the groups, the entries of the models and the operations as they were made.  What
is made of a single model or a single group sees no flag for what follows it; what its context
says under the name of the flag for models comes from a property of that name, and what its vendor
extensions say under it comes from a property or from the description as a whole. -/
theorem planBundle_separates (now : Moment) (config : Config) (b : ManifestBackend)
    (description : Description)
    (silent : ∀ key ∈ [Key.hasMore, Key.models, Key.operations],
      given config b.toBackend key = none)
    (unmarked : description.Unmarked) :
    ∃ bundle, (planBundle now config b.toBackend description).outcome = .ok bundle ∧
      (∀ disk shown, Job.bundle ⟨some description, some b.toBackend, config, now⟩ disk
        = .ok shown → shown = bundle) ∧
      ∃ s : Stages now config b.toBackend description bundle,
        (planBundle now config b.toBackend description).tasks = s.tasks ∧
        (∃ apis, bundle.lookup "apiInfo.apis" = some (.arr apis) ∧
          Tells (·.field? Key.hasMore) (some (.bool true)) none apis ∧
          apis.map (·.without Key.hasMore) = s.contexts.map fun c => .ofDict c.2) ∧
        (∃ models, bundle.get? Key.models = some (.arr models) ∧
          Tells (·.modelExtension? Key.moreModelsExtension) (some (.bool true)) none models ∧
          (models.map (·.withoutModelExtension Key.moreModelsExtension)).map some
            = (s.table.shown b.toBackend).map TableModel.entry?) ∧
        (∀ c ∈ s.contexts, ∃ operations items,
          (c.1, operations) ∈ s.groups.selected config.apiFilter ∧
          c.2.lookup "operations.operation" = some (.arr items) ∧
          Tells (·.extension? Key.moreExtension) none (some (.bool false)) items ∧
          items.map (·.withoutExtension Key.moreExtension)
            = (disambiguateNicknames (sortByNickname operations)).map
              OperationProjection.toJson) ∧
        ∀ t ∈ s.tasks, ∀ template context, t.making = .render template context →
          context.Unmarked ∧
          context.get? Key.moreModelsExtension
            = given config b.toBackend Key.moreModelsExtension ∧
          ((Json.ofDict context).extension? Key.moreModelsExtension
              = (given config b.toBackend Key.vendorExtensions).bind
                (·.field? Key.moreModelsExtension) ∨
            (Json.ofDict context).extension? Key.moreModelsExtension
              = description.vendorExtensions.get? Key.moreModelsExtension) := by
  obtain ⟨bundle, planned⟩ := b.obliging.planBundle now config description
  obtain ⟨s, tasks⟩ := stages_of_planBundle planned
  have drafted := s.bundle_eq_draft rfl
  refine ⟨bundle, planned, fun disk shown done => ?_, s, tasks, ?_, ?_,
    fun c made => s.tells_operations silent unmarked made, ?_⟩
  · exact Except.ok.inj ((outcome_of_bundle done).symm.trans planned)
  · exact ⟨_, (congrArg (·.lookup "apiInfo.apis") drafted).trans Bundle.lookup_draft_apis,
      s.tells_contexts silent⟩
  · exact ⟨_, (congrArg (·.get? Key.models) drafted).trans Bundle.get?_draft_models,
      s.tells_models silent unmarked⟩
  · intro t mem template context making
    rcases s.exists_of_render mem making with ⟨className, m, stands, rfl⟩ | ⟨c, made, rfl⟩
    · exact ⟨s.unmarked_of_model silent unmarked stands, s.get?_of_model stands (by decide),
        .inl (s.extension?_of_model stands _)⟩
    · refine ⟨s.unmarked_of_context silent unmarked made, s.get?_of_context made (by decide), ?_⟩
      rw [s.extension?_of_context made]
      split
      · exact .inl rfl
      · exact .inr rfl

end Separating

/-- Schemas of two models. -/
def catAndDogSchemas : List (String × Json) :=
  [("Cat", .object [("type", .str "object")]), ("Dog", .object [("type", .str "object")])]

/-- Paths that make two groups, the first with two operations. -/
def catAndDogPaths : List (String × PathItem) :=
  let under (tag : String) : Operation := { (default : Operation) with tags := some [tag] }
  [("/cats", { (default : PathItem) with
      get := some (under "cats"), delete := some (under "cats") }),
    ("/dogs", { (default : PathItem) with get := some (under "dogs") })]

def catsAndDogs : Description :=
  { Description.empty with
    components := some ⟨.ofList catAndDogSchemas, .empty, .empty⟩
    paths := some (.ofList catAndDogPaths) }

theorem unmarked_catsAndDogs : catsAndDogs.Unmarked where
  schemas name schema declared flag isFlag := by
    have mem : (name, schema) ∈ catAndDogSchemas :=
      Dict.mem_of_mem_ofList (Entries.mem_of_get? declared)
    simp only [catAndDogSchemas, List.mem_cons, List.not_mem_nil, or_false, Prod.mk.injEq]
      at mem isFlag
    rcases mem with ⟨-, rfl⟩ | ⟨-, rfl⟩ <;> rcases isFlag with rfl | rfl <;> rfl
  operations path verb item operation declared flag _ := by
    obtain ⟨inPaths, declared⟩ := declared
    have mem : (path, item) ∈ catAndDogPaths :=
      Dict.mem_of_mem_ofList (Entries.mem_of_get? inPaths)
    simp only [catAndDogPaths, List.mem_cons, List.not_mem_nil, or_false, Prod.mk.injEq] at mem
    rcases mem with ⟨-, rfl⟩ | ⟨-, rfl⟩ <;> cases verb <;> cases declared <;> rfl

/-- A backend with a template for models, one for groups, and some properties. -/
def catAndDogBackend (properties : List (String × Json)) : ManifestBackend :=
  ⟨{ Manifest.standard with
    templates := { TemplateSets.empty with
      model := .ofList [("m.txt", ".rs")], api := .ofList [("a.txt", ".rs")] }
    properties := .ofList properties }, ⟨""⟩, none⟩

theorem planBundle_separates_cats_and_dogs :
    (∀ key ∈ [Key.hasMore, Key.models, Key.operations],
      given .standard (catAndDogBackend []).toBackend key = none) ∧
      catsAndDogs.Unmarked ∧
      (∃ bundle apis models,
        (planBundle ⟨"", ""⟩ .standard (catAndDogBackend []).toBackend catsAndDogs).outcome
          = .ok bundle ∧
        bundle.lookup "apiInfo.apis" = some (.arr apis) ∧
        apis.map (·.field? Key.hasMore) = [some (.bool true), none] ∧
        bundle.get? Key.models = some (.arr models) ∧
        models.map (·.modelExtension? Key.moreModelsExtension) = [some (.bool true), none]) ∧
      ((planBundle ⟨"", ""⟩ .standard (catAndDogBackend []).toBackend catsAndDogs).tasks.map
        Task.path = [⟨"generated/cat.rs"⟩, ⟨"generated/dog.rs"⟩, ⟨"generated/cats_api.rs"⟩,
          ⟨"generated/dogs_api.rs"⟩, Product.ignoreFilePath ⟨"generated"⟩,
          Product.versionFilePath ⟨"generated"⟩]) ∧
      ∀ t ∈ (planBundle ⟨"", ""⟩ .standard (catAndDogBackend []).toBackend catsAndDogs).tasks,
        ∀ template context, t.making = .render template context →
          context.get? Key.hasMore = none ∧
          context.get? Key.moreModelsExtension = none ∧
          (Json.ofDict context).extension? Key.moreModelsExtension = none := by
  have silent : ∀ key ∈ [Key.hasMore, Key.models, Key.operations],
      given .standard (catAndDogBackend []).toBackend key = none := by
    simp only [List.forall_mem_cons]
    exact ⟨rfl, rfl, rfl, fun _ mem => nomatch mem⟩
  obtain ⟨bundle, planned, -, s, tasks, ⟨apis, listed, tells, -⟩, ⟨models, stands, marked, -⟩, -,
      files⟩ :=
    planBundle_separates ⟨"", ""⟩ .standard (catAndDogBackend []) catsAndDogs silent
      unmarked_catsAndDogs
  have two {read : Json → Option Json} {before last : Option Json} {items : List Json}
      (tells : Tells read before last items) (length : items.length = 2) :
      items.map read = [before, last] := by
    obtain ⟨a, b, rfl⟩ := List.length_eq_two.1 length
    have first := tells 0 a rfl
    have second := tells 1 b rfl
    simpa using And.intro first second
  have lengths : ((planBundle ⟨"", ""⟩ .standard (catAndDogBackend []).toBackend
      catsAndDogs).outcome.toOption.map fun bundle =>
        (((bundle.lookup "apiInfo.apis").bind Json.asItems?).map List.length,
          ((bundle.get? Key.models).bind Json.asItems?).map List.length))
      = some (some 2, some 2) := by decide +kernel
  rw [planned] at lengths
  simp only [Except.toOption, Option.map_some, listed, stands, Option.bind_some, Json.asItems?,
    Option.some.injEq, Prod.mk.injEq] at lengths
  refine ⟨silent, unmarked_catsAndDogs, ⟨bundle, apis, models, planned, listed,
    two tells lengths.1, stands, two marked lengths.2⟩, by decide +kernel, ?_⟩
  intro t mem template context making
  obtain ⟨unmarked, said, extension⟩ := files t (tasks ▸ mem) template context making
  refine ⟨unmarked.hasMore, said, ?_⟩
  rcases extension with fromProperty | fromDescription
  · exact fromProperty
  · exact fromDescription

/-- The description with an extension of that name for the whole. -/
def extendedCatsAndDogs : Description :=
  { catsAndDogs with extensions := .ofList [(Key.moreModelsExtension, .bool true)] }

/-- **A property by the name of the flag for models shows in the files of models and groups, and
an extension of the description as a whole in those of groups.** -/
theorem files_show_more_models :
    (∀ key ∈ [Key.hasMore, Key.models, Key.operations],
      given .standard (catAndDogBackend [(Key.moreModelsExtension, .bool true)]).toBackend key
        = none) ∧
      catsAndDogs.Unmarked ∧
      ((planBundle ⟨"", ""⟩ .standard
          (catAndDogBackend [(Key.moreModelsExtension, .bool true)]).toBackend
          catsAndDogs).tasks.map fun t =>
        match t.making with
        | .render _ context => context.flag? Key.moreModelsExtension
        | _ => none) = [some true, some true, some true, some true, none, none] ∧
      (∀ key ∈ [Key.hasMore, Key.models, Key.operations],
        given .standard (catAndDogBackend []).toBackend key = none) ∧
      extendedCatsAndDogs.Unmarked ∧
      ((planBundle ⟨"", ""⟩ .standard (catAndDogBackend []).toBackend
          extendedCatsAndDogs).tasks.map fun t =>
        match t.making with
        | .render _ context =>
          ((Json.ofDict context).extension? Key.moreModelsExtension).bind Json.asBool?
        | _ => none) = [none, none, some true, some true, none, none] := by
  refine ⟨?_, unmarked_catsAndDogs, by decide +kernel, ?_,
    ⟨unmarked_catsAndDogs.schemas, unmarked_catsAndDogs.operations⟩, by decide +kernel⟩
  · simp only [List.forall_mem_cons]
    exact ⟨rfl, rfl, rfl, fun _ mem => nomatch mem⟩
  · simp only [List.forall_mem_cons]
    exact ⟨rfl, rfl, rfl, fun _ mem => nomatch mem⟩

end Job

end ApiForge
