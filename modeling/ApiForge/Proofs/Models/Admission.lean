import ApiForge.Proofs.Models.Composed
import ApiForge.Proofs.Output.Rendered
/-
# ApiForge.Proofs.Models.Admission -- what may stand in a table and what may come out of it

A name gets into a table in two ways, as a schema that is wanted and as a composition that is
put in, and a composition with the name of a schema is put in only where the schema is wanted.
So whatever stands in a table under the name of a schema passed both filters
(`ModelTable.passed_of_build`).  A composition may still bring in a name that no schema has and
that stands for a type from elsewhere.  Such a model stays in the table, but it is as if it were
not there when files are made and models are listed (`ModelTable.plan_unmapped`).
-/

namespace ApiForge

set_option autoImplicit false

theorem TypeMapping.isMapped_eq_false_iff {t : TypeMapping} {name : String} :
    t.isMapped name = false ↔
      (t.ignoreImportMapping = false → t.importMapping.contains name = false) := by
  cases hidden : t.ignoreImportMapping <;> simp [isMapped, hidden]

namespace ModelTable

variable {backend : Backend} {schemas properties : Dict Json} {allowed : Option NameSet}
  {table : ModelTable}

/-! ## Getting in -/

/-- A name that passes both filters: it is on the list, where there is one, and it does not
stand for a type from elsewhere, unless nobody asks for that. -/
def Passes (backend : Backend) (allowed : Option NameSet) (name : String) : Prop :=
  (∀ names, allowed = some names → names.contains name = true) ∧
    (backend.types.ignoreImportMapping = false →
      backend.types.importMapping.contains name = false)

theorem passes_iff {name : String} : Passes backend allowed name ↔
    backend.types.isMapped name = false ∧ allowed.all (·.contains name) = true := by
  rw [Passes, ← TypeMapping.isMapped_eq_false_iff, and_comm]
  cases allowed <;> simp

/-- The names of the schemas that are wanted are the declared ones that pass both filters. -/
theorem mem_candidates_iff {name : String} :
    name ∈ (candidateSchemas backend schemas allowed).map Prod.fst ↔
      schemas.contains name = true ∧ Passes backend allowed name := by
  rw [passes_iff, Dict.contains, Option.isSome_iff_exists, List.mem_map]
  constructor
  · rintro ⟨s, mem, rfl⟩
    obtain ⟨declared, passes⟩ := mem_candidateSchemas_iff.1 mem
    exact ⟨⟨s.2, declared⟩, passes⟩
  · rintro ⟨⟨schema, declared⟩, passes⟩
    exact ⟨(name, schema), mem_candidateSchemas_iff.2 ⟨declared, passes⟩, rfl⟩

/-- **What stands in a table under the name of a schema passed both filters.** -/
theorem passed_of_build
    (untouched : ∀ table, backend.hooks.postProcessTable table = .ok table)
    (built : build backend schemas allowed properties = .ok table) :
    table.Forall fun _ m => schemas.contains m.name = true → Passes backend allowed m.name := by
  refine forall_of_build_of_admitted (fun _ _ _ passed => passed) untouched ?_ ?_ built
  · intro s mem m made _
    obtain ⟨-, fields⟩ := TableModel.ofSchema_eq_ok made
    rw [(fields m rfl).1]
    exact (mem_candidates_iff.1 (List.mem_map_of_mem mem)).2
  · intro _ _ _ model _ admits m made declared
    rw [(TableModel.fields_of_ofProjection made).1] at declared ⊢
    rw [admitsComposed, declared, Bool.not_true, Bool.false_or, List.contains_iff_mem] at admits
    exact (mem_candidates_iff.1 admits).2

/-- The models of a table come in the order of their class names, each of them once. -/
theorem pairwise_classNames (named : table.Named backend) :
    ((Dict.values table).map fun m => backend.naming.modelName m.name).Pairwise (· < ·) := by
  rw [Dict.values, List.map_map, List.pairwise_map]
  refine table.sorted.imp_of_mem fun {a b} memA memB less => ?_
  have nameOf (e : String × TableModel) (mem : e ∈ Dict.entries table) :
      backend.naming.modelName e.2.name = e.1 := (named _ _ (Dict.mem_entries_iff.1 mem)).2
  simpa only [Function.comp_apply, nameOf a memA, nameOf b memB] using less

/-! ## Coming out -/

/-- The models of a table that do not stand for a type from elsewhere. -/
def unmapped (backend : Backend) (table : ModelTable) : ModelTable :=
  Dict.filter (fun _ m => !backend.types.importMapping.contains m.name) table

theorem generated_unmapped (heeded : backend.types.ignoreImportMapping = false) :
    (table.unmapped backend).generated backend = table.generated backend := by
  have same (name : String) :
      backend.types.isMapped name = backend.types.importMapping.contains name := by
    simp [TypeMapping.isMapped, heeded]
  simp [generated, unmapped, Dict.values, Dict.filter, List.filter_map, List.filter_filter, same,
    Function.comp_def]

/-- **Models that stand for a type from elsewhere have no part in the files and in the list.** -/
theorem plan_unmapped (heeded : backend.types.ignoreImportMapping = false) (options : Options) :
    (table.unmapped backend).plan backend options = table.plan backend options := by
  simp only [plan, tasks, listed, generated_unmapped heeded]

/-- Every file of a table is made for a model that stands in it and does not stand for a type
from elsewhere. -/
theorem exists_of_mem_plan {options : Options} {t : Task}
    (mem : t ∈ (table.plan backend options).tasks) :
    ∃ className m, Dict.get? table className = some m ∧ t.subject = .model m.name ∧
      backend.types.isMapped m.name = false := by
  obtain ⟨m, isGenerated, made⟩ := List.mem_flatMap.1 mem
  obtain ⟨inTable, unmapped⟩ := List.mem_filter.1 isGenerated
  obtain ⟨e, stands, rfl⟩ := List.mem_map.1 inTable
  exact ⟨e.1, e.2, Dict.mem_entries_iff.1 stands, (TableModel.renders_of_mem_tasks made).subject,
    by simpa using unmapped⟩

/-! ## The filters of a run -/

/-- **A table respects the filters.**  What stands in it under the name of a schema passed both
of them; it goes by class names, in their order; and unless nobody asks for it, a model that
stands for a type from elsewhere, schema or composition, adds nothing to the list of models and
has no file. -/
theorem build_respects_filters
    (untouched : ∀ table, backend.hooks.postProcessTable table = .ok table)
    (built : build backend schemas allowed properties = .ok table) :
    (∀ className m, Dict.get? table className = some m →
      backend.naming.modelName m.name = className ∧
      (schemas.contains m.name = true →
        (∀ names, allowed = some names → names.contains m.name = true) ∧
        (backend.types.ignoreImportMapping = false →
          backend.types.importMapping.contains m.name = false))) ∧
    ((Dict.values table).map fun m => backend.naming.modelName m.name).Pairwise (· < ·) ∧
    (backend.types.ignoreImportMapping = false → ∀ options,
      table.plan backend options = (table.unmapped backend).plan backend options ∧
      ∀ t ∈ (table.plan backend options).tasks, ∃ className m,
        Dict.get? table className = some m ∧ t.subject = .model m.name ∧
        backend.types.importMapping.contains m.name = false) := by
  have named := named_of_build untouched built
  refine ⟨fun className m stands => ⟨(named className m stands).2, ?_⟩,
    pairwise_classNames named, fun heeded options => ⟨(plan_unmapped heeded options).symm, ?_⟩⟩
  · exact passed_of_build untouched built className m stands
  · intro t mem
    obtain ⟨className, m, stands, subject, unmapped⟩ := exists_of_mem_plan mem
    exact ⟨className, m, stands, subject, TypeMapping.isMapped_eq_false_iff.1 unmapped heeded⟩

/-- A backend that takes `Far` and `Hidden` from elsewhere, and whose compositions have the names
of no schema, of one that is not wanted and of one that is. -/
def mappingBackend : Backend :=
  { composingBackend with
    types := { TypeMapping.standard with
      importMapping := .ofList [("Far", "far.Far"), ("Hidden", "far.Hidden")] }
    projector := { ManifestBackend.projector with
      composedModels := fun _ _ => .ok [compositionOf "Far" "Far" true,
        compositionOf "Hidden" "Hidden" true, compositionOf "pet" "Pet" true] }
    layout := { composingBackend.layout with modelTemplates := .ofList [("model.txt", ".txt")] } }

theorem build_respects_filters_far_composition :
    (∀ table, mappingBackend.hooks.postProcessTable table = .ok table) ∧
      mappingBackend.types.ignoreImportMapping = false ∧
      ∃ table : ModelTable,
        build mappingBackend petAndHidden (some (.ofList ["Hidden", "Pet"])) .empty = .ok table ∧
        (Dict.entries table).map (fun e => (e.1, e.2.name)) = [("Far", "Far"), ("Pet", "Pet")] ∧
        (table.plan mappingBackend .standard).tasks.map Task.subject = [.model "Pet"] ∧
        ∀ t ∈ (table.plan mappingBackend .standard).tasks, t.subject ≠ .model "Far" := by
  have untouched : ∀ table, mappingBackend.hooks.postProcessTable table = .ok table :=
    fun _ => rfl
  have made : ((build mappingBackend petAndHidden
      (some (.ofList ["Hidden", "Pet"])) .empty).toOption.any fun (table : ModelTable) =>
        decide ((Dict.entries table).map (fun e => (e.1, e.2.name))
            = [("Far", "Far"), ("Pet", "Pet")] ∧
          (table.plan mappingBackend .standard).tasks.map Task.subject = [.model "Pet"]))
      = true := by decide +kernel
  obtain ⟨table, done, holds⟩ := (Option.any_eq_true _ _).1 made
  obtain ⟨entries, subjects⟩ := of_decide_eq_true holds
  have built := eq_ok_of_toOption done
  obtain ⟨-, -, out⟩ := build_respects_filters untouched built
  refine ⟨untouched, rfl, table, built, entries, subjects, ?_⟩
  rintro t mem isFar
  obtain ⟨_, m, -, subject, unmapped⟩ := (out rfl .standard).2 t mem
  have far : m.name = "Far" := Subject.model.inj (subject.symm.trans isFar)
  rw [far] at unmapped
  exact absurd unmapped (by decide +kernel)

end ModelTable

end ApiForge
