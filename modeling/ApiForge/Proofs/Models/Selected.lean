import ApiForge.Proofs.Models.Composed
import Mathlib.Data.List.Nodup
/-
# ApiForge.Proofs.Models.Selected -- a part of the schemas makes a part of the table

Where no two schemas share a class name, every one of them makes a model of its own
(`ModelTable.get?_of_addSchemas_iff`).  With the backend of a manifest that model depends on
the schema alone and not on which others are wanted: a composition makes no model, it sets
the flag of the one that its own schema has made (`ManifestBackend.get?_of_build_iff`).  So
tables of different selections agree on what both of them hold
(`ManifestBackend.eq_of_get?_of_build`), and the table of a selection is that part of the
whole table (`ManifestBackend.entries_of_build_eq_filter`).
-/

namespace ApiForge

set_option autoImplicit false

/-- **Schemas of different class names make a model each.** -/
theorem ModelTable.get?_of_addSchemas_iff {backend : Backend} {schemas properties : Dict Json}
    {list : List (String × Json)} {table : ModelTable}
    (apart : (list.map fun s => backend.naming.modelName s.1).Nodup)
    (added : addSchemas backend schemas properties .empty list = .ok table)
    {className : String} {m : TableModel} :
    Dict.get? table className = some m ↔ ∃ s ∈ list, backend.naming.modelName s.1 = className ∧
      TableModel.ofSchema backend schemas properties s.1 s.2 = .ok (some m) := by
  have sound : table.Forall fun className m => ∃ s ∈ list,
      backend.naming.modelName s.1 = className ∧
      TableModel.ofSchema backend schemas properties s.1 s.2 = .ok (some m) := by
    refine forall_addSchemas .empty (fun s mem m made => ?_) added
    obtain ⟨-, fields⟩ := TableModel.ofSchema_eq_ok made
    exact ⟨s, mem, (fields m rfl).2.symm, made⟩
  refine ⟨sound className m, ?_⟩
  rintro ⟨s, mem, rfl, made⟩
  cases get?_of_addSchemas added (backend.naming.modelName s.1) with
  | kept none _ =>
      have nothing := none s mem rfl
      rw [(TableModel.ofSchema_eq_ok made).1] at nothing
      cases nothing
  | @replaced front back t found split shared ok named none stands =>
      obtain ⟨u, inList, sharedToo, madeToo⟩ := sound _ found stands
      have same : u = s := List.inj_on_of_nodup_map apart inList mem sharedToo
      rw [same, made] at madeToo
      cases madeToo
      exact stands

namespace ManifestBackend

variable {b : ManifestBackend} {schemas properties : Dict Json} {allowed : Option NameSet}
  {className : String} {m : TableModel} {s : String × Json}

/-! ## Compositions of a manifest -/

theorem fields_of_isComposedSchema {schema : Json} (composed : isComposedSchema schema = true) :
    ∃ fields, schema = .obj fields := by
  cases schema with
  | obj fields => exact ⟨fields, rfl⟩
  | _ => cases composed

theorem mem_composedModels_iff {model : ModelProjection} :
    model ∈ composedModels schemas ↔ ∃ s : String × Json, schemas.get? s.1 = some s.2 ∧
      isComposedSchema s.2 = true ∧ projectComposition s.1 s.2 = model := by
  simp only [composedModels, List.mem_map, List.mem_filter, Dict.mem_entries_iff, and_assoc]

/-- The compositions of a class name are those of the wanted schemas. -/
theorem mem_touching_iff {model : ModelProjection} :
    model ∈ ModelTable.touching b.toBackend schemas allowed (composedModels schemas) className ↔
      ∃ s ∈ candidateSchemas b.toBackend schemas allowed, isComposedSchema s.2 = true ∧
        b.naming.modelName s.1 = className ∧ projectComposition s.1 s.2 = model := by
  rw [ModelTable.mem_touching_iff, mem_composedModels_iff]
  constructor
  · rintro ⟨⟨s, stands, composed, rfl⟩, admitted, named⟩
    have declared : schemas.contains s.1 = true := by
      rw [Dict.contains, stands]
      rfl
    rcases admitted with undeclared | ⟨schema, candidate⟩
    · rw [show (projectComposition s.1 s.2).name = s.1 from rfl, declared] at undeclared
      cases undeclared
    · have same := (mem_candidateSchemas_iff.1 candidate).1
      rw [show (projectComposition s.1 s.2).name = s.1 from rfl, stands] at same
      cases same
      exact ⟨s, candidate, composed, named, rfl⟩
  · rintro ⟨s, candidate, composed, named, rfl⟩
    exact ⟨⟨s, (mem_candidateSchemas_iff.1 candidate).1, composed, rfl⟩,
      Or.inr ⟨s.2, candidate⟩, named⟩

/-- A composed schema makes a model. -/
theorem exists_ofSchema_of_isComposedSchema (composed : isComposedSchema s.2 = true) :
    ∃ base, TableModel.ofSchema b.toBackend schemas properties s.1 s.2 = .ok (some base) := by
  obtain ⟨fields, same⟩ := fields_of_isComposedSchema composed
  rw [same]
  exact ⟨_, rfl⟩

/-! ## The model of a schema -/

/-- What a schema makes in a table where no other one shares its class name: its projection,
with the flag set if it is composed. -/
def MakesAlone (b : ManifestBackend) (schemas properties : Dict Json) (s : String × Json)
    (m : TableModel) : Prop :=
  ∃ base, TableModel.ofSchema b.toBackend schemas properties s.1 s.2 = .ok (some base) ∧
    m = if isComposedSchema s.2 then base.mark Key.composedExtension (.bool true) else base

theorem MakesAlone.unique {m' : TableModel} (first : b.MakesAlone schemas properties s m)
    (second : b.MakesAlone schemas properties s m') : m = m' := by
  obtain ⟨base, made, rfl⟩ := first
  obtain ⟨base', made', rfl⟩ := second
  rw [made] at made'
  cases made'
  rfl

theorem MakesAlone.name (made : b.MakesAlone schemas properties s m) : m.name = s.1 := by
  obtain ⟨base, ok, rfl⟩ := made
  have own := ((TableModel.ofSchema_eq_ok ok).2 base rfl).1
  split <;> exact own

/-- No two schemas share a class name. -/
def Apart (b : ManifestBackend) (schemas : Dict Json) : Prop :=
  (schemas.entries.map fun s => b.naming.modelName s.1).Nodup

instance (b : ManifestBackend) (schemas : Dict Json) : Decidable (b.Apart schemas) :=
  inferInstanceAs (Decidable (List.Nodup _))

section Building

variable {table : ModelTable} (apart : b.Apart schemas)
include apart

theorem Apart.candidates (allowed : Option NameSet) :
    ((candidateSchemas b.toBackend schemas allowed).map
      fun s => b.naming.modelName s.1).Nodup :=
  apart.sublist (List.filter_sublist.map _)

/-- **What stands in a table of a manifest.**  Every wanted schema has the model that it makes
alone, and nothing else is there. -/
theorem get?_of_build_iff
    (built : ModelTable.build b.toBackend schemas allowed properties = .ok table) :
    Dict.get? table className = some m ↔
      ∃ s ∈ candidateSchemas b.toBackend schemas allowed,
        b.naming.modelName s.1 = className ∧ b.MakesAlone schemas properties s m := by
  obtain ⟨projected, composed, first, asked, merges⟩ :=
    ModelTable.merged_of_build (fun _ => rfl) built
  have listed : composedModels schemas = composed := Except.ok.inj asked
  subst listed
  have distinct := apart.candidates allowed
  have stands (m : TableModel) :=
    @ModelTable.get?_of_addSchemas_iff b.toBackend _ _ _ _ distinct first className m
  have stems (model : ModelProjection) :=
    @mem_touching_iff b schemas allowed className model
  replace merges := merges className
  generalize ModelTable.touching b.toBackend schemas allowed (composedModels schemas) className
    = touching at merges stems
  cases merges with
  | untouched same =>
      -- no wanted schema with the class name is composed
      have simple (s : String × Json) (mem : s ∈ candidateSchemas b.toBackend schemas allowed)
          (named : b.naming.modelName s.1 = className) : isComposedSchema s.2 = false := by
        rw [← Bool.not_eq_true]
        intro composed
        exact absurd ((stems _).2 ⟨s, mem, composed, named, rfl⟩) List.not_mem_nil
      rw [same, stands]
      constructor
      · rintro ⟨s, mem, named, made⟩
        exact ⟨s, mem, named, m, made, by rw [simple s mem named]; rfl⟩
      · rintro ⟨s, mem, named, base, made, is⟩
        rw [simple s mem named] at is
        exact ⟨s, mem, named, is ▸ made⟩
  | @flagged _ first last base heads ends from_ same =>
      obtain ⟨s, mem, composed, named, -⟩ := (stems _).1 (List.mem_of_mem_head? heads)
      obtain ⟨t, -, -, -, rfl⟩ := (stems _).1 (List.mem_of_getLast? ends)
      -- the composed schema has made a model before its composition came
      obtain ⟨made, ok⟩ := exists_ofSchema_of_isComposedSchema (b := b) (s := s) composed
      have before := (stands made).2 ⟨s, mem, named, ok⟩
      have is : base = made := by
        cases from_ with
        | stands found =>
            rw [before] at found
            exact (Option.some.inj found).symm
        | made none _ =>
            rw [before] at none
            cases none
      subst is
      have own : b.MakesAlone schemas properties s
          (base.mark Key.composedExtension (.bool true)) := ⟨base, ok, by rw [if_pos composed]⟩
      rw [same]
      constructor
      · intro found
        cases found
        exact ⟨s, mem, named, own⟩
      · rintro ⟨u, memToo, namedToo, madeToo⟩
        have alike : u = s :=
          List.inj_on_of_nodup_map distinct memToo mem (namedToo.trans named.symm)
        subst alike
        exact congrArg some (own.unique madeToo)

/-- **Tables of different selections agree on what both of them hold.** -/
theorem eq_of_get?_of_build {allowed' : Option NameSet} {table' : ModelTable}
    {className' : String} {m' : TableModel}
    (built : ModelTable.build b.toBackend schemas allowed properties = .ok table)
    (built' : ModelTable.build b.toBackend schemas allowed' properties = .ok table')
    (stands : Dict.get? table className = some m)
    (stands' : Dict.get? table' className' = some m') (named : m.name = m'.name) :
    className = className' ∧ m = m' := by
  obtain ⟨s, mem, rfl, made⟩ := (get?_of_build_iff apart built).1 stands
  obtain ⟨t, mem', rfl, made'⟩ := (get?_of_build_iff apart built').1 stands'
  have same : s.1 = t.1 := made.name.symm.trans (named.trans made'.name)
  have found := (mem_candidateSchemas_iff.1 mem).1
  rw [same, (mem_candidateSchemas_iff.1 mem').1] at found
  have alike : s = t := Prod.ext same (Option.some.inj found).symm
  subst alike
  exact ⟨rfl, made.unique made'⟩

/-- **The table of a selection is that part of the whole table.** -/
theorem entries_of_build_eq_filter {wanted : NameSet} {whole : ModelTable}
    (built : ModelTable.build b.toBackend schemas (some wanted) properties = .ok table)
    (builtWhole : ModelTable.build b.toBackend schemas none properties = .ok whole) :
    Dict.entries table = (Dict.entries whole).filter fun e => wanted.contains e.2.name := by
  refine Entries.Sorted.eq_of_mem_iff table.sorted (whole.sorted.filter _) ?_
  rintro ⟨className, m⟩
  rw [List.mem_filter, Dict.mem_entries_iff, Dict.mem_entries_iff, get?_of_build_iff apart built,
    get?_of_build_iff apart builtWhole]
  constructor
  · rintro ⟨s, mem, named, made⟩
    obtain ⟨stands, unmapped, isWanted⟩ := mem_candidateSchemas_iff.1 mem
    exact ⟨⟨s, mem_candidateSchemas_iff.2 ⟨stands, unmapped, rfl⟩, named, made⟩,
      made.name ▸ isWanted⟩
  · rintro ⟨⟨s, mem, named, made⟩, isWanted⟩
    obtain ⟨stands, unmapped, -⟩ := mem_candidateSchemas_iff.1 mem
    exact ⟨s, mem_candidateSchemas_iff.2 ⟨stands, unmapped, made.name ▸ isWanted⟩, named, made⟩

end Building

end ManifestBackend

end ApiForge
