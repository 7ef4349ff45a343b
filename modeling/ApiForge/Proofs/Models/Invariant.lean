import ApiForge.Models.Build
import ApiForge.Proofs.Dict
import ApiForge.Proofs.Except
/-
# ApiForge.Proofs.Models.Invariant -- what holds of every model of a table

A table is made by projecting schemas and by putting in compositions, and a composition does
nothing to a model that stands but set its flag.  What every model has when it is made, and
keeps when its flag is set, holds of every model of a run (`ModelTable.forall_of_build`).
-/

namespace ApiForge

set_option autoImplicit false

/-- The model of a schema is made of a projection. -/
theorem TableModel.exists_ofProjection_of_ofSchema {backend : Backend}
    {schemas properties : Dict Json} {name : String} {schema : Json} {m : TableModel}
    (made : ofSchema backend schemas properties name schema = .ok (some m)) :
    ∃ model, ofProjection backend properties name model schema = .ok m := by
  obtain ⟨projected, -, made⟩ := bind_eq_ok_iff.1 made
  cases projected with
  | none => cases made
  | some model =>
      obtain ⟨m', ok, same⟩ := bind_eq_ok_iff.1 made
      cases same
      exact ⟨model, ok⟩

namespace ModelTable

variable {backend : Backend} {schemas properties : Dict Json}
  {P : String → TableModel → Prop} {table table' : ModelTable}

/-- Every model of the table has a property under its class name. -/
def Forall (P : String → TableModel → Prop) (table : ModelTable) : Prop :=
  ∀ className m, Dict.get? table className = some m → P className m

theorem Forall.empty : Forall P (.empty : ModelTable) := fun _ _ stands => nomatch stands

theorem Forall.insert (all : table.Forall P) {className : String} {m : TableModel}
    (new : P className m) : Forall P (Dict.insert table className m) := by
  intro other found stands
  rw [Dict.get?_insert] at stands
  split at stands
  · rename_i here
    cases stands
    exact here ▸ new
  · exact all other found stands

/-- Projecting schemas keeps what the models that it makes have. -/
theorem forall_addSchemas {rest : List (String × Json)} (all : table.Forall P)
    (made : ∀ s ∈ rest, ∀ m,
      TableModel.ofSchema backend schemas properties s.1 s.2 = .ok (some m) → P m.className m)
    (added : addSchemas backend schemas properties table rest = .ok table') :
    table'.Forall P := by
  induction rest generalizing table with
  | nil =>
      cases added
      exact all
  | cons entry rest ih =>
      obtain ⟨name, schema⟩ := entry
      have others := fun s (mem : s ∈ rest) => made s (List.mem_cons_of_mem _ mem)
      simp only [addSchemas] at added
      split at added
      · cases added
      · exact ih all others added
      · rename_i m projected
        exact ih (all.insert (made _ List.mem_cons_self m projected)) others added

section Compositions

variable (flagged : ∀ className m flag, P className m →
    P className (m.mark Key.composedExtension (.bool flag)))
include flagged

theorem forall_addComposed {model : ModelProjection} (all : table.Forall P)
    (made : ∀ m, TableModel.ofProjection backend properties model.name model .null = .ok m →
      P m.className m)
    (added : addComposed backend properties table model = .ok table') : table'.Forall P := by
  simp only [addComposed] at added
  split at added
  · rename_i existing stands
    cases added
    exact all.insert (flagged _ _ _ (all _ existing stands))
  · split at added
    · cases added
    · rename_i m ok
      cases added
      exact all.insert (flagged _ _ _ (made m ok))

/-- Compositions keep what the models that they make have, if the flag does not matter. -/
theorem forall_addAllComposed {rest : List ModelProjection} (all : table.Forall P)
    (made : ∀ model ∈ rest, ∀ m,
      TableModel.ofProjection backend properties model.name model .null = .ok m →
        P m.className m)
    (added : addAllComposed backend properties table rest = .ok table') : table'.Forall P := by
  induction rest generalizing table with
  | nil =>
      cases added
      exact all
  | cons model rest ih =>
      obtain ⟨next, first, later⟩ := bind_eq_ok_iff.1 added
      exact ih (forall_addComposed flagged all (made model List.mem_cons_self) first)
        (fun other mem => made other (List.mem_cons_of_mem _ mem)) later

/-- **What every model has when it is made, of a schema that is wanted or of a composition that
is put in, holds of every model of a run.** -/
theorem forall_of_build_of_admitted {allowed : Option NameSet}
    (untouched : ∀ table, backend.hooks.postProcessTable table = .ok table)
    (projected : ∀ s ∈ candidateSchemas backend schemas allowed, ∀ m,
      TableModel.ofSchema backend schemas properties s.1 s.2 = .ok (some m) → P m.className m)
    (composed : ∀ table models, backend.projector.composedModels schemas table = .ok models →
      ∀ model ∈ models,
        admitsComposed schemas ((candidateSchemas backend schemas allowed).map Prod.fst) model.name
          = true → ∀ m,
        TableModel.ofProjection backend properties model.name model .null = .ok m →
          P m.className m)
    (built : build backend schemas allowed properties = .ok table) : table.Forall P := by
  obtain ⟨before, first, built⟩ := bind_eq_ok_iff.1 built
  obtain ⟨models, compositions, built⟩ := bind_eq_ok_iff.1 built
  obtain ⟨merged, second, built⟩ := bind_eq_ok_iff.1 built
  rw [untouched] at built
  cases built
  refine forall_addAllComposed flagged (forall_addSchemas .empty projected first)
    (fun model mem => ?_) second
  obtain ⟨listed, admits⟩ := List.mem_filter.1 mem
  exact composed before models (mapError_eq_ok_iff.1 compositions) model listed admits

/-- What every model has when it is made, of a schema or of a composition, holds of every
model of a run. -/
theorem forall_of_build_of_made {allowed : Option NameSet}
    (untouched : ∀ table, backend.hooks.postProcessTable table = .ok table)
    (projected : ∀ s ∈ candidateSchemas backend schemas allowed, ∀ m,
      TableModel.ofSchema backend schemas properties s.1 s.2 = .ok (some m) → P m.className m)
    (composed : ∀ table models, backend.projector.composedModels schemas table = .ok models →
      ∀ model ∈ models, ∀ m,
        TableModel.ofProjection backend properties model.name model .null = .ok m →
          P m.className m)
    (built : build backend schemas allowed properties = .ok table) : table.Forall P :=
  forall_of_build_of_admitted flagged untouched projected
    (fun table models returned model mem _ => composed table models returned model mem) built

/-- What every model has that is made of a projection holds of every model of a run. -/
theorem forall_of_build {allowed : Option NameSet}
    (untouched : ∀ table, backend.hooks.postProcessTable table = .ok table)
    (made : ∀ name model schema m,
      TableModel.ofProjection backend properties name model schema = .ok m → P m.className m)
    (built : build backend schemas allowed properties = .ok table) : table.Forall P := by
  refine forall_of_build_of_made flagged untouched ?_
    (fun _ _ _ model _ => made model.name model .null) built
  intro s _ m projects
  obtain ⟨model, ok⟩ := TableModel.exists_ofProjection_of_ofSchema projects
  exact made s.1 model s.2 m ok

end Compositions

end ModelTable

end ApiForge
