import ApiForge.Proofs.Operations.Groups
import ApiForge.Proofs.Run.Plan
/-
# ApiForge.Proofs.Run.Obliging -- backends that refuse nothing

A plan ends in a failure only where the backend refuses something: a schema, an operation, or
what one of its hooks sees.  A backend without hooks that projects every schema and every
operation refuses nothing (`Backend.Obliging`), so its plans come to their end, whatever the
description says (`Backend.Obliging.planBundle`).  The backend of a manifest is of that kind
(`ManifestBackend.obliging`).
-/

namespace ApiForge

set_option autoImplicit false

/-! ## Computations that succeed -/

/-- The computation comes to a result. -/
def Succeeds {ε α : Type} (x : Except ε α) : Prop := ∃ a, x = .ok a

namespace Succeeds

variable {ε ε' α β : Type} {x : Except ε α}

theorem bind {next : α → Except ε β} (first : Succeeds x) (later : ∀ a, Succeeds (next a)) :
    Succeeds (x >>= next) := by
  obtain ⟨a, done⟩ := first
  obtain ⟨b, rest⟩ := later a
  exact ⟨b, bind_eq_ok_iff.2 ⟨a, done, rest⟩⟩

theorem map (first : Succeeds x) (f : α → β) : Succeeds (x.map f) := by
  obtain ⟨a, done⟩ := first
  exact ⟨f a, map_eq_ok_iff.2 ⟨a, done, rfl⟩⟩

theorem mapError (first : Succeeds x) (f : ε → ε') : Succeeds (x.mapError f) := by
  obtain ⟨a, done⟩ := first
  exact ⟨a, mapError_eq_ok_iff.2 done⟩

/-- A plan of two parts comes to its end where both do. -/
theorem planned {p : Planned α} {next : α → Planned β} (first : Succeeds p.outcome)
    (later : ∀ a, Succeeds (next a).outcome) : Succeeds (p >>= next).outcome := by
  obtain ⟨a, done⟩ := first
  rw [Planned.bind_of_ok done]
  exact later a

end Succeeds

namespace Backend

/-- A backend that refuses nothing. -/
structure Obliging (backend : Backend) : Prop where
  hooks : backend.hooks = .none
  ofSchema : ∀ name schema schemas, Succeeds (backend.projector.ofSchema name schema schemas)
  composedModels : ∀ schemas table, Succeeds (backend.projector.composedModels schemas table)
  ofOperation : ∀ path method operation description,
    Succeeds (backend.projector.ofOperation path method operation description)

namespace Obliging

variable {backend : Backend} (obliging : backend.Obliging)
include obliging

/-! ## Models -/

theorem ofProjection (properties : Dict Json) (name : String) (model : ModelProjection)
    (schema : Json) :
    Succeeds (TableModel.ofProjection backend properties name model schema) := by
  rw [TableModel.ofProjection, TableModel.contextFor, obliging.hooks]
  exact ((show Succeeds (Hooks.none.postProcessModel _) from ⟨_, rfl⟩).map _).map _

theorem addSchemas (schemas properties : Dict Json) (list : List (String × Json))
    (table : ModelTable) :
    Succeeds (ModelTable.addSchemas backend schemas properties table list) := by
  induction list generalizing table with
  | nil => exact ⟨table, rfl⟩
  | cons entry rest ih =>
      obtain ⟨name, schema⟩ := entry
      have projected : Succeeds (TableModel.ofSchema backend schemas properties name schema) := by
        refine (obliging.ofSchema name schema schemas).bind fun found => ?_
        cases found with
        | none => exact ⟨none, rfl⟩
        | some model =>
            obtain ⟨m, made⟩ := obliging.ofProjection properties name model schema
            exact ⟨some m, bind_eq_ok_iff.2 ⟨m, made, rfl⟩⟩
      obtain ⟨found, done⟩ := projected
      cases found with
      | none => simpa only [ModelTable.addSchemas, done] using ih table
      | some m => simpa only [ModelTable.addSchemas, done] using ih (table.add m)

theorem addComposed (properties : Dict Json) (table : ModelTable) (model : ModelProjection) :
    Succeeds (ModelTable.addComposed backend properties table model) := by
  rw [ModelTable.addComposed]
  cases Dict.get? table (backend.naming.modelName model.name) with
  | some existing => exact ⟨_, rfl⟩
  | none =>
      obtain ⟨made, done⟩ := obliging.ofProjection properties model.name model .null
      simp only [done]
      exact ⟨_, rfl⟩

theorem addAllComposed (properties : Dict Json) (models : List ModelProjection)
    (table : ModelTable) :
    Succeeds (ModelTable.addAllComposed backend properties table models) := by
  induction models generalizing table with
  | nil => exact ⟨table, rfl⟩
  | cons model rest ih => exact (obliging.addComposed properties table model).bind ih

/-- **Every set of schemas makes a table of models.** -/
theorem build (schemas properties : Dict Json) (allowed : Option NameSet) :
    Succeeds (ModelTable.build backend schemas allowed properties) := by
  refine (obliging.addSchemas schemas properties _ _).bind fun projected => ?_
  refine ((obliging.composedModels schemas projected).mapError _).bind fun composed => ?_
  refine (obliging.addAllComposed properties _ _).bind fun table => ?_
  rw [obliging.hooks]
  exact ⟨table, rfl⟩

/-! ## Groups -/

/-- **The operations of every description are grouped.** -/
theorem ofDescription (description : Description) :
    Succeeds (OperationGroups.ofDescription backend description) := by
  refine OperationGroups.foldlM_addUnder_ok _ (fun placed _ => ?_) _
  rw [PlacedOperation.project_eq]
  exact (obliging.ofOperation _ _ _ _).map _

theorem contextOfGroup (tag : String) (operations : List OperationProjection)
    (models : List Json) (run : RunInfo) :
    Succeeds (GroupContext.build backend tag operations models run) := by
  rw [GroupContext.build, obliging.hooks]
  exact ⟨_, rfl⟩

theorem planGroups (options : Options) (models : List Json) (run : RunInfo)
    (groups : List (String × List OperationProjection)) :
    Succeeds (ApiForge.planGroups backend options models run groups).outcome := by
  induction groups with
  | nil => exact ⟨[], rfl⟩
  | cons group rest ih =>
      refine Succeeds.planned ?_ fun context => Succeeds.planned ih fun others => ⟨_, rfl⟩
      obtain ⟨context, made⟩ := obliging.contextOfGroup group.1 group.2 models run
      simp only [planGroup, made]
      exact ⟨_, rfl⟩

/-! ## The plan of a run -/

theorem info [Readers] (now : Moment) (config : Config) (description : Description) :
    Succeeds (Job.info now config backend description) := by
  rw [Job.info, Job.properties, obliging.hooks]
  exact ⟨_, rfl⟩

/-- **The plan of a run comes to its end, whatever the description says.** -/
theorem planBundle [Readers] (now : Moment) (config : Config) (description : Description) :
    Succeeds (Job.planBundle now config backend description).outcome := by
  refine Succeeds.planned (obliging.info now config description) fun run => ?_
  refine Succeeds.planned ?_ fun models => ?_
  · simp only [Job.planModels]
    split
    · exact Succeeds.planned (obliging.build _ _ _) fun table => ⟨_, rfl⟩
    · exact ⟨[], rfl⟩
  refine Succeeds.planned ?_ fun operations => ?_
  · simp only [Job.planGroups]
    split
    · refine Succeeds.planned (obliging.ofDescription description) fun groups => ?_
      exact Succeeds.planned (obliging.planGroups _ _ _ _) fun contexts => ⟨_, rfl⟩
    · exact ⟨[], rfl⟩
  refine Succeeds.planned ?_ fun bundle => ?_
  · rw [Bundle.build, obliging.hooks]
    exact ⟨_, rfl⟩
  refine Succeeds.planned ⟨(), rfl⟩ fun _ => Succeeds.planned ⟨(), rfl⟩ fun _ => ?_
  refine Succeeds.planned ?_ fun _ => ⟨bundle, rfl⟩
  rw [obliging.hooks]
  exact ⟨(), rfl⟩

end Obliging

end Backend

/-- **The backend of a manifest refuses nothing.** -/
theorem ManifestBackend.obliging (b : ManifestBackend) : b.toBackend.Obliging where
  hooks := rfl
  ofSchema := fun _ _ _ => ⟨_, rfl⟩
  composedModels := fun _ _ => ⟨_, rfl⟩
  ofOperation := fun _ _ _ _ => ⟨_, rfl⟩

end ApiForge
