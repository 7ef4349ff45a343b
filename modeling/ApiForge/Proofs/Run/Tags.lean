import ApiForge.Proofs.Bundle
import ApiForge.Proofs.CommandLine.Arguments
import ApiForge.Proofs.Identifiers
import ApiForge.Proofs.Operations.Groups
import ApiForge.Proofs.Run.Obliging
import ApiForge.Proofs.Run.Stages
import ApiForge.Readers.Standard
/-
# ApiForge.Proofs.Run.Tags -- which groups a list of tags selects

A run can be narrowed down to a list of tags, by a variable or by an argument
(`Config.apis_ofVariables`, `Arguments.apis_apply`); their names reach the run as they are
written.  Groups go by sanitized names, and a group is made where its own name is on the list
(`OperationGroups.mem_selected_iff`).  What is on the list is not sanitized.

So a tag that is asked for by the name that the description gives it has its group made only
if the sanitized name is asked for as well.  Where that is so for every name of the list, the
groups made are those that the names of the list lead to, and where it is not, one of them is
missing (`Job.groups_of_listed_tags`, `Job.declared_name_selects_nothing`).
-/

namespace ApiForge

set_option autoImplicit false

/-! ## Where a list of tags comes from -/

namespace Config

variable {c : Config}

theorem apis_applyModels (s : Switch) : (c.applyModels s).apis = c.apis := by
  cases s <;> rfl

theorem apis_applySupportingFiles (s : Switch) : (c.applySupportingFiles s).apis = c.apis := by
  rcases s with on | names
  · cases on <;> rfl
  · rfl

theorem apis_applyFlag (lookup : String → Option String) (v : String × Toggle) :
    (applyFlag lookup c v).apis = c.apis := by
  rw [applyFlag]
  split <;> rfl

theorem apis_foldl_applyFlag (lookup : String → Option String) (vs : List (String × Toggle)) :
    (vs.foldl (applyFlag lookup) c).apis = c.apis := by
  induction vs generalizing c with
  | nil => rfl
  | cons v rest ih => rw [List.foldl_cons, ih, apis_applyFlag]

/-- **The variable for tags is the only one that the list depends on**: it holds the names
between the commas, unless it is a flag. -/
theorem apis_ofVariables (lookup : String → Option String) :
    (ofVariables lookup).apis =
      (lookup "BRRTR_GEN_APIS").bind fun raw =>
        if readFlag raw = none then some (splitList raw) else none := by
  unfold ofVariables
  extract_lets start tags models files flags rules stamps
  have first : tags.apis = (lookup "BRRTR_GEN_APIS").bind fun raw =>
      if readFlag raw = none then some (splitList raw) else none := by
    simp only [tags]
    cases lookup "BRRTR_GEN_APIS" with
    | none => rfl
    | some raw =>
        simp only [Option.map_some, Option.getD_some, Option.bind_some, readSwitch]
        cases readFlag raw <;> rfl
  have second : models.apis = tags.apis := by
    clear_value tags
    simp only [models]
    cases lookup "BRRTR_GEN_MODELS" with
    | none => rfl
    | some raw => rw [Option.map_some, Option.getD_some, apis_applyModels]
  have third : files.apis = models.apis := by
    clear_value models
    simp only [files]
    cases lookup "BRRTR_GEN_SUPPORTING_FILES" with
    | none => rfl
    | some raw => rw [Option.map_some, Option.getD_some, apis_applySupportingFiles]
  have fourth : flags.apis = files.apis := apis_foldl_applyFlag _ _
  have fifth : rules.apis = flags.apis := by
    clear_value flags
    simp only [rules]
    split
    · split <;> rfl
    · rfl
  have sixth : stamps.apis = rules.apis := by
    clear_value rules
    simp only [stamps]
    split <;> rfl
  rw [← first, ← second, ← third, ← fourth, ← fifth, ← sixth]
  clear_value stamps
  split <;> rfl

end Config

namespace Arguments

variable {a : Arguments} {c : Config}

/-- **The argument for tags replaces the list, where it is given.** -/
theorem apis_apply {applied : Config} (done : a.apply c = .ok applied) :
    applied.apis = match a.apis with
      | some raw => selection raw
      | none => c.apis := by
  rw [(applied_of_apply done).apis]
  cases a.apis <;> rfl

end Arguments

/-! ## Groups that are selected -/

/-- A tag of the description leads to the group of that name. -/
def Description.HasGroup (d : Description) (backend : Backend) (key : String) : Prop :=
  ∃ place name, d.NamesTag place name ∧ backend.naming.sanitizeTag name = key

namespace OperationGroups

variable {backend : Backend} {d : Description} {groups : OperationGroups}

/-- The groups are those that tags lead to. -/
theorem exists_mem_entries_iff (appends : Appends backend)
    (done : ofDescription backend d = .ok groups) {key : String} :
    (∃ operations, (key, operations) ∈ Dict.entries groups) ↔ d.HasGroup backend key := by
  have stands : (∃ operations, (key, operations) ∈ Dict.entries groups) ↔
      Dict.get? groups key ≠ none := by
    simp only [Dict.mem_entries_iff, Option.ne_none_iff_exists']
  have places := @List.map_eq_nil_iff _ _ Prod.fst (visitsTo backend d key)
  rw [stands, Ne, (get?_of_ofDescription appends done key).2, ← places,
    List.eq_nil_iff_forall_not_mem, not_forall]
  simp only [not_not, mem_map_fst_visitsTo_iff, Description.HasGroup]

/-- **A group is selected where its own name is on the list.** -/
theorem mem_selected_iff (appends : Appends backend)
    (done : ofDescription backend d = .ok groups) {wanted : NameSet} {key : String} :
    key ∈ (groups.selected (some wanted)).map Prod.fst ↔
      key ∈ wanted ∧ d.HasGroup backend key := by
  rw [← exists_mem_entries_iff appends done]
  simp only [selected, List.mem_map, List.mem_filter, Option.all_some, NameSet.contains_iff]
  constructor
  · rintro ⟨⟨key, operations⟩, ⟨mem, isWanted⟩, rfl⟩
    exact ⟨isWanted, operations, mem⟩
  · rintro ⟨isWanted, operations, mem⟩
    exact ⟨(key, operations), ⟨mem, isWanted⟩, rfl⟩

end OperationGroups

namespace Job

open OperationGroups (plainBackend)

section Selecting

variable [Readers] {now : Moment} {config : Config} {backend : Backend}
  {description : Description}

/-- Contexts are made of the selected groups, one each. -/
theorem Stages.map_fst_contexts {bundle : Context}
    (s : Stages now config backend description bundle) :
    s.contexts.map Prod.fst = (s.groups.selected config.apiFilter).map Prod.fst := by
  have made := s.made
  generalize s.groups.selected config.apiFilter = groups at made
  generalize s.contexts = contexts at made
  induction made with
  | nil => rfl
  | cons first _ ih => rw [List.map_cons, List.map_cons, ih, first.1]

/-- **A run makes the groups whose own names are on the list of tags.**  They are the groups
that the names on the list lead to exactly where the list has, with every name that leads to a
group, the name of that group as well. -/
theorem groups_of_listed_tags (obliging : backend.Obliging)
    (appends : OperationGroups.Appends backend)
    (usual : backend.naming.sanitizeTag = Naming.standard.sanitizeTag)
    (on : (switches config backend).apis = true) {wanted : NameSet}
    (asked : config.apiFilter = some wanted) :
    ∃ bundle, (planBundle now config backend description).outcome = .ok bundle ∧
      ∃ s : Stages now config backend description bundle,
        (planBundle now config backend description).tasks = s.tasks ∧
        (∀ key, key ∈ s.contexts.map Prod.fst ↔
          key ∈ wanted ∧ description.HasGroup backend key) ∧
        ((∀ key, key ∈ s.contexts.map Prod.fst ↔ description.HasGroup backend key ∧
            ∃ name ∈ wanted, backend.naming.sanitizeTag name = key) ↔
          ∀ name ∈ wanted, description.HasGroup backend (backend.naming.sanitizeTag name) →
            backend.naming.sanitizeTag name ∈ wanted) := by
  obtain ⟨bundle, planned⟩ := obliging.planBundle now config description
  obtain ⟨s, tasks⟩ := stages_of_planBundle planned
  have made (key : String) : key ∈ s.contexts.map Prod.fst ↔
      key ∈ wanted ∧ description.HasGroup backend key := by
    rw [s.map_fst_contexts, asked]
    exact OperationGroups.mem_selected_iff appends (s.ofDescription_of_on on)
  -- the name of a group is sanitized already
  have settled {key : String} (group : description.HasGroup backend key) :
      backend.naming.sanitizeTag key = key := by
    obtain ⟨_, name, -, rfl⟩ := group
    rw [usual]
    exact Naming.typeName_typeName name
  refine ⟨bundle, planned, s, tasks, made, ⟨fun same name isWanted group => ?_, ?_⟩⟩
  · exact ((made _).1 ((same _).2 ⟨group, name, isWanted, rfl⟩)).1
  · intro closed key
    rw [made]
    constructor
    · rintro ⟨isWanted, group⟩
      exact ⟨group, key, isWanted, settled group⟩
    · rintro ⟨group, name, isWanted, rfl⟩
      exact ⟨closed name isWanted group, group⟩

end Selecting

/-- A description of one operation, under a tag that it declares. -/
def declaredTagPaths : Description :=
  { Description.empty with
    tags := some [Tag.named "pets"]
    paths := some (.ofList [("/pets", { (default : PathItem) with
      get := some { (default : Operation) with tags := some ["pets"] } })]) }

/-- What is asked for when the variable for tags says that. -/
def askingFor (tags : String) : Config :=
  .ofVariables fun name => if name = "BRRTR_GEN_APIS" then some tags else none

theorem groups_of_listed_tags_pets :
    OperationGroups.Appends plainBackend ∧ plainBackend.Obliging ∧
      (switches (askingFor "Pets") plainBackend).apis = true ∧
      (askingFor "Pets").apiFilter = some (.ofList ["Pets"]) ∧
      ∃ bundle, ∃ s : Stages ⟨"", ""⟩ (askingFor "Pets") plainBackend declaredTagPaths bundle,
        "Pets" ∈ s.contexts.map Prod.fst := by
  have appends : OperationGroups.Appends plainBackend := fun _ _ _ => rfl
  have obliging : plainBackend.Obliging := ManifestBackend.obliging _
  have on : (switches (askingFor "Pets") plainBackend).apis = true := by decide
  have asked : (askingFor "Pets").apiFilter = some (.ofList ["Pets"]) := by decide
  obtain ⟨bundle, -, s, -, made, -⟩ := @groups_of_listed_tags .standard ⟨"", ""⟩
    (askingFor "Pets") plainBackend declaredTagPaths obliging appends rfl on _ asked
  have group : declaredTagPaths.HasGroup plainBackend "Pets" :=
    ⟨⟨"/pets", .get, 0⟩, "pets", ⟨_, _, ⟨rfl, rfl⟩, rfl⟩, by decide⟩
  exact ⟨appends, obliging, on, asked, bundle, s, (made _).2 ⟨by simp, group⟩⟩

/-- **A tag that is asked for by its own name need not have its group made**: nothing is made
of `pets`, which is declared and leads to the group `Pets`. -/
theorem declared_name_selects_nothing :
    (askingFor "pets").apiFilter = some (.ofList ["pets"]) ∧
      declaredTagPaths.tags = some [Tag.named "pets"] ∧
      declaredTagPaths.NamesTag ⟨"/pets", .get, 0⟩ "pets" ∧
      ((OperationGroups.ofDescription plainBackend declaredTagPaths).toOption.map fun groups =>
        (groups.selected none).map Prod.fst) = some ["Pets"] ∧
      plainBackend.naming.sanitizeTag "pets" = "Pets" ∧
      ((planBundle ⟨"", ""⟩ (askingFor "pets") plainBackend
        declaredTagPaths).outcome.toOption.bind (fun bundle =>
          (bundle.lookup "apiInfo.apis").bind Json.asItems?) |>.map List.length) = some 0 := by
  refine ⟨by decide, rfl, ⟨_, _, ⟨rfl, rfl⟩, rfl⟩, ?_⟩
  decide +kernel

end Job

end ApiForge
