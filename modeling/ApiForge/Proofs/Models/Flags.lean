import ApiForge.Proofs.Models.Admission
import ApiForge.Proofs.Models.Selected
import ApiForge.Proofs.Models.Table
import ApiForge.Proofs.Run.Obliging
/-
# ApiForge.Proofs.Models.Flags -- which models are marked as composed

With the backend of a manifest a composition has the name of the schema that it is made of, and
that schema makes a model itself.  So compositions add nothing to a table, and all that they do is
to set the flag under the class names of composed schemas that are wanted
(`ManifestBackend.eq_of_build`).  The flag goes by the class name: where a schema takes the place
of a composed one that shares its class name, its model is marked although it is not composed
itself (`ManifestBackend.build_flags_compositions_pet`).
-/

namespace ApiForge

set_option autoImplicit false

namespace ManifestBackend

variable {b : ManifestBackend} {schemas properties : Dict Json} {allowed : Option NameSet}
  {className : String} {projected table : ModelTable} {m : TableModel}

/-! ## Composed schemas -/

/-- One of the keywords that make a schema of others stands at the top of the schema. -/
def Composes (schema : Json) : Prop :=
  ∃ fields keyword part, schema = .obj fields ∧ keyword ∈ ["oneOf", "anyOf", "allOf"] ∧
    (keyword, part) ∈ fields

theorem isComposedSchema_iff {schema : Json} :
    isComposedSchema schema = true ↔ Composes schema := by
  rw [isComposedSchema, List.any_eq_true]
  constructor
  · rintro ⟨keyword, listed, has⟩
    obtain ⟨part, found⟩ := Option.isSome_iff_exists.1 has
    cases schema with
    | obj fields => exact ⟨fields, keyword, part, rfl, listed, Entries.mem_of_get? found⟩
    | _ => cases found
  · rintro ⟨fields, keyword, part, rfl, listed, mem⟩
    refine ⟨keyword, listed, Option.isSome_iff_ne_none.2 fun absent => ?_⟩
    exact Entries.ne_of_get?_eq_none absent _ mem rfl

/-- A schema that is wanted and has the class name is composed. -/
def SomeComposed (b : ManifestBackend) (schemas : Dict Json) (allowed : Option NameSet)
    (className : String) : Prop :=
  ∃ s ∈ candidateSchemas b.toBackend schemas allowed,
    b.naming.modelName s.1 = className ∧ isComposedSchema s.2 = true

instance (b : ManifestBackend) (schemas : Dict Json) (allowed : Option NameSet)
    (className : String) : Decidable (b.SomeComposed schemas allowed className) :=
  inferInstanceAs (Decidable (∃ s ∈ candidateSchemas b.toBackend schemas allowed, _))

theorem someComposed_iff : b.SomeComposed schemas allowed className ↔
    ∃ name schema, schemas.get? name = some schema ∧
      ModelTable.Passes b.toBackend allowed name ∧ b.naming.modelName name = className ∧
      Composes schema := by
  simp only [SomeComposed, Prod.exists, mem_candidateSchemas_iff, ModelTable.passes_iff,
    isComposedSchema_iff, and_assoc]

/-- Under the class name of a composed schema a model stands before its composition comes. -/
theorem exists_get?_of_someComposed (composed : b.SomeComposed schemas allowed className)
    (added : ModelTable.addSchemas b.toBackend schemas properties .empty
      (candidateSchemas b.toBackend schemas allowed) = .ok projected) :
    ∃ m, Dict.get? projected className = some m := by
  obtain ⟨s, mem, named, composed⟩ := composed
  cases ModelTable.get?_of_addSchemas added className with
  | kept none _ =>
      have nothing := none s mem named
      obtain ⟨made, ok⟩ :=
        @exists_ofSchema_of_isComposedSchema b schemas properties s composed
      rw [(TableModel.ofSchema_eq_ok ok).1] at nothing
      cases nothing
  | @replaced front back t m split shared ok named none stands => exact ⟨m, stands⟩

/-! ## Flags -/

/-- The model, marked if the class name is that of a composed schema. -/
def markComposed (b : ManifestBackend) (schemas : Dict Json) (allowed : Option NameSet)
    (className : String) (m : TableModel) : TableModel :=
  if b.SomeComposed schemas allowed className then m.mark Key.composedExtension (.bool true)
  else m

/-- **A table of a manifest is that of the projected schemas, with flags set.** -/
theorem eq_of_build
    (added : ModelTable.addSchemas b.toBackend schemas properties .empty
      (candidateSchemas b.toBackend schemas allowed) = .ok projected)
    (built : ModelTable.build b.toBackend schemas allowed properties = .ok table) :
    table = Dict.mapValues (b.markComposed schemas allowed) projected := by
  obtain ⟨projected', composed, first, asked, merges⟩ :=
    ModelTable.merged_of_build (fun _ => rfl) built
  rw [added] at first
  cases first
  have listed : composedModels schemas = composed := Except.ok.inj asked
  subst listed
  refine Dict.ext_get? fun className => ?_
  rw [Dict.get?_mapValues]
  replace merges := merges className
  have stems (model : ModelProjection) := @mem_touching_iff b schemas allowed className model
  generalize ModelTable.touching b.toBackend schemas allowed (composedModels schemas) className
    = touching at merges stems
  cases merges with
  | untouched same =>
      have simple : ¬ b.SomeComposed schemas allowed className := by
        rintro ⟨s, mem, named, composed⟩
        exact absurd ((stems _).2 ⟨s, mem, composed, named, rfl⟩) List.not_mem_nil
      rw [same]
      cases Dict.get? projected className with
      | none => rfl
      | some m => rw [Option.map_some, markComposed, if_neg simple]
  | @flagged _ first last base heads ends from_ same =>
      obtain ⟨s, mem, composed, named, -⟩ := (stems _).1 (List.mem_of_mem_head? heads)
      obtain ⟨t, -, -, -, rfl⟩ := (stems _).1 (List.mem_of_getLast? ends)
      have shared : b.SomeComposed schemas allowed className := ⟨s, mem, named, composed⟩
      obtain ⟨m, stands⟩ := exists_get?_of_someComposed shared added
      cases from_ with
      | stands is =>
          rw [same, is, Option.map_some, markComposed, if_pos shared]
          rfl
      | made none _ =>
          rw [stands] at none
          cases none

/-- A model of a manifest is marked as composed where a composed schema with its class name is
wanted, and otherwise as a property says. -/
theorem isComposed_of_build
    (built : ModelTable.build b.toBackend schemas allowed properties = .ok table)
    (stands : Dict.get? table className = some m) :
    m.isComposed = true ↔ b.SomeComposed schemas allowed className ∨
      isSetFlag (properties.get? Key.composedExtension) = true := by
  obtain ⟨projected, added⟩ := b.obliging.addSchemas schemas properties
    (candidateSchemas b.toBackend schemas allowed) .empty
  have unset : projected.Forall fun _ m =>
      m.context.get? Key.composedExtension = properties.get? Key.composedExtension := by
    refine ModelTable.forall_addSchemas .empty (fun s _ m made => ?_) added
    obtain ⟨model, ok⟩ := TableModel.exists_ofProjection_of_ofSchema made
    exact TableModel.get?_of_ofProjection_of_notMem (fun _ => rfl) ok (by decide +kernel)
  rw [eq_of_build added built, Dict.get?_mapValues] at stands
  obtain ⟨before, there, rfl⟩ := Option.map_eq_some_iff.1 stands
  by_cases composed : b.SomeComposed schemas allowed className
  · rw [markComposed, if_pos composed, TableModel.isComposed_mark]
    simp [composed]
  · rw [markComposed, if_neg composed, TableModel.isComposed, unset className before there]
    simp [composed]

/-- **The flag of a model is exact.**  Compositions add nothing to what the schemas have made: the
table holds the same class names, names and models as before.  And where no property speaks of the
flag, a model is marked as composed exactly where a schema that is wanted and has its class name is
composed. -/
theorem build_flags_compositions (b : ManifestBackend) (schemas properties : Dict Json)
    (allowed : Option NameSet) (silent : properties.get? Key.composedExtension = none) :
    ∃ projected table,
      ModelTable.addSchemas b.toBackend schemas properties .empty
        (candidateSchemas b.toBackend schemas allowed) = .ok projected ∧
      ModelTable.build b.toBackend schemas allowed properties = .ok table ∧
      Dict.keys table = Dict.keys projected ∧
      ∀ className m, Dict.get? table className = some m →
        (∃ before, Dict.get? projected className = some before ∧ m.name = before.name ∧
          m.className = before.className ∧ m.model = before.model) ∧
        (m.isComposed = true ↔ ∃ name schema, schemas.get? name = some schema ∧
          ModelTable.Passes b.toBackend allowed name ∧ b.naming.modelName name = className ∧
          Composes schema) := by
  obtain ⟨projected, added⟩ := b.obliging.addSchemas schemas properties
    (candidateSchemas b.toBackend schemas allowed) .empty
  obtain ⟨table, built⟩ := b.obliging.build schemas properties allowed
  have whole := eq_of_build added built
  refine ⟨projected, table, added, built, by rw [whole, Dict.keys_mapValues], ?_⟩
  intro className m stands
  constructor
  · rw [whole, Dict.get?_mapValues] at stands
    obtain ⟨before, there, rfl⟩ := Option.map_eq_some_iff.1 stands
    refine ⟨before, there, ?_⟩
    rw [markComposed]
    split <;> exact ⟨rfl, rfl, rfl⟩
  · rw [isComposed_of_build built stands, silent, someComposed_iff]
    exact or_iff_left Bool.false_ne_true

/-- A composed schema and another one with its class name, which says of itself that it is not
composed. -/
def composedAndSpelledAgain : Dict Json :=
  .ofList [("Pet", .object [("allOf", .arr [])]),
    ("pet", .object [("type", .str "object"), (Key.composedExtension, .bool false)])]

/-- The backend of a manifest that says nothing. -/
def plainManifest : ManifestBackend := ⟨.standard, ⟨""⟩, none⟩

theorem build_flags_compositions_pet :
    (.empty : Dict Json).get? Key.composedExtension = none ∧
      ∃ table m, ModelTable.build plainManifest.toBackend composedAndSpelledAgain none .empty
          = .ok table ∧
        Dict.get? table "Pet" = some m ∧ m.name = "pet" ∧ m.isComposed = true := by
  obtain ⟨projected, table, -, built, -, flags⟩ := build_flags_compositions
    plainManifest composedAndSpelledAgain .empty none rfl
  have last : ((ModelTable.build plainManifest.toBackend composedAndSpelledAgain none
      .empty).toOption.bind fun (table : ModelTable) =>
        (Dict.get? table "Pet").map TableModel.name) = some "pet" := by decide +kernel
  obtain ⟨table', made, found⟩ := Option.bind_eq_some_iff.1 last
  obtain ⟨m, stands, named⟩ := Option.map_eq_some_iff.1 found
  have same : table' = table := Except.ok.inj ((eq_ok_of_toOption made).symm.trans built)
  rw [same] at stands
  refine ⟨rfl, table, m, built, stands, named, (flags "Pet" m stands).2.2 ?_⟩
  have passes : ModelTable.Passes plainManifest.toBackend none "Pet" :=
    ⟨fun _ impossible => (nomatch impossible), fun _ => rfl⟩
  have named : plainManifest.naming.modelName "Pet" = "Pet" := by decide +kernel
  have composes : Composes (.object [("allOf", .arr [])]) :=
    ⟨_, "allOf", .arr [], rfl, by simp, List.mem_singleton.2 rfl⟩
  exact ⟨"Pet", _, rfl, passes, named, composes⟩

end ManifestBackend

end ApiForge
