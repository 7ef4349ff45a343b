import ApiForge.Backend.ManifestBackend
import ApiForge.Proofs.Path
import Mathlib.Data.List.Forall2
/-
# ApiForge.Proofs.References -- which references are found

A value refers to a schema where an object anywhere in it has a field `$ref` that names the
schema (`Json.RefersTo`).  Collecting does not look into such fields, so it finds exactly what a
value refers to outside of them (`mem_collectReferences_iff`), and what it misses stands in a
field `$ref` (`Json.refersTo_iff`).  The models and operations of a manifest import what was
found, a model without itself (`ManifestBackend.references_imported`).

A schema may have a property that is called `$ref`.  What that property refers to is missed
(`property_called_ref_is_missed`).
-/

namespace ApiForge

set_option autoImplicit false

namespace Json

/-! ## What stands in a value -/

/-- The part stands in a value: it is the value, or it stands in an item or in a field that
`enters` lets in. -/
inductive Holds (enters : String → Prop) : Json → Json → Prop
  | self (j : Json) : Holds enters j j
  | item {items : List Json} {j part : Json} :
      j ∈ items → Holds enters j part → Holds enters (.arr items) part
  | field {fields : List (String × Json)} {name : String} {j part : Json} :
      (name, j) ∈ fields → enters name → Holds enters j part → Holds enters (.obj fields) part

/-- Some object that stands in a value has a reference to the schema `n`. -/
def Refers (enters : String → Prop) (j : Json) (n : String) : Prop :=
  ∃ fields, Holds enters j (.obj fields) ∧ ("$ref", .str (schemaReference ++ n)) ∈ fields

/-- A value refers to a schema, wherever in it. -/
def RefersTo (j : Json) (n : String) : Prop := Refers (fun _ => True) j n

/-- A value refers to a schema, and not from inside a field `$ref`. -/
def RefersOpenly (j : Json) (n : String) : Prop := Refers (· ≠ "$ref") j n

section Refers

variable {enters : String → Prop} {n : String}

theorem refers_arr_iff {items : List Json} :
    Refers enters (.arr items) n ↔ ∃ j ∈ items, Refers enters j n := by
  constructor
  · rintro ⟨fields, holds, named⟩
    cases holds with
    | item mem inside => exact ⟨_, mem, fields, inside, named⟩
  · rintro ⟨j, mem, fields, inside, named⟩
    exact ⟨fields, .item mem inside, named⟩

theorem refers_obj_iff {fields : List (String × Json)} :
    Refers enters (.obj fields) n ↔
      ∃ f ∈ fields, f = ("$ref", .str (schemaReference ++ n)) ∨
        (enters f.1 ∧ Refers enters f.2 n) := by
  constructor
  · rintro ⟨inner, holds, named⟩
    cases holds with
    | self => exact ⟨_, named, .inl rfl⟩
    | field mem enter inside => exact ⟨_, mem, .inr ⟨enter, inner, inside, named⟩⟩
  · rintro ⟨f, mem, rfl | ⟨enter, inner, inside, named⟩⟩
    · exact ⟨fields, .self _, mem⟩
    · exact ⟨inner, .field mem enter inside, named⟩

theorem Holds.trans {j part inner : Json} (outer : Holds enters j part)
    (holds : Holds enters part inner) : Holds enters j inner := by
  induction outer with
  | self => exact holds
  | item mem _ ih => exact .item mem (ih holds)
  | field mem enter _ ih => exact .field mem enter (ih holds)

theorem Holds.mono {wider : String → Prop} (admits : ∀ name, enters name → wider name)
    {j part : Json} (holds : Holds enters j part) : Holds wider j part := by
  induction holds with
  | self => exact .self _
  | item mem _ ih => exact .item mem ih
  | field mem enter _ ih => exact .field mem (admits _ enter) ih

end Refers

/-- **What a value refers to, it refers to openly or from inside a field `$ref`.** -/
theorem refersTo_iff {j : Json} {n : String} : j.RefersTo n ↔ j.RefersOpenly n ∨
    ∃ fields value, Holds (· ≠ "$ref") j (.obj fields) ∧ ("$ref", value) ∈ fields ∧
      value.RefersTo n := by
  have widen {j part : Json} (holds : Holds (· ≠ "$ref") j part) : Holds (fun _ => True) j part :=
    holds.mono fun _ _ => trivial
  constructor
  · rintro ⟨fields, holds, named⟩
    -- The first field `$ref` on the way down is the one that hides the reference.
    generalize whole : Json.obj fields = part at holds
    induction holds with
    | self j => exact .inl ⟨fields, whole ▸ .self _, named⟩
    | item mem _ ih =>
        obtain ⟨inner, openly, refers⟩ | ⟨inner, value, above, field, refers⟩ := ih whole
        · exact .inl ⟨inner, .item mem openly, refers⟩
        · exact .inr ⟨inner, value, .item mem above, field, refers⟩
    | @field outer name j _ mem _ inside ih =>
        by_cases hides : name = "$ref"
        · exact .inr ⟨outer, j, .self _, hides ▸ mem, fields, whole ▸ inside, named⟩
        obtain ⟨inner, openly, refers⟩ | ⟨inner, value, above, field, refers⟩ := ih whole
        · exact .inl ⟨inner, .field mem hides openly, refers⟩
        · exact .inr ⟨inner, value, .field mem hides above, field, refers⟩
  · rintro (⟨fields, openly, named⟩ | ⟨fields, value, above, field, inner, inside, named⟩)
    · exact ⟨fields, widen openly, named⟩
    · exact ⟨inner, (widen above).trans (.field field trivial inside), named⟩

end Json

/-! ## What is found -/

theorem referredSchema?_eq_some_iff {j : Json} {n : String} :
    referredSchema? j = some n ↔ j = .str (schemaReference ++ n) := by
  cases j with
  | str s => simp [referredSchema?, Text.stripHead?_eq_some_iff]
  | _ => simp [referredSchema?]

mutual

theorem mem_referencesIn_iff {n : String} : ∀ j : Json,
    n ∈ referencesIn j ↔ j.RefersOpenly n
  | .arr items => by
      rw [referencesIn, mem_referencesInItems_iff items, Json.RefersOpenly, Json.refers_arr_iff]
      rfl
  | .obj fields => by
      rw [referencesIn, mem_referencesInFields_iff fields, Json.RefersOpenly, Json.refers_obj_iff]
      rfl
  | .null | .bool _ | .int _ | .float _ | .str _ => by
      refine iff_of_false (by simp [referencesIn]) ?_
      rintro ⟨fields, holds, -⟩
      cases holds

theorem mem_referencesInItems_iff {n : String} : ∀ items : List Json,
    n ∈ referencesInItems items ↔ ∃ j ∈ items, j.RefersOpenly n
  | [] => by simp [referencesInItems]
  | j :: rest => by
      rw [referencesInItems, List.mem_append, mem_referencesIn_iff j,
        mem_referencesInItems_iff rest, List.exists_mem_cons_iff]

theorem mem_referencesInFields_iff {n : String} : ∀ fields : List (String × Json),
    n ∈ referencesInFields fields ↔ ∃ f ∈ fields,
      f = ("$ref", .str (schemaReference ++ n)) ∨ (f.1 ≠ "$ref" ∧ f.2.RefersOpenly n)
  | [] => by simp [referencesInFields]
  | (name, j) :: rest => by
      rw [referencesInFields, List.mem_append, mem_referencesInFields_iff rest,
        List.exists_mem_cons_iff]
      refine or_congr_left ?_
      by_cases ref : name = "$ref"
      · simp [ref, referredSchema?_eq_some_iff]
      · simp [ref, mem_referencesIn_iff j]

end

/-- **Exactly the open references are found.** -/
theorem mem_collectReferences_iff {j : Json} {n : String} :
    n ∈ collectReferences j ↔ j.RefersOpenly n := by
  rw [collectReferences, NameSet.mem_ofList, mem_referencesIn_iff]

/-! ## What is imported -/

namespace ManifestBackend

theorem mem_modelReferences_iff {name n : String} {schema : Json} :
    n ∈ modelReferences name schema ↔ n ≠ name ∧ schema.RefersOpenly n := by
  rw [← mem_collectReferences_iff]
  exact NameSet.mem_erase

theorem mem_getD_map_iff {α β : Type} {o : Option α} {f : α → List β} {x : β} :
    x ∈ (o.map f).getD [] ↔ ∃ a ∈ o, x ∈ f a := by
  cases o <;> simp

theorem mem_operationReferences_iff {operation : Operation} {n : String} :
    n ∈ operationReferences operation ↔
      (∃ p ∈ operation.parameters.getD [], ∃ schema ∈ p.schema, schema.RefersOpenly n) ∨
      (∃ body ∈ operation.requestBody, body.RefersOpenly n) ∨
      ∃ responses ∈ operation.responses, ∃ r ∈ responses.values, r.RefersOpenly n := by
  rw [operationReferences, NameSet.mem_ofList, List.mem_append, List.mem_append, or_assoc]
  refine or_congr ?_ (or_congr ?_ ?_)
  · simp only [List.mem_flatMap, mem_getD_map_iff, mem_referencesIn_iff]
  · simp only [mem_getD_map_iff, mem_referencesIn_iff]
  · simp only [List.mem_flatMap, mem_getD_map_iff, mem_referencesIn_iff]
    constructor
    · rintro ⟨r, ⟨responses, there, mem⟩, refers⟩
      exact ⟨responses, there, r, mem, refers⟩
    · rintro ⟨responses, there, r, mem, refers⟩
      exact ⟨r, ⟨responses, there, mem⟩, refers⟩

/-- **References become imports.**  What is collected from a value is what the value refers to
openly, and a reference that is missed stands in a field `$ref`.  The model of a schema imports
what the schema refers to openly, apart from itself, and so does a model that a composition makes.
An operation imports what the schemas of its parameters, its request body and its responses refer
to openly. -/
theorem references_imported (b : ManifestBackend) :
    (∀ (j : Json) (n : String), (n ∈ collectReferences j ↔ j.RefersOpenly n) ∧
      (j.RefersTo n ↔ n ∈ collectReferences j ∨
        ∃ fields value, Json.Holds (· ≠ "$ref") j (.obj fields) ∧ ("$ref", value) ∈ fields ∧
          value.RefersTo n)) ∧
    (∀ name fields schemas, ∃ model,
      b.toBackend.projector.ofSchema name (.obj fields) schemas = .ok (some model) ∧
        ∀ n, n ∈ model.imports ↔ n ≠ name ∧ Json.RefersOpenly (.obj fields) n) ∧
    (∀ schemas table, ∃ models,
      b.toBackend.projector.composedModels schemas table = .ok models ∧
        List.Forall₂ (fun s model => model.name = s.1 ∧
            ∀ n, n ∈ model.imports ↔ n ≠ s.1 ∧ s.2.RefersOpenly n)
          (schemas.entries.filter fun s => isComposedSchema s.2) models) ∧
    ∀ path method operation description, ∃ projected,
      b.toBackend.projector.ofOperation path method operation description = .ok projected ∧
        ∀ n, n ∈ projected.imports ↔
          (∃ p ∈ operation.parameters.getD [], ∃ schema ∈ p.schema, schema.RefersOpenly n) ∨
          (∃ body ∈ operation.requestBody, body.RefersOpenly n) ∨
          ∃ responses ∈ operation.responses, ∃ r ∈ responses.values, r.RefersOpenly n := by
  refine ⟨fun j n => ⟨mem_collectReferences_iff, ?_⟩, fun name fields schemas => ?_,
    fun schemas table => ?_, fun path method operation description => ?_⟩
  · rw [mem_collectReferences_iff]
    exact Json.refersTo_iff
  · exact ⟨_, rfl, fun _ => mem_modelReferences_iff⟩
  · refine ⟨_, rfl, List.forall₂_map_right_iff.2 (List.forall₂_same.2 fun s _ => ?_)⟩
    exact ⟨rfl, fun _ => mem_modelReferences_iff⟩
  · exact ⟨_, rfl, fun _ => mem_operationReferences_iff⟩

/-- The reference to a pet. -/
def petReference : Json := .obj [("$ref", .str "#/components/schemas/Pet")]

/-- A schema with one property, which is called `$ref` and is a pet. -/
def propertyCalledRef : Json := .obj [("properties", .obj [("$ref", petReference)])]

/-- **A property that is called `$ref` hides its reference**: the schema refers to a pet, and the
pet is neither found nor imported. -/
theorem property_called_ref_is_missed : propertyCalledRef.RefersTo "Pet" ∧
    (collectReferences propertyCalledRef).names = [] ∧
      (projectSchema "Basket" propertyCalledRef).map ModelProjection.imports = some [] := by
  have stands : Json.Holds (fun _ => True) propertyCalledRef petReference :=
    .field List.mem_cons_self trivial (.field List.mem_cons_self trivial (.self _))
  exact ⟨⟨_, stands, List.mem_cons_self⟩, by decide +kernel, by decide +kernel⟩

end ManifestBackend

end ApiForge
