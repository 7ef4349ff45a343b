import ApiForge.Proofs.Identifiers
import ApiForge.Proofs.Models.Kept
import ApiForge.Proofs.Models.Table
import ApiForge.Proofs.Run.Obliging
/-
# ApiForge.Proofs.Imports -- what is imported is what is declared

An import of a type is what the type is mapped to or what the backend calls it
(`mem_operationImports_iff`, `mem_modelImports_iff`).  Nothing else shows in a list of imports,
neither the order of the references nor their number (`imports_canonical`).

A model declares the path by which it is imported in the entry of its context.  With the backend
of a manifest the two are made from different spellings: whoever refers to a schema has the name
of the schema, and the model has the name of its class.  They agree because the type name of a
type name is the type name itself (`ManifestBackend.importPath_of_build`), so every spelling of a
name leads to the path that is declared (`ManifestBackend.imports_declared`).
-/

namespace ApiForge

set_option autoImplicit false

/-! ## What is imported -/

section Imports

variable {backend : Backend} {references : List String} {reference name : String}

theorem importOf_of_unmapped (unmapped : backend.types.importMapping.get? reference = none) :
    importOf backend reference = backend.naming.modelImport reference := by
  rw [importOf, unmapped, Option.getD_none]

/-- Operations import what their references stand for, where it has a name. -/
theorem mem_operationImports_iff : name ∈ operationImports backend references ↔
    name ≠ "" ∧ ∃ r ∈ references, importOf backend r = name := by
  simp only [operationImports, NameSet.mem_ofList, List.mem_filter, List.mem_map,
    Bool.not_eq_true', String.isEmpty_eq_false_iff]
  exact and_comm

/-- One reference that has a name makes one import. -/
theorem operationImports_singleton (called : importOf backend reference = name)
    (named : name ≠ "") : (operationImports backend [reference]).names = [name] := by
  rw [operationImports, List.map_singleton, called, List.filter_cons_of_pos (by simpa using named)]
  rfl

/-- Models import what their references stand for, where it has a name, and what makes
instances of them; neither if the language has it already. -/
theorem mem_modelImports_iff : name ∈ modelImports backend references ↔
    name ∉ backend.types.defaultIncludes ∧ ∃ r ∈ references,
      (name ≠ "" ∧ importOf backend r = name) ∨
        backend.types.instantiationTypes.get? r = some name := by
  have mapped (r : String) : (name ∈ if (importOf backend r).isEmpty then []
      else [importOf backend r]) ↔ name ≠ "" ∧ importOf backend r = name := by
    split
    · rename_i empty
      refine iff_of_false List.not_mem_nil fun ⟨ne, same⟩ => ne ?_
      rw [← same, String.isEmpty_iff.1 empty]
    · rename_i some
      rw [List.mem_singleton, eq_comm, iff_and_self]
      rintro same rfl
      exact some (String.isEmpty_iff.2 same)
  simp only [modelImports, NameSet.mem_ofList, List.mem_filter, List.mem_flatMap,
    List.mem_append, mapped, Option.mem_toList, Bool.not_eq_true',
    Bool.eq_false_iff, ne_eq, NameSet.contains_iff]
  exact and_comm

/-- The reference is mapped to the name, or it is not mapped and the backend imports it by the
name. -/
def Backend.Targets (backend : Backend) (reference name : String) : Prop :=
  backend.types.importMapping.get? reference = some name ∨
    backend.types.importMapping.get? reference = none ∧
      backend.naming.modelImport reference = name

theorem targets_iff : backend.Targets reference name ↔ importOf backend reference = name := by
  rw [Backend.Targets, importOf]
  cases backend.types.importMapping.get? reference <;> simp

/-! ## One list for one set of references -/

variable {references' : List String}

theorem operationImports_congr (same : ∀ r, r ∈ references ↔ r ∈ references') :
    operationImports backend references = operationImports backend references' := by
  apply NameSet.ext_mem
  intro name
  simp only [mem_operationImports_iff, same]

theorem modelImports_congr (same : ∀ r, r ∈ references ↔ r ∈ references') :
    modelImports backend references = modelImports backend references' := by
  apply NameSet.ext_mem
  intro name
  simp only [mem_modelImports_iff, same]

/-- Where instances need nothing more and the language has nothing already, models import what
operations import. -/
theorem modelImports_eq_operationImports (bare : backend.types.instantiationTypes = .empty)
    (alone : backend.types.defaultIncludes = .empty) (references : List String) :
    modelImports backend references = operationImports backend references := by
  apply NameSet.ext_mem
  intro name
  rw [mem_modelImports_iff, mem_operationImports_iff, bare, alone]
  simp only [NameSet.not_mem_empty, not_false_eq_true, true_and, Dict.get?_empty, reduceCtorEq,
    or_false]
  constructor
  · rintro ⟨r, mem, named, called⟩
    exact ⟨named, r, mem, called⟩
  · rintro ⟨named, r, mem, called⟩
    exact ⟨r, mem, named, called⟩

/-- **Imports are lists in normal form.**  References of one set make one list, whatever their
order and however often they come; the list increases, and it holds exactly what some reference
stands for and has a name, in models also what makes instances of it and nothing that the language
has already.  Where there is nothing of the latter two, models and operations import alike. -/
theorem imports_canonical (backend : Backend) :
    (∀ references references' : List String, (∀ r, r ∈ references ↔ r ∈ references') →
      (operationImports backend references).names = (operationImports backend references').names ∧
      (modelImports backend references).names = (modelImports backend references').names) ∧
    (∀ references,
      (operationImports backend references).names.Pairwise (· < ·) ∧
      (modelImports backend references).names.Pairwise (· < ·) ∧
      (∀ name, name ∈ (operationImports backend references).names ↔
        name ≠ "" ∧ ∃ r ∈ references, backend.Targets r name) ∧
      (∀ name, name ∈ (modelImports backend references).names ↔
        name ∉ backend.types.defaultIncludes ∧ ∃ r ∈ references,
          (name ≠ "" ∧ backend.Targets r name) ∨
            backend.types.instantiationTypes.get? r = some name)) ∧
    (backend.types.instantiationTypes = .empty → backend.types.defaultIncludes = .empty →
      ∀ references,
        (operationImports backend references).names = (modelImports backend references).names) := by
  refine ⟨fun references references' same => ?_, fun references => ?_,
    fun bare alone references => ?_⟩
  · rw [operationImports_congr same, modelImports_congr same]
    exact ⟨rfl, rfl⟩
  · simp only [targets_iff]
    exact ⟨NameSet.sorted _, NameSet.sorted _, fun _ => mem_operationImports_iff,
      fun _ => mem_modelImports_iff⟩
  · rw [modelImports_eq_operationImports bare alone]

end Imports

/-! ## What is declared -/

/-- The entry of a model declares what an import of its class names. -/
theorem TableModel.importPath_entryFor (backend : Backend) (model : ModelProjection)
    (schema : Json) : (entryFor backend model schema).field? Key.importPath
      = some (.str (backend.naming.modelImport model.className)) := by
  simp [entryFor, Json.object, Json.field?, Entries.ofList, Entries.get?_insert, Key.model,
    Key.schema, Key.importPath]

namespace ManifestBackend

/-- The model of a schema goes by the type name of the schema. -/
theorem className_of_projectSchema {name : String} {schema : Json} {model : ModelProjection}
    (made : projectSchema name schema = some model) :
    model.className = Naming.typeName name := by
  cases schema with
  | obj fields =>
      cases made
      rfl
  | _ => cases made

variable {b : ManifestBackend} {schemas properties : Dict Json} {allowed : Option NameSet}
  {table : ModelTable}

/-- A model goes by the type name of its schema, whether a schema or a composition makes
it. -/
theorem className_of_build
    (built : ModelTable.build b.toBackend schemas allowed properties = .ok table) :
    table.Forall fun _ m => m.model.className = Naming.typeName m.name := by
  refine ModelTable.forall_of_build_of_made (fun _ _ _ called => called) (fun _ => rfl) ?_ ?_ built
  · intro s _ m made
    obtain ⟨projected, fields⟩ := TableModel.ofSchema_eq_ok made
    rw [(fields m rfl).1]
    exact className_of_projectSchema (Except.ok.inj projected)
  · intro _ models composed model mem m made
    cases composed
    obtain ⟨e, -, rfl⟩ := List.mem_map.1 mem
    obtain ⟨named, -, same⟩ := TableModel.fields_of_ofProjection made
    rw [named, same]
    rfl

/-- **A type is imported alike by its own name and by that of the schema.** -/
theorem modelImport_typeName (n : String) :
    b.naming.modelImport (Naming.typeName n) = b.naming.modelImport n :=
  congrArg (qualified b.manifest.modelPackage) (Naming.typeName_typeName n)

/-- **A model declares the path that its schema is imported by**, and so does every model
that has its class name. -/
theorem importPath_of_build
    (built : ModelTable.build b.toBackend schemas allowed properties = .ok table)
    {key n : String} {m : TableModel} (stands : Dict.get? table key = some m)
    (called : Naming.typeName m.name = Naming.typeName n) :
    ∃ schema, m.context.get? Key.models = (properties.get? Key.models).or
        (some (.arr [TableModel.entryFor b.toBackend m.model schema])) ∧
      (TableModel.entryFor b.toBackend m.model schema).field? Key.importPath
        = some (.str (b.naming.modelImport n)) := by
  have plain : ∀ context, b.toBackend.hooks.postProcessModel context = .ok context := fun _ => rfl
  obtain ⟨schema, listed⟩ := ModelTable.lists_of_build plain (fun _ => rfl) built key m stands
  refine ⟨schema, listed, ?_⟩
  rw [TableModel.importPath_entryFor, className_of_build built key m stands, called]
  exact congrArg (fun path => some (Json.str path)) (modelImport_typeName n)

/-- **What refers to a schema imports the path that the model of the schema declares**, in
whatever way the name of the schema is spelled. -/
theorem imports_declared (b : ManifestBackend) {n : String}
    (unmapped : b.manifest.importMappings.get? n = none)
    (named : b.naming.modelImport n ≠ "") :
    ((operationImports b.toBackend [n]).names = [b.naming.modelImport n] ∧
      ∀ references, n ∈ references →
        b.naming.modelImport n ∈ operationImports b.toBackend references) ∧
    ((∀ path, path ∈ modelImports b.toBackend [n] ↔ path ∉ b.manifest.defaultIncludes ∧
        (path = b.naming.modelImport n ∨ b.manifest.instantiationTypes.get? n = some path)) ∧
      ∀ references, n ∈ references → b.naming.modelImport n ∉ b.manifest.defaultIncludes →
        b.naming.modelImport n ∈ modelImports b.toBackend references) ∧
    ∀ schemas allowed properties, ∃ table,
      ModelTable.build b.toBackend schemas allowed properties = .ok table ∧
      (∀ model, Makes b.toBackend schemas allowed n model →
        ∃ m, Dict.get? table (Naming.typeName n) = some m) ∧
      ∀ key m, Dict.get? table key = some m → Naming.typeName m.name = Naming.typeName n →
        ∃ schema, m.context.get? Key.models = (properties.get? Key.models).or
            (some (.arr [TableModel.entryFor b.toBackend m.model schema])) ∧
          (TableModel.entryFor b.toBackend m.model schema).field? Key.importPath
            = some (.str (b.naming.modelImport n)) := by
  have imported : importOf b.toBackend n = b.naming.modelImport n := importOf_of_unmapped unmapped
  refine ⟨⟨?_, fun references mem => ?_⟩, ⟨fun path => ?_, fun references mem needed => ?_⟩,
    fun schemas allowed properties => ?_⟩
  · exact operationImports_singleton imported named
  · exact mem_operationImports_iff.2 ⟨named, n, mem, imported⟩
  · rw [mem_modelImports_iff]
    refine and_congr_right fun _ => ?_
    simp only [List.mem_singleton, exists_eq_left, imported]
    refine or_congr_left ⟨fun ⟨_, same⟩ => same.symm, ?_⟩
    rintro rfl
    exact ⟨named, rfl⟩
  · exact mem_modelImports_iff.2 ⟨needed, n, mem, .inl ⟨named, imported⟩⟩
  · obtain ⟨table, built⟩ := b.obliging.build schemas properties allowed
    refine ⟨table, built, fun model makes => ?_, fun key m => importPath_of_build built⟩
    obtain ⟨-, -, m, -, -, -, stands, -⟩ := ModelTable.last_of_build (fun _ => rfl) built makes
    exact ⟨m, stands⟩

/-- The backend of a manifest with a package for models. -/
def packagedBackend : ManifestBackend :=
  ⟨{ Manifest.standard with modelPackage := "models" }, ⟨""⟩, none⟩

theorem imports_declared_of_odd_name :
    packagedBackend.manifest.importMappings.get? "1st-größe" = none ∧
      packagedBackend.naming.modelImport "1st-größe" ≠ "" ∧
      (operationImports packagedBackend.toBackend ["1st-größe"]).names = ["models.1stGrE"] ∧
      ∃ table m, ModelTable.build packagedBackend.toBackend
          (.ofList [("1st-größe", .object [("type", .str "object")])]) none .empty = .ok table ∧
        Dict.get? table "1stGrE" = some m ∧
        ∃ schema, m.context.get? Key.models
            = some (.arr [TableModel.entryFor packagedBackend.toBackend m.model schema]) ∧
          (TableModel.entryFor packagedBackend.toBackend m.model schema).field? Key.importPath
            = some (.str "models.1stGrE") := by
  have unmapped : packagedBackend.manifest.importMappings.get? "1st-größe" = none := rfl
  have path : packagedBackend.naming.modelImport "1st-größe" = "models.1stGrE" := by
    decide
  have type : Naming.typeName "1st-größe" = "1stGrE" := by decide
  have named : packagedBackend.naming.modelImport "1st-größe" ≠ "" := by rw [path]; decide
  obtain ⟨⟨used, -⟩, -, declared⟩ := imports_declared packagedBackend unmapped named
  obtain ⟨table, built, stands, entries⟩ := declared
    (.ofList [("1st-größe", .object [("type", .str "object")])]) none .empty
  obtain ⟨m, stands⟩ := stands _ ⟨_, rfl, rfl, rfl, rfl⟩
  have called := (ModelTable.named_of_build (fun _ => rfl) built _ m stands).2
  have entry := entries _ m stands called
  rw [path] at used entry
  rw [type] at stands
  exact ⟨unmapped, named, used, table, m, built, stands, entry⟩

end ManifestBackend

end ApiForge
