import ApiForge.Imports
/-
# ApiForge.Models.Build -- from schemas to models

The table of a run is made in three steps.  Every schema that is wanted is projected.
Then come the models that compositions make: where there is a model of the same class
name only its flag is set, and otherwise a model without a schema is put in.  Last, the
backend may change the table as a whole.
-/

namespace ApiForge

set_option autoImplicit false

/-- The schemas to project: those that do not stand for a type from elsewhere and, where
there is a list of names, that are on it. -/
def candidateSchemas (backend : Backend) (schemas : Dict Json) (allowed : Option NameSet) :
    List (String × Json) :=
  schemas.entries.filter fun s =>
    !backend.types.isMapped s.1 && allowed.all (·.contains s.1)

namespace TableModel

/-- What a list of models holds for a model. -/
def entryFor (backend : Backend) (model : ModelProjection) (schema : Json) : Json :=
  .object [(Key.model, model.toJson), (Key.schema, schema),
    (Key.importPath, .str (backend.naming.modelImport model.className))]

/-- The context of a model before the backend sees it. -/
def draftContext (backend : Backend) (model : ModelProjection) (schema : Json) : Context :=
  .ofList [
    (Key.package, .str backend.layout.modelPackage),
    (Key.models, .arr [entryFor backend model schema]),
    (Key.imports, encodeImports (modelImports backend model.imports))]

/-- The context of a model. -/
def contextFor (backend : Backend) (properties : Dict Json) (model : ModelProjection)
    (name : String) (schema : Json) : Except Cause Context :=
  (backend.hooks.postProcessModel (draftContext backend model schema)).map fun context =>
    (context.insert Key.classname (.str (backend.naming.modelName name))).extend properties

/-- A model of the table. -/
def ofProjection (backend : Backend) (properties : Dict Json) (name : String)
    (model : ModelProjection) (schema : Json) : Except Cause TableModel :=
  (contextFor backend properties model name schema).map fun context =>
    ⟨name, backend.naming.modelName name, model, context⟩

/-- The model of a schema, where the backend makes one. -/
def ofSchema (backend : Backend) (schemas properties : Dict Json) (name : String)
    (schema : Json) : Except Cause (Option TableModel) := do
  match ← backend.projector.ofSchema name schema schemas with
  | none => return none
  | some model => return some (← ofProjection backend properties name model schema)

end TableModel

namespace ModelTable

/-- Project schemas, one after the other. -/
def addSchemas (backend : Backend) (schemas properties : Dict Json) :
    ModelTable → List (String × Json) → Except Failure ModelTable
  | table, [] => .ok table
  | table, (name, schema) :: rest =>
    match TableModel.ofSchema backend schemas properties name schema with
    | .error cause => .error (.model name cause)
    | .ok none => addSchemas backend schemas properties table rest
    | .ok (some model) => addSchemas backend schemas properties (table.add model) rest

/-- May a composition with this name make a model?  It may not stand in for a schema that
is not wanted. -/
def admitsComposed (schemas : Dict Json) (candidates : List String) (name : String) : Bool :=
  !schemas.contains name || candidates.contains name

/-- Put in one model that a composition makes. -/
def addComposed (backend : Backend) (properties : Dict Json) (table : ModelTable)
    (model : ModelProjection) : Except Failure ModelTable :=
  let className := backend.naming.modelName model.name
  let flag : Json := .bool model.isComposed
  match Dict.get? table className with
  | some existing => .ok (Dict.insert table className (existing.mark Key.composedExtension flag))
  | none =>
    match TableModel.ofProjection backend properties model.name model .null with
    | .error cause => .error (.model model.name cause)
    | .ok made => .ok (table.add (made.mark Key.composedExtension flag))

def addAllComposed (backend : Backend) (properties : Dict Json) :
    ModelTable → List ModelProjection → Except Failure ModelTable
  | table, [] => .ok table
  | table, model :: rest => do
    addAllComposed backend properties (← addComposed backend properties table model) rest

/-- The models of a run. -/
def build (backend : Backend) (schemas : Dict Json) (allowed : Option NameSet)
    (properties : Dict Json) : Except Failure ModelTable := do
  let candidates := candidateSchemas backend schemas allowed
  let projected ← addSchemas backend schemas properties .empty candidates
  let composed ← (backend.projector.composedModels schemas projected).mapError
    (.model "<composed>")
  let admitted := composed.filter fun m =>
    admitsComposed schemas (candidates.map Prod.fst) m.name
  let table ← addAllComposed backend properties projected admitted
  (backend.hooks.postProcessTable table).mapError (.model "<all models>")

end ModelTable

end ApiForge
