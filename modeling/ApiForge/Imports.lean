import ApiForge.Backend
/-
# ApiForge.Imports -- what generated code imports

A reference to a type becomes what it is mapped to, or the backend's name for it.  The
result is a set, so neither the order nor the number of references shows in it.
-/

namespace ApiForge

set_option autoImplicit false

/-- What an import of the type names. -/
def importOf (backend : Backend) (reference : String) : String :=
  (backend.types.importMapping.get? reference).getD (backend.naming.modelImport reference)

/-- The imports of a group of operations. -/
def operationImports (backend : Backend) (references : List String) : NameSet :=
  .ofList ((references.map (importOf backend)).filter fun name => !name.isEmpty)

/-- The imports of a model: also what is needed to make instances, but nothing that the
language has already. -/
def modelImports (backend : Backend) (references : List String) : NameSet :=
  let mapped (r : String) : List String :=
    let name := importOf backend r
    if name.isEmpty then [] else [name]
  let instances (r : String) : List String := (backend.types.instantiationTypes.get? r).toList
  .ofList ((references.flatMap fun r => mapped r ++ instances r).filter fun name =>
    !backend.types.defaultIncludes.contains name)

/-- Imports as templates see them. -/
def encodeImports (imports : NameSet) : Json :=
  .arr (imports.names.map fun name => .obj [(Key.importName, .str name)])

end ApiForge
