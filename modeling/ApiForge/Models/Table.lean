import ApiForge.Projection
/-
# ApiForge.Models.Table -- the models of a run

Every model stands under its class name with the context that its templates see.  The
table is a map, so a class name stands for one model and the models come in name order.
-/

namespace ApiForge

set_option autoImplicit false

/-- One model of a run. -/
structure TableModel where
  /-- The name of the schema. -/
  name : String
  className : String
  model : ModelProjection
  context : Context
deriving Inhabited

namespace TableModel

/-- The first entry of the list of models in the context. -/
def entry? (m : TableModel) : Option Json :=
  match m.context.get? Key.models with
  | some (.arr (entry :: _)) => some entry
  | _ => none

/-- Is the model an alias, as its context has it now? -/
def isAlias (m : TableModel) : Bool :=
  match m.entry?.bind (·.field? Key.model) with
  | some model => vendorFlag model Key.aliasExtension
  | none => false

/-- Is the model composed, as its context has it now? -/
def isComposed (m : TableModel) : Bool := isSetFlag (m.context.get? Key.composedExtension)

/-- Set an entry of the context. -/
def mark (m : TableModel) (name : String) (value : Json) : TableModel :=
  { m with context := m.context.insert name value }

end TableModel

/-- The models of a run, by class name. -/
abbrev ModelTable := Dict TableModel

/-- Put a model under its class name. -/
def ModelTable.add (t : ModelTable) (m : TableModel) : ModelTable := Dict.insert t m.className m

end ApiForge
