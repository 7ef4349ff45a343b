import ApiForge.Models.Build
import ApiForge.Output.Task
/-
# ApiForge.Models.Files -- the files of models

A model has sources, tests and documentation.  A backend may want no source for an alias;
such a model is not listed either, but its tests and its documentation remain.
-/

namespace ApiForge

set_option autoImplicit false

namespace ModelTable

/-- The models that files are made for: those that do not stand for a type from
elsewhere. -/
def generated (backend : Backend) (table : ModelTable) : List TableModel :=
  (Dict.values table).filter fun m => !backend.types.isMapped m.name

end ModelTable

namespace TableModel

/-- Has the model no source file, being an alias? -/
def isSuppressed (backend : Backend) (m : TableModel) : Bool :=
  backend.types.checkAliasModel && m.isAlias

def sources (backend : Backend) (m : TableModel) : List Task :=
  if m.isSuppressed backend then []
  else Task.ofTemplates (.model m.name) .source backend.layout.modelFolder
    (backend.naming.modelFilename m.name) backend.layout.modelTemplates m.context

def tests (backend : Backend) (m : TableModel) : List Task :=
  Task.ofTemplates (.model m.name) .test backend.layout.modelTestFolder
    (backend.naming.modelTestFilename m.name) backend.layout.modelTestTemplates m.context

def documentation (backend : Backend) (m : TableModel) : List Task :=
  Task.ofTemplates (.model m.name) .documentation backend.layout.modelDocFolder
    (backend.naming.modelDocFilename m.name) backend.layout.modelDocTemplates m.context

/-- All files of a model. -/
def tasks (backend : Backend) (options : Options) (m : TableModel) : List Task :=
  m.sources backend
    ++ (if options.modelTests then m.tests backend else [])
    ++ (if options.modelDocs then m.documentation backend else [])

end TableModel

namespace ModelTable

/-- The files of all models. -/
def tasks (backend : Backend) (options : Options) (table : ModelTable) : List Task :=
  (table.generated backend).flatMap (·.tasks backend options)

/-- The list of models that groups and the bundle see. -/
def listed (backend : Backend) (table : ModelTable) : List Json :=
  ((table.generated backend).filter fun m => !m.isSuppressed backend).filterMap
    TableModel.entry?

/-- Make the files of all models, and list them. -/
def plan (backend : Backend) (options : Options) (table : ModelTable) : Planned (List Json) :=
  ⟨table.tasks backend options, .ok (table.listed backend)⟩

end ModelTable

end ApiForge
