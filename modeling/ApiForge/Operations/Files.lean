import ApiForge.Operations.GroupContext
import ApiForge.Output.Task
/-
# ApiForge.Operations.Files -- the files of groups of operations

Every group makes an API with sources, tests and documentation.  Where there is a list of
tags, only the groups on it are made.
-/

namespace ApiForge

set_option autoImplicit false

namespace OperationGroups

/-- The groups to make. -/
def selected (groups : OperationGroups) (allowed : Option NameSet) :
    List (String × List OperationProjection) :=
  (Dict.entries groups).filter fun g => allowed.all (·.contains g.1)

end OperationGroups

/-- The files of a group. -/
def groupTasks (backend : Backend) (options : Options) (tag : String) (context : Context) :
    List Task :=
  Task.ofTemplates (.api tag) .source backend.layout.apiFolder
      (backend.naming.apiFilename tag) backend.layout.apiTemplates context
    ++ (if options.apiTests then
        Task.ofTemplates (.api tag) .test backend.layout.apiTestFolder
          (backend.naming.apiTestFilename tag) backend.layout.apiTestTemplates context
      else [])
    ++ (if options.apiDocs then
        Task.ofTemplates (.api tag) .documentation backend.layout.apiDocFolder
          (backend.naming.apiDocFilename tag) backend.layout.apiDocTemplates context
      else [])

/-- Make the files of one group, and give its context. -/
def planGroup (backend : Backend) (options : Options) (models : List Json) (run : RunInfo)
    (group : String × List OperationProjection) : Planned Json :=
  match GroupContext.build backend group.1 group.2 models run with
  | .error cause => .ofExcept (.error (.apiFile group.1 cause))
  | .ok context => ⟨groupTasks backend options group.1 context, .ok (.ofDict context)⟩

/-- Make the files of groups, one after the other, and give their contexts. -/
def planGroups (backend : Backend) (options : Options) (models : List Json) (run : RunInfo) :
    List (String × List OperationProjection) → Planned (List Json)
  | [] => pure []
  | group :: rest => do
    let context ← planGroup backend options models run group
    return context :: (← planGroups backend options models run rest)

namespace OperationGroups

/-- Make the files of the selected groups, and give their contexts as a bundle lists
them. -/
def plan (backend : Backend) (options : Options) (allowed : Option NameSet)
    (models : List Json) (run : RunInfo) (groups : OperationGroups) : Planned (List Json) :=
  markHasMore <$> planGroups backend options models run (groups.selected allowed)

end OperationGroups

end ApiForge
