import ApiForge.Imports
import ApiForge.RunInfo
/-
# ApiForge.Operations.GroupContext -- what the templates of a group see

The operations of a group are sorted by nickname.  A nickname that is met again gets a
number, which counts the repetitions in the whole group.
-/

namespace ApiForge

set_option autoImplicit false

/-- Number the nicknames that were met before; `count` repetitions have been met. -/
def numberRepeats (seen : List String) (count : Nat) :
    List OperationProjection → List OperationProjection
  | [] => []
  | o :: rest =>
    if seen.contains o.nickname then
      { o with nickname := o.nickname ++ "_" ++ toString (count + 1) } ::
        numberRepeats seen (count + 1) rest
    else o :: numberRepeats (o.nickname :: seen) count rest

/-- Make nicknames distinct, as far as a number behind them does it. -/
def disambiguateNicknames (operations : List OperationProjection) : List OperationProjection :=
  numberRepeats [] 0 operations

def sortByNickname (operations : List OperationProjection) : List OperationProjection :=
  operations.mergeSort fun a b => !decide (b.nickname < a.nickname)

/-- Set `hasMore` on every context but the last. -/
def markHasMore : List Json → List Json
  | [] => []
  | [last] => [last]
  | j :: rest => j.setField Key.hasMore (.bool true) :: markHasMore rest

/-- Are parameters to be sorted by whether they are required?  Yes, unless a property says
something else. -/
def sortsByRequired (properties : Dict Json) : Bool :=
  match properties.get? Key.sortParamsByRequiredFlag with
  | some (.bool b) => b
  | some (.str s) => Text.eqIgnoringAsciiCase s "true"
  | _ => true

/-- Change the last item of a list. -/
def changeLast (f : Json → Json) : List Json → List Json
  | [] => []
  | [last] => [f last]
  | j :: rest => j :: changeLast f rest

/-- Mark the last operation of a context as the last one. -/
def markLastOperation (context : Context) : Context :=
  context.modify Key.operations fun operations =>
    operations.modifyField Key.operation fun list =>
      match list with
      | .arr items =>
        .arr (changeLast (setVendorExtension · Key.moreExtension (.bool false)) items)
      | other => other

namespace GroupContext

/-- The context of a group before the backend sees it. -/
def draft (backend : Backend) (tag : String) (operations : List OperationProjection)
    (run : RunInfo) : Context :=
  let operations := disambiguateNicknames (sortByNickname operations)
  let imports := operationImports backend (operations.flatMap fun o => o.imports.names)
  .ofList [
    (Key.operations, .object [
      (Key.classname, .str (backend.naming.apiName tag)),
      (Key.pathPrefix, .str (backend.naming.apiVarName tag)),
      (Key.operation, .arr (operations.map OperationProjection.toJson))]),
    (Key.package, .str run.apiPackage),
    (Key.hasImport, .bool !imports.isEmpty),
    (Key.imports, encodeImports imports)]

/-- What the run says, which properties may replace. -/
def runEntries (tag : String) (run : RunInfo) : Dict Json :=
  run.authEntries.extend (.ofList [
    (Key.basePath, .str run.server.basePath),
    (Key.basePathWithoutHost, .str run.server.basePathWithoutHost),
    (Key.contextPath, .str run.server.contextPath),
    (Key.baseName, .str tag),
    (Key.modelPackage, .str run.modelPackage)])

/-- What properties may not replace. -/
def fixedEntries (backend : Backend) (tag : String) (models : List Json) (run : RunInfo) :
    Dict Json :=
  .ofList ([
    (Key.classname, .str (backend.naming.apiName tag)),
    (Key.classVarName, .str (backend.naming.apiVarName tag)),
    (Key.importPath, .str (backend.naming.apiImport tag)),
    (Key.classFilename, .str (backend.naming.apiFilename tag))]
    ++ (if run.vendorExtensions.isEmpty then []
        else [(Key.vendorExtensions, .ofDict run.vendorExtensions)])
    ++ [(Key.sortParamsByRequiredFlag, .bool (sortsByRequired run.properties)),
      (Key.hasModel, .bool !models.isEmpty)])

/-- The context of a group. -/
def build (backend : Backend) (tag : String) (operations : List OperationProjection)
    (models : List Json) (run : RunInfo) : Except Cause Context := do
  let context ← backend.hooks.postProcessGroup (draft backend tag operations run)
  let context ← backend.hooks.postProcessGroupWithModels context models
  return (((markLastOperation context).extend (runEntries tag run)).extend
    run.properties).extend (fixedEntries backend tag models run)

end GroupContext

end ApiForge
