import ApiForge.Config
import ApiForge.Output.Task
import ApiForge.RunInfo
/-
# ApiForge.Bundle -- what the project as a whole is made from

The bundle holds all models, all groups of operations, the description itself and what
the run says.  Supporting files are made from it.  Two stamps close a run: rules for
files to leave alone, written once, and the version of the tool, written every time.
-/

namespace ApiForge

set_option autoImplicit false

namespace Bundle

/-- Mark the model of every entry but the last as one that others follow. -/
def markMoreModels : List Json → List Json
  | [] => []
  | [last] => [last]
  | entry :: rest =>
    entry.modifyField Key.model (setVendorExtension · Key.moreModelsExtension (.bool true)) ::
      markMoreModels rest

/-- What properties may not replace. -/
def ownFields (description : Description) (models operations : List Json) (run : RunInfo) :
    List (String × Json) :=
  [(Key.apiPackage, .str run.apiPackage),
    (Key.apiInfo, .obj [(Key.apis, .arr operations)]),
    (Key.openApi, description.toJson),
    (Key.basePath, .str run.server.basePath),
    (Key.basePathWithoutHost, .str run.server.basePathWithoutHost),
    (Key.scheme, .str run.server.scheme),
    (Key.host, .ofOption (run.server.host.map .str)),
    (Key.contextPath, .str run.server.contextPath),
    (Key.models, .arr (markMoreModels models)),
    (Key.hasModel, .bool !models.isEmpty),
    (Key.apiFolder, .str (packagePath run.apiPackage).text),
    (Key.modelPackage, .str run.modelPackage)]

/-- The bundle before the backend sees it.  Nothing that it holds can be replaced by a
property. -/
def draft (description : Description) (models operations : List Json) (run : RunInfo) :
    Context :=
  let docs : Dict Json := .ofList
    (optionalField Key.externalDocs (description.externalDocs.map ExternalDocs.toJson))
  ((run.properties.extend (.ofList (ownFields description models operations run))).extend
    run.authEntries).extend docs

/-- The bundle of a run. -/
def build (backend : Backend) (description : Description) (models operations : List Json)
    (run : RunInfo) : Except Cause Context :=
  backend.hooks.postProcessBundle (draft description models operations run)

end Bundle

namespace SupportingFile

/-- The folder that the file goes to. -/
def target (f : SupportingFile) (output : Path) : Path :=
  match f.folder with
  | some folder => if folder.isEmpty then output else output.join folder
  | none => output

def task (output : Path) (bundle : Context) (f : SupportingFile) : Task :=
  ⟨.supportingFile f.text, (f.target output).join f.destination, .supporting,
    .provide f.template bundle⟩

end SupportingFile

/-- The supporting files that are wanted. -/
def supportingTasks (backend : Backend) (config : Config) (bundle : Context) : List Task :=
  (backend.layout.supportingFiles.filter fun f => config.wants f.destination).map
    (SupportingFile.task backend.layout.outputFolder bundle)

/-- The stamps of a run. -/
def stampTasks (output : Path) : List Task :=
  let rules := Product.ignoreFilePath output
  let version := Product.versionFilePath output
  [⟨.stamp rules, rules, .metadata, .stampOnce (Product.ignoreFileText Product.version)⟩,
    ⟨.stamp version, version, .metadata, .stamp Product.versionFileText⟩]

end ApiForge
