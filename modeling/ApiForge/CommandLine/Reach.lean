import ApiForge.CommandLine.Execute
/-
# ApiForge.CommandLine.Reach -- the places that a command may look at

A plan does not depend on the disk, so the paths that a run may look at or write to are
known before it starts.  A disk that agrees with the real one on these paths, and on the
folders on the way to them, is all that a run can tell apart.
-/

namespace ApiForge

set_option autoImplicit false

/-- The paths that hold what a command starts from. -/
def Arguments.reach (a : Arguments) : List Path :=
  a.spec :: (match a.manifest with
    | some path => [path]
    | none => (a.spec.parent?.map (·.join Product.manifestFileName)).toList)

/-- The paths that a template or a plain file of that name may have. -/
def TemplateFolders.reach (folders : TemplateFolders) (name : String) : List Path :=
  folders.own.join name :: (folders.shared.map (·.join name)).toList

/-- The paths that a task may look at or write to. -/
def Task.reach (folders : TemplateFolders) (t : Task) : List Path :=
  t.path :: match t.making with
    | .render name _ => folders.reach name
    | .provide name _ => folders.reach name
    | .stamp _ => []
    | .stampOnce _ => []

/-- The paths that a job may look at or write to. -/
def Job.reach (job : Job) : List Path :=
  match job.description, job.backend with
  | some description, some backend =>
    let layout := backend.layout
    let folders : TemplateFolders := ⟨layout.templateFolder, layout.commonTemplateFolder⟩
    (job.config.ignoreFile.or layout.ignoreFile).toList
      ++ [Product.ignoreFilePath layout.outputFolder]
      ++ (Job.planBundle job.now job.config backend description).tasks.flatMap
        (Task.reach folders)
  | _, _ => []

/-- The paths on the way to a path, from the front, and the path itself. -/
def Path.stages (p : Path) : List Path :=
  ((List.range p.segments.length).map p.upTo).filter fun q => !q.text.isEmpty

namespace Disk

/-- A disk with something standing at a path, if the path leads to a place. -/
def withNode (d : Disk) (p : Path) (node : Node) : Disk :=
  match d.locate p with
  | some [] => d
  | some place => { d with nodes := d.nodes.insert (placeName place) node }
  | none => d

/-- What has to be done to turn one disk into another: the nodes that are new or other. -/
def changes (before after : Disk) : List (String × Node) :=
  after.nodes.entries.filter fun e => before.nodes.get? e.1 ≠ some e.2

end Disk

end ApiForge
