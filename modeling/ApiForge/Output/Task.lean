import ApiForge.Output.Emitter
/-
# ApiForge.Output.Task -- what a run is going to do

A run first makes a plan: the files to produce, in order, and what comes out at the end.
A plan is data and does not depend on the disk.  Where a backend refuses something, the
plan ends in a failure, and the files before it are produced all the same.  Performing a
plan goes through its tasks until one fails.
-/

namespace ApiForge

set_option autoImplicit false

/-- What a file is produced for. -/
inductive Subject where
  | model (name : String)
  | api (tag : String)
  | supportingFile (descriptor : String)
  | stamp (path : Path)
deriving DecidableEq

/-- The failure that a cause makes of a subject. -/
def Subject.failure : Subject → Cause → Failure
  | .model name => .modelFile name
  | .api tag => .apiFile tag
  | .supportingFile descriptor => .supportingFile descriptor
  | .stamp path => .io path

/-- Where the contents of a file come from. -/
inductive Making where
  /-- From a template. -/
  | render (template : String) (context : Context)
  /-- From a file of the template folders, rendered if it is a template and copied if it
  is not.  A file that is not there is passed over. -/
  | provide (name : String) (context : Context)
  /-- From the text itself, whatever the rules say. -/
  | stamp (text : String)
  /-- Likewise, unless the file is there. -/
  | stampOnce (text : String)

/-- A file to produce. -/
structure Task where
  subject : Subject
  path : Path
  category : FileCategory
  making : Making

namespace Task

/-- The files that a set of templates makes: each template makes the file whose name ends
in the suffix that belongs to it. -/
def ofTemplates (subject : Subject) (category : FileCategory) (folder : Path)
    (filename : String) (templates : Dict String) (context : Context) : List Task :=
  templates.entries.map fun t =>
    ⟨subject, folder.join (filename ++ t.2), category, .render t.1 context⟩

variable [Readers]

/-- Produce the file of a task. -/
def emit (t : Task) (e : Emitter) : Emission FileError Unit :=
  match t.making with
  | .render template context => do
    let _ ← e.renderFile template context t.path t.category
  | .provide name context => do
    let output ← get
    match e.folders.locate output.sink.disk name with
    | none => return ()
    | some source =>
      let _ ← if TemplateFolders.isTemplate name then e.renderFile name context t.path t.category
        else e.copyFile source t.path t.category
  | .stamp text => Emitter.writeFile t.path (.text text) t.category
  | .stampOnce text => do
    let output ← get
    if output.sink.exists? t.path then return ()
    else Emitter.writeFile t.path (.text text) t.category

/-- Produce the file of a task; what goes wrong is put down to its subject. -/
def perform (t : Task) (e : Emitter) : Emission Failure Unit :=
  (t.emit e).adapt fun error => t.subject.failure (.file error)

/-- Produce the files of all tasks, up to the first that fails. -/
def performAll (e : Emitter) : List Task → Emission Failure Unit
  | [] => return ()
  | t :: rest => do
    t.perform e
    performAll e rest

end Task

/-- Tasks, and what comes out when they are done. -/
structure Planned (α : Type) where
  tasks : List Task
  outcome : Except Failure α

namespace Planned

variable {α β : Type}

/-- A plan that produces no files. -/
def ofExcept (outcome : Except Failure α) : Planned α := ⟨[], outcome⟩

/-- A plan that only produces files. -/
def ofTasks (tasks : List Task) : Planned Unit := ⟨tasks, .ok ()⟩

/-- One plan after another; a failure ends the whole. -/
def andThen (p : Planned α) (next : α → Planned β) : Planned β :=
  match p.outcome with
  | .error failure => ⟨p.tasks, .error failure⟩
  | .ok a => ⟨p.tasks ++ (next a).tasks, (next a).outcome⟩

instance : Monad Planned where
  pure a := ⟨[], .ok a⟩
  bind := andThen

/-- Go through a plan. -/
def perform [Readers] (p : Planned α) (e : Emitter) : Emission Failure α := do
  Task.performAll e p.tasks
  MonadExcept.ofExcept p.outcome

end Planned

end ApiForge
