import ApiForge.Disk
import ApiForge.Failure
import ApiForge.Readers.Basic
/-
# ApiForge.Output.Templates -- the folders that templates come from

A backend has a template folder of its own and may share another one.  What stands in its
own folder comes first.  Files of these folders are templates if their name says so, and
otherwise they are taken as they are.
-/

namespace ApiForge

set_option autoImplicit false

structure TemplateFolders where
  own : Path
  shared : Option Path

namespace TemplateFolders

/-- The file of that name. -/
def locate (folders : TemplateFolders) (disk : Disk) (name : String) : Option Path :=
  let own := folders.own.join name
  if disk.isFile own then some own
  else (folders.shared.map (·.join name)).filter disk.isFile

/-- Does the name say that the file is a template? -/
def isTemplate (name : String) : Bool := (Path.mk name).extension? = some "jinja"

variable [Readers]

/-- The text that the template at a path makes. -/
def renderAt (disk : Disk) (path : Path) (context : Context) : Except FileError String :=
  match disk.readText path with
  | none => .error (.templateUnreadable path)
  | some source =>
    match Readers.template source with
    | none => .error (.templateInvalid path)
    | some render =>
      match render context with
      | none => .error (.renderFailed path)
      | some text => .ok text

/-- The text that the template of a name makes. -/
def render (folders : TemplateFolders) (disk : Disk) (name : String) (context : Context) :
    Except FileError String :=
  match folders.locate disk name with
  | none => .error (.templateNotFound name)
  | some path => renderAt disk path context

end TemplateFolders

end ApiForge
