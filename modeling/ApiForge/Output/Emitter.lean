import ApiForge.Gate
import ApiForge.Output.Sink
import ApiForge.Output.Templates
/-
# ApiForge.Output.Emitter -- files that are asked for and files that are produced

An emitter puts every file that is asked for through the gate, makes its contents and
hands them to the sink.  Whatever it produces it reports, in the order of production;
what the gate holds back it does not.
-/

namespace ApiForge

set_option autoImplicit false

/-- A file that was produced. -/
structure ProducedFile where
  path : Path
  category : FileCategory
deriving DecidableEq

/-- The state of a run: where files go, and the report so far. -/
structure Output where
  sink : Sink
  files : List ProducedFile

def Output.start (sink : Sink) : Output := ⟨sink, []⟩

/-- Work on the output.  What it has done by the time it fails stays done. -/
abbrev Emission (ε α : Type) := ExceptT ε (StateM Output) α

/-- Do something to the sink. -/
def Emission.onSink (step : Sink → Except FileError Unit × Sink) : Emission FileError Unit :=
  ExceptT.mk fun output =>
    let (result, sink) := step output.sink
    (result, { output with sink := sink })

/-- What decides about files and makes their contents. -/
structure Emitter where
  rules : IgnoreRules
  folders : TemplateFolders
  /-- May a file that is there be replaced? -/
  overwrite : Path → Bool

namespace Emitter

/-- Does the gate let the file pass? -/
def admits (e : Emitter) (sink : Sink) (path : Path) (category : FileCategory) : Bool :=
  decideWrite e.rules path category (sink.exists? path) e.overwrite = .write

def report (path : Path) (category : FileCategory) : Emission FileError Unit :=
  modify fun output => { output with files := output.files ++ [⟨path, category⟩] }

/-- Write a file without asking the gate. -/
def writeFile (path : Path) (contents : Contents) (category : FileCategory) :
    Emission FileError Unit := do
  Emission.onSink (·.write path contents)
  report path category

/-- Render a template into a file; tells whether the gate let it pass. -/
def renderFile [Readers] (e : Emitter) (template : String) (context : Context) (path : Path)
    (category : FileCategory) : Emission FileError Bool := do
  let output ← get
  if e.admits output.sink path category then
    let text ← MonadExcept.ofExcept (e.folders.render output.sink.disk template context)
    writeFile path (.text text) category
    return true
  else
    return false

/-- Copy a file as it is; tells whether the gate let it pass. -/
def copyFile (e : Emitter) (source path : Path) (category : FileCategory) :
    Emission FileError Bool := do
  let output ← get
  if e.admits output.sink path category then
    Emission.onSink (·.copy source path)
    report path category
    return true
  else
    return false

end Emitter

end ApiForge
