import ApiForge.Path
/-
# ApiForge.Failure -- why a run stops

A failure names what the run was at: a model, an operation, a file.  Below it lies a
cause, which is either something about a file or a refusal of the backend.
-/

namespace ApiForge

set_option autoImplicit false

/-- What goes wrong with a template or a file. -/
inductive FileError where
  | templateNotFound (name : String)
  | templateUnreadable (path : Path)
  | templateInvalid (path : Path)
  | renderFailed (path : Path)
  | folderNotMade (path : Path)
  | notWritten (path : Path)
  | notCopied (source target : Path)
  | unreadable (path : Path)
deriving DecidableEq

def FileError.message : FileError → String
  | .templateNotFound name => "template '" ++ name ++ "' not found"
  | .templateUnreadable path => "Failed to read template " ++ path.text
  | .templateInvalid path => "Invalid template " ++ path.text
  | .renderFailed path => "Failed to render " ++ path.text
  | .folderNotMade path => "Failed to create directory " ++ path.text
  | .notWritten path => "Failed to write " ++ path.text
  | .notCopied source target => "Failed to copy " ++ source.text ++ " to " ++ target.text
  | .unreadable path => "Failed to read " ++ path.text

/-- What lies below a failure. -/
inductive Cause where
  | file (error : FileError)
  /-- The backend refuses, in its own words. -/
  | refused (words : String)
deriving DecidableEq

def Cause.message : Cause → String
  | .file error => error.message
  | .refused words => words

/-- Why a run stops. -/
inductive Failure where
  | missingDescription
  | missingConfiguration
  | model (name : String) (cause : Cause)
  | modelFile (name : String) (cause : Cause)
  | operation (tag : String) (operationId : Option String) (verb path : String) (cause : Cause)
  | apiFile (tag : String) (cause : Cause)
  | supportingFile (descriptor : String) (cause : Cause)
  | io (path : Path) (cause : Cause)
  | template (name : String) (cause : Cause)
  | hook (name : String) (cause : Cause)
deriving DecidableEq

def Failure.message : Failure → String
  | .missingDescription => "missing API description input"
  | .missingConfiguration => "missing backend configuration input"
  | .model name cause =>
    "Could not process model '" ++ name ++
      "'. Please make sure that your schema is correct: " ++ cause.message
  | .modelFile name cause => "Could not generate model '" ++ name ++ "': " ++ cause.message
  | .operation tag operationId verb path cause =>
    "Could not process operation (tag: " ++ tag ++ ", operation: " ++
      operationId.getD "<none>" ++ ", resource: " ++ verb ++ " " ++ path ++ "): " ++ cause.message
  | .apiFile tag cause => "Could not generate api file for '" ++ tag ++ "': " ++ cause.message
  | .supportingFile descriptor cause =>
    "Could not generate supporting file '" ++ descriptor ++ "': " ++ cause.message
  | .io path cause => "Could not write '" ++ path.text ++ "': " ++ cause.message
  | .template name cause => "Could not render template '" ++ name ++ "': " ++ cause.message
  | .hook name cause => "Backend hook '" ++ name ++ "' failed: " ++ cause.message

/-- What lies below a failure, where something does. -/
def Failure.cause? : Failure → Option Cause
  | .missingDescription => none
  | .missingConfiguration => none
  | .model _ cause => some cause
  | .modelFile _ cause => some cause
  | .operation _ _ _ _ cause => some cause
  | .apiFile _ cause => some cause
  | .supportingFile _ cause => some cause
  | .io _ cause => some cause
  | .template _ cause => some cause
  | .hook _ cause => some cause

end ApiForge
