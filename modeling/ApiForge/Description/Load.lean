import ApiForge.Description.Decode
import ApiForge.Description.Normalize
import ApiForge.Disk
import ApiForge.Json.Parser
import ApiForge.Yaml.Value
/-
# ApiForge.Description.Load -- descriptions from texts and files

A text is read as JSON or YAML into an untyped value, straightened, and decoded.
-/

namespace ApiForge

set_option autoImplicit false

/-- The formats that a description may be written in. -/
inductive Format where
  | json
  | yaml
deriving DecidableEq

/-- Why there is no description. -/
inductive LoadError where
  | badSyntax (format : Format)
  | badShape
  | unreadable (path : Path)
deriving DecidableEq

def LoadError.message : LoadError → String
  | .badSyntax .yaml => "Failed to parse YAML description"
  | .badSyntax .json => "Failed to parse JSON description"
  | .badShape => "Description does not match the expected shape"
  | .unreadable path => "Failed to read description: " ++ path.text

namespace Description

def readSyntax : Format → String → Option Json
  | .json, text => Json.parse text
  | .yaml, text => Yaml.parse text

/-- The description that a text holds. -/
def parse (format : Format) (text : String) : Except LoadError Description :=
  match readSyntax format text with
  | none => .error (.badSyntax format)
  | some document =>
    match decode (Normalize.document document) with
    | none => .error .badShape
    | some description => .ok description

/-- The format that a file name announces. -/
def formatOf (path : Path) : Format :=
  if path.extension? = some "yaml" ∨ path.extension? = some "yml" then .yaml else .json

/-- The description that a file holds. -/
def load (disk : Disk) (path : Path) : Except LoadError Description :=
  match disk.readText path with
  | none => .error (.unreadable path)
  | some text => parse (formatOf path) text

end Description

end ApiForge
