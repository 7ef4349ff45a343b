import ApiForge.Disk
import ApiForge.Product
import ApiForge.Readers.Basic
/-
# ApiForge.Gate -- may a file be written?

Two things keep a file from being written: the ignore rules of the output folder, and
the wish to keep what is there.  Rules come first.  Stamps of the tool itself pass
always, and a test that is there is never replaced.
-/

namespace ApiForge

set_option autoImplicit false

/-- What kind of file is produced. -/
inductive FileCategory where
  | source
  | documentation
  | test
  | supporting
  | metadata
deriving DecidableEq, Inhabited

def FileCategory.name : FileCategory → String
  | .source => "Source"
  | .documentation => "Documentation"
  | .test => "Test"
  | .supporting => "Supporting"
  | .metadata => "Metadata"

def FileCategory.all : List FileCategory :=
  [.source, .documentation, .test, .supporting, .metadata]

/-- What happens to a file. -/
inductive GateDecision where
  | write
  | skipIgnored
  | skipExisting
deriving DecidableEq

/-- The ignore rules that hold for an output folder. -/
structure IgnoreRules where
  root : Path
  /-- The paths that the rules keep untouched. -/
  rules : Option (Path → Bool)
  /-- The file that the rules come from. -/
  source : Option Path

namespace IgnoreRules

/-- No rules at all. -/
def allowAll (root : Path) : IgnoreRules := ⟨root, none, none⟩

variable [Readers]

/-- The rules of one file, unless it is unusable. -/
def ofFile (disk : Disk) (root file : Path) : Option IgnoreRules :=
  match (disk.readText file).bind (Readers.rules root) with
  | some rules => some ⟨root, some rules, some file⟩
  | none => none

/-- The rules of the given file where it is usable, else those of the ignore file in the
output folder, else none. -/
def load (disk : Disk) (root : Path) (given : Option Path) : IgnoreRules :=
  match given.bind (ofFile disk root) with
  | some rules => rules
  | none => (ofFile disk root (root.join Product.ignoreFileName)).getD (allowAll root)

/-- Do the rules allow writing to the path?  They say nothing about the root itself and
about what lies elsewhere. -/
def allows (r : IgnoreRules) (path : Path) : Bool :=
  match r.rules with
  | none => true
  | some ignores =>
    let relative := (path.relativeTo? r.root).getD path
    relative.text.isEmpty || relative.isAbsolute || !ignores relative

end IgnoreRules

/-- Decide about a file.  The wish to replace what is there counts only for a file that
is there and is no test. -/
def decideWrite (rules : IgnoreRules) (path : Path) (category : FileCategory)
    (present : Bool) (overwrite : Path → Bool) : GateDecision :=
  if category = .metadata then .write
  else if !rules.allows path then .skipIgnored
  else if !present then .write
  else if category = .test then .skipExisting
  else if overwrite path then .write
  else .skipExisting

/-- Is the wish to replace asked for at all? -/
def asksToOverwrite (rules : IgnoreRules) (path : Path) (category : FileCategory)
    (present : Bool) : Bool :=
  category ≠ .metadata && rules.allows path && present && category ≠ .test

end ApiForge
