import ApiForge.Dict
import ApiForge.Path
import ApiForge.Text.Utf8
/-
# ApiForge.Disk -- the file system as a value

A disk says what stands at each place, a file with its contents or a folder, and
where relative paths start.  Every operation gives the disk it leaves behind, also
when it fails, so "what a run did to the files" is a statement about two values.

A place is the list of names from the root.  A path leads to a place by walking:
every step but the last has to arrive at a folder, `..` goes back up, and a
trailing slash asks for a folder.
-/

namespace ApiForge

set_option autoImplicit false

open ApiForge.Text

/-- The contents of a file: text, or bytes that are no text. -/
inductive Contents where
  | text (value : String)
  | raw (bytes : List UInt8)
deriving DecidableEq

namespace Contents

def ofBytes (bytes : List UInt8) : Contents :=
  match decode? bytes with
  | some s => .text s
  | none => .raw bytes

def bytes : Contents → List UInt8
  | .text s => encode s
  | .raw bs => bs

/-- The text of a file that holds text. -/
def text? : Contents → Option String
  | .text s => some s
  | .raw _ => none

/-- The text of any file, with replacement characters where it holds none. -/
def lossyText : Contents → String
  | .text s => s
  | .raw bs => decodeLossy bs

end Contents

/-- What stands at a place. -/
inductive Node where
  | file (contents : Contents)
  | folder
deriving DecidableEq

/-- Files and folders, by place. -/
structure Disk where
  /-- Where relative paths start. -/
  here : List String
  nodes : Dict Node

namespace Disk

/-- The name of a place. -/
def placeName (place : List String) : String :=
  place.foldl (fun acc name => acc ++ "/" ++ name) ""

def node? (d : Disk) (place : List String) : Option Node :=
  match place with
  | [] => some .folder
  | _ => d.nodes.get? (placeName place)

def isFolderAt (d : Disk) (place : List String) : Bool := d.node? place = some .folder

/-- A disk with nothing in it but the folders down to `here`. -/
def emptyAt (here : List String) : Disk :=
  ⟨here, (List.range here.length).foldl
    (fun nodes i => nodes.insert (placeName (here.take (i + 1))) .folder) Dict.empty⟩

/-- One step of a walk from the folder at `place`. -/
def step (d : Disk) (place : List String) (seg : String) : Option (List String) :=
  if d.isFolderAt place then
    if seg = "" ∨ seg = "." then some place
    else if seg = ".." then some place.dropLast
    else some (place ++ [seg])
  else none

def walk (d : Disk) (start : List String) (segs : List String) : Option (List String) :=
  segs.foldlM d.step start

def startOf (d : Disk) (p : Path) : List String := if p.isAbsolute then [] else d.here

/-- The place that a path leads to, whether or not something stands there. -/
def locate (d : Disk) (p : Path) : Option (List String) :=
  if p.text.isEmpty then none
  else d.walk (d.startOf p) (p.segments.map String.ofList)

def lookup (d : Disk) (p : Path) : Option Node := (d.locate p).bind d.node?

def exists? (d : Disk) (p : Path) : Bool := (d.lookup p).isSome

def isFile (d : Disk) (p : Path) : Bool :=
  match d.lookup p with
  | some (.file _) => true
  | _ => false

def isFolder (d : Disk) (p : Path) : Bool := d.lookup p = some .folder

/-- The contents of the file at a path. -/
def read (d : Disk) (p : Path) : Option Contents :=
  match d.lookup p with
  | some (.file c) => some c
  | _ => none

/-- The text of the file at a path, if it holds text. -/
def readText (d : Disk) (p : Path) : Option String := (d.read p).bind Contents.text?

/-! ## Folders -/

/-- Why a folder was not made. -/
inductive Refusal where
  /-- A folder on the way is missing. -/
  | missing
  /-- Something is in the way. -/
  | occupied
deriving DecidableEq

/-- The segments of a path without those that a trailing slash leaves. -/
def trimmedSegments (p : Path) : List String :=
  ((p.segments.reverse.dropWhile fun seg => seg.isEmpty).reverse).map String.ofList

/-- Does the walk fail because something is missing rather than in the way? -/
def walkIsMissing (d : Disk) : List String → List String → Bool
  | _, [] => false
  | place, seg :: rest =>
    match d.node? place with
    | none => true
    | some (.file _) => false
    | some .folder =>
      match d.step place seg with
      | some next => walkIsMissing d next rest
      | none => false

/-- Make one folder. -/
def makeFolder (d : Disk) (p : Path) : Except Refusal Disk :=
  let segs := trimmedSegments p
  match segs.getLast? with
  | none => .error (if p.isAbsolute then .occupied else .missing)
  | some last =>
    let start := d.startOf p
    match d.walk start segs with
    | none => .error (if walkIsMissing d start segs then .missing else .occupied)
    | some place =>
      if last = "." ∨ last = ".." ∨ (d.node? place).isSome then .error .occupied
      else .ok { d with nodes := d.nodes.insert (placeName place) .folder }

/-- Make a folder and those on the way to it that are missing.  The disk comes back
with what was made before a failure. -/
def makeFolders (d : Disk) (p : Path) : Disk × Bool :=
  let rec go : Nat → Disk → Path → Disk × Bool
    | 0, d, _ => (d, false)
    | fuel + 1, d, p =>
      if p.text.isEmpty then (d, true)
      else
        match d.makeFolder p with
        | .ok d' => (d', true)
        | .error .occupied => (d, d.isFolder p)
        | .error .missing =>
          match p.parent? with
          | none => (d, false)
          | some q =>
            match go fuel d q with
            | (d', false) => (d', false)
            | (d', true) =>
              match d'.makeFolder p with
              | .ok d'' => (d'', true)
              | .error _ => (d', d'.isFolder p)
  go (p.segments.length + 1) d p

/-! ## Files -/

/-- The place where a file may be written at a path. -/
def filePlace (d : Disk) (p : Path) : Option (List String) :=
  let last := (p.segments.map String.ofList).getLast?.getD ""
  if last = "" ∨ last = "." ∨ last = ".." then none
  else
    match d.locate p with
    | none => none
    | some place => if d.isFolderAt place then none else some place

/-- Write a file into a folder that is there. -/
def write (d : Disk) (p : Path) (contents : Contents) : Option Disk :=
  (d.filePlace p).map fun place =>
    { d with nodes := d.nodes.insert (placeName place) (.file contents) }

/-- Copy a file into a folder that is there.  A file copied onto itself loses its
contents, for the target is emptied first. -/
def copy (d : Disk) (source target : Path) : Option Disk :=
  match d.read source, d.filePlace target with
  | some contents, some place =>
    let contents := if d.locate source = some place then .text "" else contents
    some { d with nodes := d.nodes.insert (placeName place) (.file contents) }
  | _, _ => none

/-! ## Trees -/

/-- Is the place of this name below the place? -/
def isBelow (place : List String) (name : String) : Bool :=
  startsWith name (placeName place ++ "/")

/-- The files below a folder, each with its path from the folder. -/
def filesBelow (d : Disk) (place : List String) : List (String × Contents) :=
  d.nodes.entries.filterMap fun e =>
    match e.2 with
    | .file c => (stripHead? e.1 (placeName place ++ "/")).map fun rest => (rest, c)
    | .folder => none

/-- The files below the folder at a path, as paths that start with it; the empty path is
where relative paths start. -/
def filesUnder (d : Disk) (p : Path) : List (Path × Contents) :=
  match if p.text.isEmpty then some d.here else d.locate p with
  | some place => (d.filesBelow place).map fun f => (p.join f.1, f.2)
  | none => []

/-- Take away a file, or a folder with everything below it. -/
def remove (d : Disk) (p : Path) : Option Disk :=
  match d.locate p with
  | none => none
  | some place =>
    match d.node? place with
    | none => none
    | some _ =>
      let name := placeName place
      some { d with nodes := d.nodes.filter fun n _ => !(n = name || isBelow place n) }

/-- Put a file with the folders on the way to it, as far as that is possible. -/
def put (d : Disk) (p : Path) (contents : Contents) : Disk :=
  let d := match p.parent? with
    | some q => (d.makeFolders q).1
    | none => d
  (d.write p contents).getD d

end Disk

end ApiForge
