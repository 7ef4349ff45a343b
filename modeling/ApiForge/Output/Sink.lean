import ApiForge.Disk
import ApiForge.Failure
/-
# ApiForge.Output.Sink -- where files go

Files go to the disk, or they are only recorded.  A recording sink reads from the disk all
the same, and what it has recorded counts as being there.  Every operation gives the sink
that it leaves behind, also when it fails.
-/

namespace ApiForge

set_option autoImplicit false

/-- Files that would have been written, by path.  A path that is written again, in
whatever spelling, keeps its first spelling. -/
abbrev Recorded := List (Path × Contents)

namespace Recorded

def find? (files : Recorded) (path : Path) : Option Contents :=
  (List.find? (fun f => f.1.same path) files).map Prod.snd

def put (path : Path) (contents : Contents) : Recorded → Recorded
  | [] => [(path, contents)]
  | f :: rest => if f.1.same path then (f.1, contents) :: rest else f :: put path contents rest

end Recorded

structure Sink where
  disk : Disk
  /-- What is recorded; nothing is when files go to the disk. -/
  recorded : Option Recorded

namespace Sink

/-- A sink that writes to the disk. -/
def writing (disk : Disk) : Sink := ⟨disk, none⟩

/-- A sink that leaves the disk as it is. -/
def recording (disk : Disk) : Sink := ⟨disk, some []⟩

def exists? (s : Sink) (path : Path) : Bool :=
  ((s.recorded.bind (·.find? path)).isSome) || s.disk.exists? path

/-- The text of a recorded file. -/
def recordedText? (s : Sink) (path : Path) : Option String :=
  (s.recorded.bind (·.find? path)).map Contents.lossyText

def record (s : Sink) (files : Recorded) (path : Path) (contents : Contents) : Sink :=
  { s with recorded := some (files.put path contents) }

/-- Make the folders on the way to a file. -/
def makeRoom (disk : Disk) (path : Path) : Disk × Except FileError Unit :=
  match path.parent? with
  | none => (disk, .ok ())
  | some folder =>
    match disk.makeFolders folder with
    | (disk, true) => (disk, .ok ())
    | (disk, false) => (disk, .error (.folderNotMade folder))

/-- Make room for a file and put it there; `put` fails with `error`. -/
def place (disk : Disk) (path : Path) (put : Disk → Option Disk) (error : FileError) :
    Except FileError Unit × Disk :=
  match makeRoom disk path with
  | (disk, .error e) => (.error e, disk)
  | (disk, .ok ()) =>
    match put disk with
    | some disk => (.ok (), disk)
    | none => (.error error, disk)

/-- Write a file. -/
def write (s : Sink) (path : Path) (contents : Contents) : Except FileError Unit × Sink :=
  match s.recorded with
  | some files => (.ok (), s.record files path contents)
  | none =>
    let (result, disk) := place s.disk path (·.write path contents) (.notWritten path)
    (result, writing disk)

/-- Copy a file of the disk. -/
def copy (s : Sink) (source path : Path) : Except FileError Unit × Sink :=
  match s.recorded with
  | some files =>
    match s.disk.read source with
    | some contents => (.ok (), s.record files path contents)
    | none => (.error (.unreadable source), s)
  | none =>
    let (result, disk) := place s.disk path (·.copy source path) (.notCopied source path)
    (result, writing disk)

end Sink

end ApiForge
