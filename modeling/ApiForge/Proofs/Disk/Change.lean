import ApiForge.Output.Sink
import ApiForge.Proofs.Dict
import ApiForge.Proofs.Disk.Place
/-
# ApiForge.Proofs.Disk.Change -- what making folders and writing files does to a disk

Whatever a run does to a disk, it removes nothing (`Disk.Keeps`): paths lead where they led,
and what was there is there.  Something put into a folder keeps the disk well-formed
(`Disk.WellFormed.set`).
-/

namespace ApiForge

set_option autoImplicit false

open ApiForge.Text

namespace Disk

/-! ## Nothing is removed -/

/-- Folders stay folders and files stay files. -/
structure Keeps (d d' : Disk) : Prop where
  here : d'.here = d.here
  folder : ∀ name, d.nodes.get? name = some .folder → d'.nodes.get? name = some .folder
  file : ∀ name contents, d.nodes.get? name = some (.file contents) →
    ∃ contents', d'.nodes.get? name = some (.file contents')

namespace Keeps

variable {d d' d'' : Disk}

theorem refl (d : Disk) : Keeps d d := ⟨rfl, fun _ h => h, fun _ c h => ⟨c, h⟩⟩

theorem trans (first : Keeps d d') (second : Keeps d' d'') : Keeps d d'' where
  here := second.here.trans first.here
  folder := fun name h => second.folder name (first.folder name h)
  file := fun name c h => by
    obtain ⟨c', h'⟩ := first.file name c h
    exact second.file name c' h'

theorem node?_folder (keeps : Keeps d d') {place : List String}
    (folder : d.node? place = some .folder) : d'.node? place = some .folder := by
  cases place with
  | nil => rfl
  | cons name rest => exact keeps.folder _ folder

theorem node?_file (keeps : Keeps d d') {place : List String} {contents : Contents}
    (file : d.node? place = some (.file contents)) :
    ∃ contents', d'.node? place = some (.file contents') := by
  cases place with
  | nil => cases file
  | cons name rest => exact keeps.file _ _ file

theorem node?_ne_none (keeps : Keeps d d') {place : List String}
    (stands : d.node? place ≠ none) : d'.node? place ≠ none := by
  cases node : d.node? place with
  | none => exact absurd node stands
  | some node' =>
      cases node' with
      | folder => simp [keeps.node?_folder node]
      | file c =>
          obtain ⟨c', same⟩ := keeps.node?_file node
          simp [same]

theorem get?_eq_none (keeps : Keeps d d') {name : String}
    (missing : d'.nodes.get? name = none) : d.nodes.get? name = none := by
  cases node : d.nodes.get? name with
  | none => rfl
  | some node' =>
      cases node' with
      | folder =>
          rw [keeps.folder name node] at missing
          cases missing
      | file contents =>
          obtain ⟨contents', stands⟩ := keeps.file name contents node
          rw [stands] at missing
          cases missing

theorem isFolderAt (keeps : Keeps d d') {place : List String}
    (folder : d.isFolderAt place = true) : d'.isFolderAt place = true :=
  isFolderAt_iff.2 (keeps.node?_folder (isFolderAt_iff.1 folder))

theorem walk (keeps : Keeps d d') {start place : List String} {segs : List String}
    (walked : d.walk start segs = some place) : d'.walk start segs = some place := by
  induction segs generalizing start with
  | nil => exact walked
  | cons seg rest ih =>
      rw [walk_cons, step_eq] at walked ⊢
      by_cases folder : d.isFolderAt start = true
      · rw [if_pos folder, Option.bind_some] at walked
        rw [if_pos (keeps.isFolderAt folder), Option.bind_some]
        exact ih walked
      · simp [folder] at walked

theorem startOf (keeps : Keeps d d') (p : Path) : d'.startOf p = d.startOf p := by
  simp only [Disk.startOf, keeps.here]

theorem locate (keeps : Keeps d d') {p : Path} {place : List String}
    (located : d.locate p = some place) : d'.locate p = some place := by
  simp only [Disk.locate] at located ⊢
  split at located
  · cases located
  · rename_i nonempty
    rw [if_neg nonempty, keeps.startOf]
    exact keeps.walk located

theorem lookup_ne_none (keeps : Keeps d d') {p : Path} (stands : d.lookup p ≠ none) :
    d'.lookup p ≠ none := by
  simp only [Disk.lookup] at stands ⊢
  cases located : d.locate p with
  | none => simp [located] at stands
  | some place =>
      rw [located, Option.bind_some] at stands
      rw [keeps.locate located, Option.bind_some]
      exact keeps.node?_ne_none stands

theorem exists? (keeps : Keeps d d') {p : Path} (stands : d.exists? p = true) :
    d'.exists? p = true := by
  simp only [Disk.exists?, Option.isSome_iff_ne_none] at stands ⊢
  exact keeps.lookup_ne_none stands

theorem isFolder (keeps : Keeps d d') {p : Path} (folder : d.isFolder p = true) :
    d'.isFolder p = true := by
  simp only [Disk.isFolder, decide_eq_true_eq] at folder ⊢
  obtain ⟨place, located, node⟩ := Option.bind_eq_some_iff.1 folder
  exact Option.bind_eq_some_iff.2 ⟨place, keeps.locate located, keeps.node?_folder node⟩

theorem anchored (keeps : Keeps d d') {p : Path} (anchored : d.Anchored p) : d'.Anchored p := by
  obtain ⟨front, back, split, notUp, there⟩ := anchored
  obtain ⟨place, walked⟩ := Option.ne_none_iff_exists'.1 there
  refine ⟨front, back, split, notUp, ?_⟩
  rw [keeps.startOf, keeps.walk walked]
  exact Option.some_ne_none place

/-- A path reads the same where the same stands, or a folder where nothing stood. -/
theorem read_eq (keeps : Keeps d d') (wf : d.WellFormed) (wf' : d'.WellFormed) {p : Path}
    (anchored : d.Anchored p)
    (agree : d'.node? (d.destination p) = d.node? (d.destination p) ∨
      (d.node? (d.destination p) = none ∧ d'.node? (d.destination p) = some .folder)) :
    d'.read p = d.read p := by
  rw [read_of_anchored wf anchored, read_of_anchored wf' (keeps.anchored anchored),
    destination_congr keeps.here]
  have same : d'.contentsAt (d.destination p) = d.contentsAt (d.destination p) := by
    rcases agree with same | ⟨missing, folder⟩
    · simp only [contentsAt, same]
    · simp only [contentsAt, missing, folder]
  rw [same]

end Keeps

theorem read_eq_some_iff {d : Disk} {p : Path} {contents : Contents} :
    d.read p = some contents ↔
      ∃ place, d.locate p = some place ∧ d.node? place = some (.file contents) := by
  simp only [read, lookup]
  constructor
  · intro found
    split at found
    · rename_i c node
      cases found
      exact Option.bind_eq_some_iff.1 node
    · cases found
  · rintro ⟨place, located, node⟩
    rw [located, Option.bind_some, node]

theorem isFile_iff {d : Disk} {p : Path} :
    d.isFile p = true ↔ ∃ contents, d.read p = some contents := by
  simp only [isFile, read]
  split <;> simp_all

/-! ## One place is changed -/

/-- The disk with something at a place. -/
def set (d : Disk) (place : List String) (node : Node) : Disk :=
  { d with nodes := d.nodes.insert (placeName place) node }

theorem get?_set (d : Disk) (place : List String) (node : Node) (name : String) :
    (d.set place node).nodes.get? name =
      if placeName place = name then some node else d.nodes.get? name :=
  Dict.get?_insert _ _ _ _

theorem node?_set_self (d : Disk) {place : List String} (ne : place ≠ []) (node : Node) :
    (d.set place node).node? place = some node := by
  rw [node?_of_ne_nil _ ne, get?_set, if_pos rfl]

theorem node?_set_of_ne (d : Disk) {place other : List String} (node : Node)
    (proper : ∀ n ∈ place, IsProper n) (properOther : ∀ n ∈ other, IsProper n)
    (ne : place ≠ other) : (d.set place node).node? other = d.node? other := by
  cases other with
  | nil => rfl
  | cons name rest =>
      rw [node?_of_ne_nil _ (by simp), node?_of_ne_nil _ (by simp), get?_set,
        if_neg fun same => ne (placeName_inj proper properOther same)]

theorem keeps_set_folder {d : Disk} {place : List String} (ne : place ≠ [])
    (free : d.node? place = none) : Keeps d (d.set place .folder) := by
  rw [node?_of_ne_nil _ ne] at free
  refine ⟨rfl, fun name h => ?_, fun name c h => ⟨c, ?_⟩⟩ <;> rw [get?_set]
  · split
    · rfl
    · exact h
  · rw [if_neg fun same => by rw [← same, free] at h; cases h]
    exact h

theorem keeps_set_file {d : Disk} {place : List String} (contents : Contents)
    (free : d.isFolderAt place = false) : Keeps d (d.set place (.file contents)) := by
  have ne : place ≠ [] := by rintro rfl; cases free
  have notFolder : d.nodes.get? (placeName place) ≠ some .folder := by
    rw [← node?_of_ne_nil _ ne]
    exact fun h => by rw [isFolderAt_iff.2 h] at free; cases free
  refine ⟨rfl, fun name h => ?_, fun name c h => ?_⟩
  · rw [get?_set, if_neg fun same => notFolder (by rw [same, h])]
    exact h
  · rw [get?_set]
    split
    · exact ⟨contents, rfl⟩
    · exact ⟨c, h⟩

/-- Something put into a folder leaves everything in a folder. -/
theorem WellFormed.set {d : Disk} (wf : d.WellFormed) {above : List String} {name : String}
    {node : Node} (proper : ∀ n ∈ above ++ [name], IsProper n)
    (folder : d.isFolderAt above = true) (keeps : Keeps d (d.set (above ++ [name]) node)) :
    (d.set (above ++ [name]) node).WellFormed where
  here := wf.here
  closed := by
    intro other last properOther stands
    by_cases same : above ++ [name] = other ++ [last]
    · rw [← (List.append_inj' same rfl).1]
      exact keeps.isFolderAt folder
    · rw [node?_set_of_ne _ _ proper properOther same] at stands
      exact keeps.isFolderAt (wf.closed other last properOther stands)

end Disk

end ApiForge
