import ApiForge.Proofs.Disk.Put
/-
# ApiForge.Proofs.Disk.Confined -- changes that stay in some folders

Files were put directly into some folders, folders were made on the way to them, and all else
is as it was (`Disk.Confined`).  Putting a file that lies in one of the folders is such a
change, and what is left of it where it fails is one too (`confined_place`).  Nothing is asked
of the paths: one that goes back up leads to a place just the same.
-/

namespace ApiForge

set_option autoImplicit false

namespace Disk

/-- The place of this name is directly in one of the folders. -/
def IsIn (d : Disk) (folders : List Path) (name : String) : Prop :=
  ∃ folder ∈ folders, ∃ leaf, Path.IsLeaf leaf ∧ name = placeName (d.destination folder ++ [leaf])

/-- The place of this name is one of the folders, or one leads through it to a folder. -/
def IsOnWay (d : Disk) (folders : List Path) (name : String) : Prop :=
  ∃ folder ∈ folders, ∃ place, d.Passes folder place ∧ name = placeName place

/-- Files were put directly into the folders, folders were made on the way to them, and
nothing else was changed. -/
structure Confined (folders : List Path) (d d' : Disk) : Prop where
  here : d'.here = d.here
  nodes : ∀ name, d'.nodes.get? name = d.nodes.get? name ∨
    (∃ contents, d'.nodes.get? name = some (.file contents) ∧ d.IsIn folders name) ∨
    (d.nodes.get? name = none ∧ d'.nodes.get? name = some .folder ∧ d.IsOnWay folders name)

variable {folders : List Path} {d d' d'' : Disk} {p : Path}

theorem IsIn.congr (here : d'.here = d.here) {name : String} (inside : d'.IsIn folders name) :
    d.IsIn folders name := by
  obtain ⟨folder, mem, leaf, proper, same⟩ := inside
  exact ⟨folder, mem, leaf, proper, by rw [same, destination_congr here]⟩

theorem IsOnWay.congr (here : d'.here = d.here) {name : String}
    (onWay : d'.IsOnWay folders name) : d.IsOnWay folders name := by
  obtain ⟨folder, mem, place, passes, same⟩ := onWay
  exact ⟨folder, mem, place, passes.congr here, same⟩

namespace Confined

theorem refl (folders : List Path) (d : Disk) : Confined folders d d :=
  ⟨rfl, fun _ => .inl rfl⟩

theorem trans (first : Confined folders d d') (second : Confined folders d' d'') :
    Confined folders d d'' where
  here := second.here.trans first.here
  nodes := fun name => by
    rcases second.nodes name with same | ⟨contents, file, inside⟩ | ⟨missing, folder, onWay⟩
    · rw [same]
      exact first.nodes name
    · exact .inr (.inl ⟨contents, file, inside.congr first.here⟩)
    · -- what was missing in between was missing at first
      rcases first.nodes name with kept | ⟨contents, file, -⟩ | ⟨-, new, -⟩
      · exact .inr (.inr ⟨kept ▸ missing, folder, onWay.congr first.here⟩)
      · rw [missing] at file
        cases file
      · rw [missing] at new
        cases new

end Confined

section Putting

variable (lies : ∀ q, p.parent? = some q → ∃ folder ∈ folders, p.LiesIn folder)
include lies

/-- The folders that are made for a file are on the way to the one that it lies in. -/
theorem confined_makeRoom (d : Disk) : Confined folders d (Sink.makeRoom d p).1 := by
  rcases makeRoom_makes d p with same | ⟨q, parent, makes⟩
  · rw [same]
    exact .refl folders d
  · refine ⟨makes.grows.here, fun name => ?_⟩
    rcases makes.grows.nodes name with kept | ⟨missing, new⟩
    · exact .inl kept
    rcases makes.passes name with kept | ⟨place, passes, same⟩
    · exact .inl kept
    obtain ⟨folder, mem, within⟩ := lies q parent
    have above := Path.isFolderOf_parent parent
    refine .inr (.inr ⟨missing, new, folder, mem, place, ?_, same⟩)
    exact passes.further (above.absolute.trans within.absolute) (above.names ▸ within.way)

/-- A file is put directly into the folder that it lies in. -/
theorem confined_set_file {place : List String} (leads : d.filePlace p = some place)
    (contents : Contents) : Confined folders d (d.set place (.file contents)) := by
  obtain ⟨located, -, file, notUp⟩ := filePlace_eq_some_iff.1 leads
  obtain ⟨q, parent⟩ := Path.exists_parent file
  obtain ⟨folder, mem, within⟩ := lies q parent
  obtain ⟨leaf, names⟩ := within.leaf file
  obtain ⟨front, last, split, silent⟩ := exists_last_segment p
  have isName : Path.isName last = true := by simpa [file] using silent
  -- the name behind the folder is the segment that the path ends in
  have same : leaf = last := by
    rw [Path.names, split, List.filter_append, List.filter_cons_of_pos isName,
      List.filter_nil] at names
    exact (List.singleton_inj.1 (List.append_inj' names rfl).2).symm
  rw [split, List.getLast?_concat, Option.getD_some, ← same] at notUp
  have proper := Path.mem_names (names ▸ List.mem_append_right _ List.mem_cons_self)
  have there : place = d.destination folder ++ [leaf] := by
    rw [eq_destination_of_locate located, destination, names, List.foldl_append]
    simp only [List.foldl_cons, List.foldl_nil, climb, if_neg notUp, destination, startOf,
      within.absolute]
  refine ⟨rfl, fun name => ?_⟩
  rw [get?_set]
  split
  · rename_i here
    exact .inr (.inl ⟨contents, rfl, folder, mem, leaf, ⟨same ▸ isName, proper.2.2⟩,
      here.symm.trans (congrArg placeName there)⟩)
  · exact .inl rfl

/-- **Putting a file changes the folder that it lies in and what is on the way to it, whether
or not it succeeds.** -/
theorem confined_place {put : Disk → Option Disk} (error : FileError)
    (puts : ∀ room d', put room = some d' → ∃ place contents,
      room.filePlace p = some place ∧ d' = room.set place (.file contents)) (d : Disk) :
    Confined folders d (Sink.place d p put error).2 := by
  have room := confined_makeRoom lies d
  simp only [Sink.place]
  split
  · rename_i between failure made
    rwa [made] at room
  · rename_i between made
    rw [made] at room
    split
    · rename_i d' result
      obtain ⟨place, contents, leads, rfl⟩ := puts between d' result
      exact room.trans (confined_set_file lies leads contents)
    · exact room

end Putting

end Disk

end ApiForge
