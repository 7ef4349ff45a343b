import ApiForge.Proofs.Disk.Folders
/-
# ApiForge.Proofs.Disk.Put -- putting a file, with the folders on the way

Putting a file changes the place that its path leads to and adds folders above it
(`Disk.Put`).  A disk where everything stands in a folder stays one (`Put.wellFormed`).
-/

namespace ApiForge

set_option autoImplicit false

namespace Disk

/-! ## Putting a file -/

/-- A file is put at a place, where its path leads, after room was made for it. -/
structure Put (d room d' : Disk) (p : Path) (place : List String) (contents : Contents) :
    Prop where
  made : Sink.makeRoom d p = (room, .ok ())
  leads : room.filePlace p = some place
  result : d' = room.set place (.file contents)

/-- Room is made for a file by making folders for the folder it lies in. -/
theorem makeRoom_makes (d : Disk) (p : Path) : (Sink.makeRoom d p).1 = d ∨
    ∃ q, p.parent? = some q ∧ Makes q d (Sink.makeRoom d p).1 := by
  simp only [Sink.makeRoom]
  split
  · exact Or.inl rfl
  · rename_i q parent
    have makes := makes_makeFolders d q
    refine Or.inr ⟨q, parent, ?_⟩
    split <;> rename_i done <;> rw [done] at makes <;> exact makes

theorem makeRoom_grows (d : Disk) (p : Path) : Grows d (Sink.makeRoom d p).1 := by
  rcases makeRoom_makes d p with same | ⟨q, -, makes⟩
  · rw [same]
    exact Grows.refl d
  · exact makes.grows

theorem makeRoom_wellFormed {d : Disk} (wf : d.WellFormed) (p : Path) :
    (Sink.makeRoom d p).1.WellFormed := by
  rcases makeRoom_makes d p with same | ⟨q, -, makes⟩
  · rwa [same]
  · exact makes.wellFormed wf

/-- Room that was made once need not be made again. -/
theorem makeRoom_again {d room later : Disk} {p : Path}
    (made : Sink.makeRoom d p = (room, .ok ())) (keeps : Keeps room later) :
    Sink.makeRoom later p = (later, .ok ()) := by
  simp only [Sink.makeRoom] at made ⊢
  split at made
  · rfl
  · rename_i q _
    split at made
    · rename_i done
      cases made
      by_cases empty : q.text.isEmpty = true
      · simp [makeFolders, makeFolders.go, empty]
      · have there := keeps.isFolder (isFolder_makeFolders (by simpa using empty) done)
        rw [makeFolders_of_isFolder there]
    · cases made

theorem filePlace_eq_some_iff {d : Disk} {p : Path} {place : List String} :
    d.filePlace p = some place ↔ d.locate p = some place ∧ d.isFolderAt place = false ∧
      p.asksFolder = false ∧ (p.segments.map String.ofList).getLast?.getD "" ≠ ".." := by
  simp only [filePlace, Path.asksFolder, Path.isName]
  generalize (p.segments.map String.ofList).getLast?.getD "" = last
  by_cases special : last = "" ∨ last = "." ∨ last = ".."
  · rw [if_pos special]
    rcases special with h | h | h <;> simp [h]
  · rw [if_neg special]
    simp only [not_or] at special
    cases d.locate p with
    | none => simp
    | some q =>
        by_cases folder : d.isFolderAt q = true
        · simp only [if_pos folder, reduceCtorEq, Option.some.injEq, false_iff]
          rintro ⟨rfl, notFolder, -⟩
          rw [folder] at notFolder
          cases notFolder
        · simp only [Bool.not_eq_true] at folder
          simp only [folder, Bool.false_eq_true, if_false, Option.some.injEq]
          constructor
          · rintro rfl
            exact ⟨rfl, folder, by simp [special], special.2.2⟩
          · exact fun h => h.1

/-- A file that is written into a folder leaves everything in a folder. -/
theorem WellFormed.set_file {d : Disk} (wf : d.WellFormed) {p : Path} {place : List String}
    (leads : d.filePlace p = some place) (contents : Contents) :
    (d.set place (.file contents)).WellFormed := by
  obtain ⟨located, free, asks, notUp⟩ := filePlace_eq_some_iff.1 leads
  have proper : ∀ n ∈ place, IsProper n :=
    eq_destination_of_locate located ▸ proper_destination wf p
  obtain ⟨front, last, split, silent⟩ := exists_last_segment p
  have name : Path.isName last = true := by simpa [asks] using silent
  rw [split, List.getLast?_concat, Option.getD_some] at notUp
  simp only [locate] at located
  split at located
  · cases located
  · rw [split] at located
    obtain ⟨above, rfl, -, folder⟩ := walk_to_name name notUp located
    exact wf.set proper folder (keeps_set_file contents free)

theorem WellFormed.write_getD {d : Disk} (wf : d.WellFormed) (p : Path) (contents : Contents) :
    ((d.write p contents).getD d).WellFormed := by
  simp only [write]
  cases leads : d.filePlace p with
  | none => exact wf
  | some place => exact wf.set_file leads contents

/-- An empty disk, and whatever is put on it, has everything in a folder. -/
theorem WellFormed.put {d : Disk} (wf : d.WellFormed) (p : Path) (contents : Contents) :
    (d.put p contents).WellFormed := by
  simp only [Disk.put]
  split
  · exact ((makes_makeFolders d _).wellFormed wf).write_getD p contents
  · exact wf.write_getD p contents

theorem wellFormed_emptyAt_root : (emptyAt []).WellFormed where
  here := fun _ mem => absurd mem List.not_mem_nil
  closed := fun place name _ stands => by
    rw [node?_of_ne_nil _ (by simp)] at stands
    exact absurd rfl stands

theorem destination_parent {d : Disk} {p q : Path} (parent : p.parent? = some q)
    (level : p.climbs = false) (named : p.asksFolder = false) :
    d.destination q = (d.destination p).dropLast := by
  have folder := Path.isFolderOf_parent parent
  rw [destination_of_level d level, destination_of_level d (folder.level level), folder.names,
    List.dropLast_append_of_ne_nil (Path.names_ne_nil named)]
  simp only [startOf, folder.absolute]

namespace Put

variable {d room d' : Disk} {p : Path} {place : List String} {contents : Contents}

theorem grows (put : Put d room d' p place contents) : Grows d room := by
  have grows := makeRoom_grows d p
  rwa [put.made] at grows

theorem free (put : Put d room d' p place contents) : room.isFolderAt place = false :=
  (filePlace_eq_some_iff.1 put.leads).2.1

theorem asksFile (put : Put d room d' p place contents) : p.asksFolder = false :=
  (filePlace_eq_some_iff.1 put.leads).2.2.1

theorem place_ne (put : Put d room d' p place contents) : place ≠ [] := by
  rintro rfl
  exact absurd put.free (by simp)

theorem keeps_room (put : Put d room d' p place contents) : Keeps room d' :=
  put.result ▸ keeps_set_file contents put.free

theorem keeps (put : Put d room d' p place contents) : Keeps d d' :=
  put.grows.keeps.trans put.keeps_room

theorem located (put : Put d room d' p place contents) : d'.locate p = some place :=
  put.keeps_room.locate (filePlace_eq_some_iff.1 put.leads).1

theorem place_eq (put : Put d room d' p place contents) : place = d.destination p := by
  rw [← destination_congr put.keeps.here]
  exact eq_destination_of_locate put.located

theorem get? (put : Put d room d' p place contents) (name : String) :
    d'.nodes.get? name =
      if placeName place = name then some (.file contents) else room.nodes.get? name := by
  rw [put.result, get?_set]

theorem node (put : Put d room d' p place contents) :
    d'.node? place = some (.file contents) := by
  rw [put.result, node?_set_self _ put.place_ne]

theorem wellFormed (put : Put d room d' p place contents) (wf : d.WellFormed) :
    d'.WellFormed := by
  have wfRoom : room.WellFormed := by
    have := makeRoom_wellFormed wf p
    rwa [put.made] at this
  rw [put.result]
  exact wfRoom.set_file put.leads contents

/-- Putting a file at a path that never goes back up changes its place, and adds folders
above. -/
theorem changed (put : Put d room d' p place contents) (level : p.climbs = false)
    (name : String) : d'.nodes.get? name = d.nodes.get? name ∨
      (d'.nodes.get? name = some (.file contents) ∧ name = placeName place) ∨
      (d.nodes.get? name = none ∧ d'.nodes.get? name = some .folder ∧
        ∃ above, above <+: place.dropLast ∧ name = placeName above) := by
  by_cases here : placeName place = name
  · exact Or.inr (Or.inl ⟨by rw [put.get?, if_pos here], here.symm⟩)
  rw [put.get?, if_neg here]
  rcases put.grows.nodes name with same | ⟨missing, folder⟩
  · exact Or.inl same
  refine Or.inr (Or.inr ⟨missing, folder, ?_⟩)
  have makes := makeRoom_makes d p
  rw [put.made] at makes
  rcases makes with same | ⟨q, parent, makes⟩
  · have same : room = d := same
    rw [same, missing] at folder
    cases folder
  · rcases makes.new ((Path.isFolderOf_parent parent).level level) name with kept | new
    · rw [kept, missing] at folder
      cases folder
    · rwa [destination_parent parent level put.asksFile, ← put.place_eq] at new

end Put

end Disk

end ApiForge
