import ApiForge.Proofs.Disk.Change
/-
# ApiForge.Proofs.Disk.Folders -- making folders

Making folders adds folders and nothing else (`Disk.Grows`): those that a path goes through
(`Makes.passes`), until the folder is there (`isFolder_makeFolders`).  A folder that is there
is left alone (`makeFolders_of_isFolder`).
-/

namespace ApiForge

set_option autoImplicit false

namespace Disk

/-! ## Disks that only grow -/

/-- Folders are added where nothing stood, and all else stays as it is. -/
structure Grows (d d' : Disk) : Prop where
  here : d'.here = d.here
  nodes : ∀ name, d'.nodes.get? name = d.nodes.get? name ∨
    (d.nodes.get? name = none ∧ d'.nodes.get? name = some .folder)

namespace Grows

variable {d d' d'' : Disk}

theorem refl (d : Disk) : Grows d d := ⟨rfl, fun _ => Or.inl rfl⟩

theorem trans (first : Grows d d') (second : Grows d' d'') : Grows d d'' where
  here := second.here.trans first.here
  nodes := fun name => by
    rcases first.nodes name with h | h <;> rcases second.nodes name with g | g
    · exact Or.inl (g.trans h)
    · exact Or.inr ⟨h ▸ g.1, g.2⟩
    · exact Or.inr ⟨h.1, g.trans h.2⟩
    · exact Or.inr ⟨h.1, g.2⟩

theorem get?_of_some (grows : Grows d d') {name : String} {node : Node}
    (stands : d.nodes.get? name = some node) : d'.nodes.get? name = some node := by
  rcases grows.nodes name with h | h
  · exact h.trans stands
  · rw [stands] at h; cases h.1

theorem keeps (grows : Grows d d') : Keeps d d' :=
  ⟨grows.here, fun _ h => grows.get?_of_some h, fun _ c h => ⟨c, grows.get?_of_some h⟩⟩

theorem node?_of_some (grows : Grows d d') {place : List String} {node : Node}
    (stands : d.node? place = some node) : d'.node? place = some node := by
  cases place with
  | nil => exact stands
  | cons name rest => exact grows.get?_of_some stands

theorem read (grows : Grows d d') {p : Path} {contents : Contents}
    (file : d.read p = some contents) : d'.read p = some contents := by
  obtain ⟨place, located, node⟩ := read_eq_some_iff.1 file
  exact read_eq_some_iff.2 ⟨place, grows.keeps.locate located, grows.node?_of_some node⟩

end Grows

/-! ## Making one folder -/

/-- A path goes through its segments up to the last that is not empty, and then through
empty ones. -/
theorem segments_eq_trimmed (p : Path) : ∃ blanks : List String,
    p.segments.map String.ofList = trimmedSegments p ++ blanks ∧ ∀ s ∈ blanks, s = "" := by
  refine ⟨((p.segments.reverse.takeWhile fun seg => seg.isEmpty).reverse).map String.ofList,
    ?_, ?_⟩
  · rw [trimmedSegments, ← List.map_append, ← List.reverse_append,
      List.takeWhile_append_dropWhile, List.reverse_reverse]
  · intro s mem
    obtain ⟨seg, inside, rfl⟩ := List.mem_map.1 mem
    have empty : seg.isEmpty = true :=
      List.all_eq_true.1 List.all_takeWhile seg (List.mem_reverse.1 inside)
    rw [List.isEmpty_iff.1 empty]

theorem filter_trimmedSegments (p : Path) :
    (trimmedSegments p).filter Path.isName = p.names := by
  obtain ⟨blanks, split, blank⟩ := segments_eq_trimmed p
  have none : blanks.filter Path.isName = [] :=
    List.filter_eq_nil_iff.2 fun s mem => by rw [blank s mem]; decide
  rw [Path.names, split, List.filter_append, none, List.append_nil]

theorem walk_blanks {d : Disk} {place : List String} {blanks : List String}
    (blank : ∀ s ∈ blanks, s = "") (folder : d.isFolderAt place = true) :
    d.walk place blanks = some place := by
  induction blanks with
  | nil => rfl
  | cons s rest ih =>
      rw [blank s List.mem_cons_self, walk_cons, step_eq, if_pos folder]
      exact ih fun x mem => blank x (List.mem_cons_of_mem _ mem)

theorem ne_blank_of_getLast?_trimmed {p : Path} {last : String}
    (ends : (trimmedSegments p).getLast? = some last) : last ≠ "" := by
  rw [trimmedSegments, List.getLast?_map, List.getLast?_reverse] at ends
  obtain ⟨seg, head, rfl⟩ := Option.map_eq_some_iff.1 ends
  have := List.head?_dropWhile_not (fun seg : List Char => seg.isEmpty) p.segments.reverse
  rw [head] at this
  simpa using this

/-- The last step of a walk to a name goes down from a folder. -/
theorem walk_to_name {d : Disk} {start place front : List String} {last : String}
    (name : Path.isName last = true) (notUp : last ≠ "..")
    (walked : d.walk start (front ++ [last]) = some place) :
    ∃ above, place = above ++ [last] ∧ d.walk start front = some above ∧
      d.isFolderAt above = true := by
  rw [walk_append] at walked
  obtain ⟨above, reached, final⟩ := Option.bind_eq_some_iff.1 walked
  rw [walk_cons, step_eq] at final
  by_cases folder : d.isFolderAt above = true
  · rw [if_pos folder, if_pos name] at final
    simp only [climb, notUp, if_false, Option.bind_some, walk, List.foldlM_nil] at final
    exact ⟨above, (Option.some.inj final).symm, reached, folder⟩
  · simp [folder] at final

/-- What it takes to make a folder, and what comes of it. -/
theorem makeFolder_eq_ok {d d' : Disk} {p : Path} (made : d.makeFolder p = .ok d') :
    ∃ above last, d' = d.set (above ++ [last]) .folder ∧
      d.walk (d.startOf p) (trimmedSegments p) = some (above ++ [last]) ∧
      d.node? (above ++ [last]) = none ∧ d.isFolderAt above = true := by
  simp only [makeFolder] at made
  split at made
  · cases made
  · rename_i last ends
    split at made
    · cases made
    · rename_i place walked
      split at made
      · cases made
      · rename_i free
        simp only [not_or, Bool.not_eq_true, Option.isSome_eq_false_iff,
          Option.isNone_iff_eq_none] at free
        have name : Path.isName last = true := by
          simp [Path.isName, ne_blank_of_getLast?_trimmed ends, free.1]
        obtain ⟨front, split⟩ := List.getLast?_eq_some_iff.1 ends
        obtain ⟨above, rfl, -, folder⟩ := walk_to_name name free.2.1 (split ▸ walked)
        exact ⟨above, last, (Except.ok.inj made).symm, walked, free.2.2, folder⟩

theorem makeFolder_grows {d d' : Disk} {p : Path} (made : d.makeFolder p = .ok d') :
    Grows d d' := by
  obtain ⟨above, last, rfl, -, free, -⟩ := makeFolder_eq_ok made
  rw [node?_of_ne_nil _ (by simp)] at free
  refine ⟨rfl, fun name => ?_⟩
  rw [get?_set]
  split
  · rename_i same
    exact Or.inr ⟨same ▸ free, rfl⟩
  · exact Or.inl rfl

theorem makeFolder_wellFormed {d d' : Disk} {p : Path} (wf : d.WellFormed)
    (made : d.makeFolder p = .ok d') : d'.WellFormed := by
  obtain ⟨above, last, rfl, walked, free, folder⟩ := makeFolder_eq_ok made
  refine wf.set ?_ folder (keeps_set_folder (by simp) free)
  rw [eq_of_walk walked, filter_trimmedSegments]
  exact proper_destination wf p

/-- A folder that was made is there. -/
theorem makeFolder_isFolder {d d' : Disk} {p : Path} (nonempty : p.text.isEmpty = false)
    (made : d.makeFolder p = .ok d') : d'.isFolder p = true := by
  have keeps := (makeFolder_grows made).keeps
  obtain ⟨above, last, rfl, walked, free, folder⟩ := makeFolder_eq_ok made
  have there := node?_set_self d (show above ++ [last] ≠ [] by simp) .folder
  obtain ⟨blanks, split, blank⟩ := segments_eq_trimmed p
  have located : (d.set (above ++ [last]) .folder).locate p = some (above ++ [last]) := by
    rw [locate, if_neg (by simp [nonempty]), keeps.startOf, split, walk_append,
      keeps.walk walked, Option.bind_some, walk_blanks blank (isFolderAt_iff.2 there)]
  simp [isFolder, lookup, located, there]

/-! ## Making a folder and those above it -/

/-- Folders are made for a path, the path of its folder first. -/
inductive Makes : Path → Disk → Disk → Prop where
  | nothing (p : Path) (d : Disk) : Makes p d d
  | own {p : Path} {d d' : Disk} : d.makeFolder p = .ok d' → Makes p d d'
  | above {p q : Path} {d d' : Disk} : p.parent? = some q → Makes q d d' → Makes p d d'
  | both {p q : Path} {d d' d'' : Disk} : p.parent? = some q → Makes q d d' →
      d'.makeFolder p = .ok d'' → Makes p d d''

theorem makes_go (fuel : Nat) (d : Disk) (p : Path) : Makes p d (makeFolders.go fuel d p).1 := by
  induction fuel generalizing d p with
  | zero => exact .nothing p d
  | succ fuel ih =>
      simp only [makeFolders.go]
      split
      · exact .nothing p d
      · split
        · rename_i made
          exact .own made
        · exact .nothing p d
        · split
          · exact .nothing p d
          · rename_i q parent
            have first := ih d q
            split
            · rename_i failed
              rw [failed] at first
              exact .above parent first
            · rename_i done
              rw [done] at first
              split
              · rename_i made
                exact .both parent first made
              · exact .above parent first

theorem makes_makeFolders (d : Disk) (p : Path) : Makes p d (d.makeFolders p).1 :=
  makes_go _ d p

theorem Makes.grows {p : Path} {d d' : Disk} (makes : Makes p d d') : Grows d d' := by
  induction makes with
  | nothing => exact Grows.refl _
  | own made => exact makeFolder_grows made
  | above _ _ ih => exact ih
  | both _ _ made ih => exact ih.trans (makeFolder_grows made)

theorem Makes.wellFormed {p : Path} {d d' : Disk} (makes : Makes p d d') (wf : d.WellFormed) :
    d'.WellFormed := by
  induction makes with
  | nothing => exact wf
  | own made => exact makeFolder_wellFormed wf made
  | above _ _ ih => exact ih wf
  | both _ _ made ih => exact makeFolder_wellFormed (ih wf) made

theorem makeFolder_new {d d' : Disk} {p : Path} (made : d.makeFolder p = .ok d')
    (name : String) : d'.nodes.get? name = d.nodes.get? name ∨
      name = placeName (d.destination p) := by
  obtain ⟨above, last, rfl, walked, -, -⟩ := makeFolder_eq_ok made
  rw [get?_set]
  split
  · rename_i same
    rw [← same, eq_of_walk walked, filter_trimmedSegments]
    exact Or.inr rfl
  · exact Or.inl rfl

/-- A path leads through the place, if every folder on the way is there. -/
def Passes (d : Disk) (p : Path) (place : List String) : Prop :=
  ∃ front, front <+: p.names ∧ place = front.foldl climb (d.startOf p)

theorem passes_destination (d : Disk) (p : Path) : d.Passes p (d.destination p) :=
  ⟨_, List.prefix_refl _, rfl⟩

/-- What is on the way to a path is on the way to every path that goes on from it. -/
theorem Passes.further {d : Disk} {p q : Path} {place : List String} (passes : d.Passes q place)
    (absolute : q.isAbsolute = p.isAbsolute) (way : q.names <+: p.names) : d.Passes p place := by
  obtain ⟨front, early, rfl⟩ := passes
  exact ⟨front, early.trans way, by rw [startOf, startOf, absolute]⟩

theorem Passes.congr {d d' : Disk} (here : d'.here = d.here) {p : Path} {place : List String}
    (passes : d'.Passes p place) : d.Passes p place := by
  obtain ⟨front, early, rfl⟩ := passes
  exact ⟨front, early, by rw [startOf, startOf, here]⟩

/-- On the way of a path that never goes back up lies what is above its destination. -/
theorem Passes.prefix_of_level {d : Disk} {p : Path} {place : List String}
    (passes : d.Passes p place) (level : p.climbs = false) : place <+: d.destination p := by
  obtain ⟨front, early, rfl⟩ := passes
  have notUp : ".." ∉ front := fun mem =>
    Path.not_mem_names_of_not_climbs level (early.subset mem)
  rw [destination_of_level d level, foldl_climb_of_level notUp]
  exact (List.prefix_append_right_inj _).2 early

/-- **What is made for a path lies on the way to it.** -/
theorem Makes.passes {p : Path} {d d' : Disk} (makes : Makes p d d') (name : String) :
    d'.nodes.get? name = d.nodes.get? name ∨
      ∃ place, d.Passes p place ∧ name = placeName place := by
  have above {p q : Path} {d : Disk} (parent : p.parent? = some q) {place : List String}
      (passes : d.Passes q place) : d.Passes p place := by
    have folder := Path.isFolderOf_parent parent
    exact passes.further folder.absolute (folder.names ▸ List.dropLast_prefix _)
  induction makes with
  | nothing => exact Or.inl rfl
  | own made =>
      exact (makeFolder_new made name).imp id fun h => ⟨_, passes_destination _ _, h⟩
  | above parent _ ih =>
      refine ih.imp id ?_
      rintro ⟨place, passes, same⟩
      exact ⟨place, above parent passes, same⟩
  | both parent makes made ih =>
      rcases makeFolder_new made name with kept | new
      · refine ih.imp kept.trans ?_
        rintro ⟨place, passes, same⟩
        exact ⟨place, above parent passes, same⟩
      · exact Or.inr ⟨_, (passes_destination _ _).congr makes.grows.here, new⟩

/-- What is made for a path that never goes back up lies on the way to its destination. -/
theorem Makes.new {p : Path} {d d' : Disk} (makes : Makes p d d') (level : p.climbs = false)
    (name : String) : d'.nodes.get? name = d.nodes.get? name ∨
      ∃ place, place <+: d.destination p ∧ name = placeName place := by
  refine (makes.passes name).imp id ?_
  rintro ⟨place, passes, same⟩
  exact ⟨place, passes.prefix_of_level level, same⟩

theorem isFolder_go {fuel : Nat} {d d' : Disk} {p : Path} (nonempty : p.text.isEmpty = false)
    (done : makeFolders.go fuel d p = (d', true)) : d'.isFolder p = true := by
  cases fuel with
  | zero => cases done
  | succ fuel =>
      simp only [makeFolders.go, nonempty, Bool.false_eq_true, if_false] at done
      split at done
      · rename_i made
        cases done
        exact makeFolder_isFolder nonempty made
      · obtain ⟨rfl, folder⟩ := Prod.mk.inj done
        exact folder
      · split at done
        · cases done
        · split at done
          · cases done
          · split at done
            · rename_i made
              cases done
              exact makeFolder_isFolder nonempty made
            · obtain ⟨rfl, folder⟩ := Prod.mk.inj done
              exact folder

/-- Where making folders succeeds the folder is there. -/
theorem isFolder_makeFolders {d d' : Disk} {p : Path} (nonempty : p.text.isEmpty = false)
    (done : d.makeFolders p = (d', true)) : d'.isFolder p = true :=
  isFolder_go nonempty done

theorem trimmedSegments_ne_nil {p : Path} (nonempty : p.text.isEmpty = false)
    (relative : p.isAbsolute = false) : trimmedSegments p ≠ [] := by
  intro none
  obtain ⟨blanks, split, blank⟩ := segments_eq_trimmed p
  rw [none, List.nil_append] at split
  cases chars : p.text.toList with
  | nil =>
      have : p.text = "" := String.toList_inj.1 chars
      simp [this] at nonempty
  | cons c rest =>
      have notSlash : c ≠ '/' := by
        rintro rfl
        simp [Path.isAbsolute, chars] at relative
      have first : ∃ tail others, p.segments = (c :: tail) :: others := by
        obtain ⟨head, others, cut⟩ :=
          List.exists_cons_of_ne_nil (Text.splitAt_ne_nil (· = '/') rest)
        exact ⟨head, others, by simp [Path.segments, chars, Text.splitAt, notSlash, cut]⟩
      obtain ⟨tail, others, front⟩ := first
      rw [front, List.map_cons] at split
      have := blank (String.ofList (c :: tail)) (split ▸ List.mem_cons_self)
      simp at this

/-- **A folder that is there is not made again.** -/
theorem makeFolders_of_isFolder {d : Disk} {p : Path} (folder : d.isFolder p = true) :
    d.makeFolders p = (d, true) := by
  simp only [makeFolders, makeFolders.go]
  split
  · rfl
  rename_i nonempty
  have occupied : d.makeFolder p = .error .occupied := by
    simp only [isFolder, lookup, locate, if_neg nonempty, decide_eq_true_eq] at folder
    obtain ⟨place, walked, node⟩ := Option.bind_eq_some_iff.1 folder
    obtain ⟨blanks, split, blank⟩ := segments_eq_trimmed p
    rw [split, walk_append] at walked
    obtain ⟨reached, first, rest⟩ := Option.bind_eq_some_iff.1 walked
    have stays : place = reached := by
      have none : blanks.filter Path.isName = [] :=
        List.filter_eq_nil_iff.2 fun s mem => by rw [blank s mem]; decide
      rw [eq_of_walk rest, none]
      rfl
    subst stays
    simp only [makeFolder]
    split
    · rename_i ends
      cases absolute : p.isAbsolute with
      | true => rfl
      | false =>
          exact absurd (List.getLast?_eq_none_iff.1 ends)
            (trimmedSegments_ne_nil (by simpa using nonempty) absolute)
    · rw [first]
      simp [node]
  rw [occupied]
  simp [folder]

end Disk

end ApiForge
