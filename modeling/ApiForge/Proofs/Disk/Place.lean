import ApiForge.Disk
import ApiForge.Proofs.Path
/-
# ApiForge.Proofs.Disk.Place -- the place that a path leads to

Where a path leads can be read off the path alone, once it is known where relative paths
start (`Disk.destination`); the disk only decides whether one gets there.  On a disk where
everything stands in a folder (`Disk.WellFormed`) a path gets to whatever stands at its
destination if the folders are there that it goes back up from: `lookup_of_anchored`.
-/

namespace ApiForge

set_option autoImplicit false

open ApiForge.Text

namespace Disk

/-! ## Names of places -/

/-- May the name stand in a place? -/
def IsProper (name : String) : Prop := name ≠ "" ∧ '/' ∉ name.toList

theorem toList_placeName (place : List String) :
    (placeName place).toList = place.flatMap fun name => '/' :: name.toList := by
  have grow : ∀ (rest : List String) (start : String),
      (rest.foldl (fun acc name => acc ++ "/" ++ name) start).toList
        = start.toList ++ rest.flatMap fun name => '/' :: name.toList := by
    intro rest
    induction rest with
    | nil => simp
    | cons name rest ih => intro start; simp [ih]
  simpa [placeName] using grow place ""

theorem splitAt_placeName {place : List String} (proper : ∀ name ∈ place, IsProper name) :
    splitAt (· = '/') (placeName place).toList = [] :: place.map String.toList := by
  rw [toList_placeName]
  have clean : ∀ name ∈ place, ∀ c ∈ name.toList, decide (c = '/') = false := by
    intro name mem c inName
    simp only [decide_eq_false_iff_not]
    rintro rfl
    exact (proper name mem).2 inName
  clear proper
  induction place with
  | nil => rfl
  | cons name rest ih =>
      have tail := ih fun x mem => clean x (List.mem_cons_of_mem _ mem)
      have head := clean name List.mem_cons_self
      cases rest with
      | nil => simpa [splitAt] using splitAt_of_clean name.toList head
      | cons next rest =>
          simp only [List.flatMap_cons, List.cons_append, List.map_cons] at tail ⊢
          simp only [splitAt, decide_true, if_true] at tail ⊢
          rw [splitAt_append_sep (by simp) _ _ head]
          simpa using tail

/-- **Places are told apart by their names.** -/
theorem placeName_inj {a b : List String} (properA : ∀ name ∈ a, IsProper name)
    (properB : ∀ name ∈ b, IsProper name) (same : placeName a = placeName b) : a = b := by
  have split := splitAt_placeName properA
  rw [same, splitAt_placeName properB] at split
  exact ((List.map_inj_right fun _ _ => String.toList_inj.1).1 (List.cons.inj split).2).symm

theorem node?_of_ne_nil (d : Disk) {place : List String} (ne : place ≠ []) :
    d.node? place = d.nodes.get? (placeName place) := by
  cases place with
  | nil => exact absurd rfl ne
  | cons name rest => rfl

@[simp] theorem isFolderAt_nil (d : Disk) : d.isFolderAt [] = true := rfl

theorem isFolderAt_iff {d : Disk} {place : List String} :
    d.isFolderAt place = true ↔ d.node? place = some .folder := by
  simp [isFolderAt]

/-! ## Walking -/

/-- One name further down, or back up. -/
def climb (place : List String) (name : String) : List String :=
  if name = ".." then place.dropLast else place ++ [name]

/-- The place that a path leads to when every folder on the way is there. -/
def destination (d : Disk) (p : Path) : List String := p.names.foldl climb (d.startOf p)

theorem step_eq (d : Disk) (place : List String) (seg : String) :
    d.step place seg =
      if d.isFolderAt place then some (if Path.isName seg then climb place seg else place)
      else none := by
  simp only [step, Path.isName, climb]
  by_cases folder : d.isFolderAt place = true
  · by_cases silent : seg = "" ∨ seg = "."
    · rcases silent with rfl | rfl <;> simp [folder]
    · simp only [not_or] at silent
      by_cases up : seg = ".." <;> simp [folder, silent, up]
  · simp [folder]

theorem walk_cons (d : Disk) (start : List String) (seg : String) (segs : List String) :
    d.walk start (seg :: segs) = (d.step start seg).bind fun place => d.walk place segs := rfl

theorem walk_append (d : Disk) (start : List String) (front back : List String) :
    d.walk start (front ++ back) = (d.walk start front).bind fun place => d.walk place back := by
  induction front generalizing start with
  | nil => rfl
  | cons seg front ih =>
      rw [List.cons_append, walk_cons, walk_cons, Option.bind_assoc]
      congr 1
      funext place
      exact ih place

theorem eq_of_walk {d : Disk} {start place : List String} {segs : List String}
    (walked : d.walk start segs = some place) :
    place = (segs.filter Path.isName).foldl climb start := by
  induction segs generalizing start with
  | nil => exact (Option.some.inj walked).symm
  | cons seg segs ih =>
      rw [walk_cons, step_eq] at walked
      by_cases folder : d.isFolderAt start = true
      · rw [if_pos folder, Option.bind_some] at walked
        have rest := ih walked
        by_cases name : Path.isName seg = true
        · simpa [name] using rest
        · simpa [name] using rest
      · simp [folder] at walked

theorem eq_destination_of_locate {d : Disk} {p : Path} {place : List String}
    (located : d.locate p = some place) : place = d.destination p := by
  simp only [locate] at located
  split at located
  · cases located
  · exact eq_of_walk located

theorem foldl_climb_of_level {names : List String} (level : ".." ∉ names)
    (start : List String) : names.foldl climb start = start ++ names := by
  induction names generalizing start with
  | nil => simp
  | cons name rest ih =>
      have notUp : name ≠ ".." := fun same => level (same ▸ List.mem_cons_self)
      have tail := ih (fun mem => level (List.mem_cons_of_mem _ mem)) (start ++ [name])
      simp [climb, notUp, tail]

/-- A path that never goes back up leads to its names, one below the other. -/
theorem destination_of_level (d : Disk) {p : Path} (level : p.climbs = false) :
    d.destination p = d.startOf p ++ p.names :=
  foldl_climb_of_level (Path.not_mem_names_of_not_climbs level) _

theorem destination_of_same (d : Disk) {p q : Path} (same : p.same q = true) :
    d.destination p = d.destination q := by
  simp only [destination, startOf, Path.names_eq_of_same same, Path.isAbsolute_eq_of_same same]

theorem destination_congr {d d' : Disk} (here : d'.here = d.here) (p : Path) :
    d'.destination p = d.destination p := by
  simp only [destination, startOf, here]

/-- A walk goes through what leads nowhere up to its first name, and on from there. -/
theorem walk_to_first_name {d : Disk} {start place segs names : List String} {name : String}
    (walked : d.walk start segs = some place) (first : segs.filter Path.isName = name :: names) :
    ∃ next rest, d.isFolderAt start = true ∧ d.step start name = some next ∧
      d.walk next rest = some place ∧ rest.filter Path.isName = names := by
  induction segs with
  | nil => cases first
  | cons seg segs ih =>
      rw [walk_cons] at walked
      obtain ⟨next, stepped, walked⟩ := Option.bind_eq_some_iff.1 walked
      have folder : d.isFolderAt start = true := by
        rw [step_eq] at stepped
        split at stepped
        · assumption
        · cases stepped
      by_cases isName : Path.isName seg = true
      · rw [List.filter_cons_of_pos isName, List.cons.injEq] at first
        obtain ⟨rfl, rest⟩ := first
        exact ⟨next, segs, folder, stepped, walked, rest⟩
      · rw [List.filter_cons_of_neg isName] at first
        rw [step_eq, if_pos folder, if_neg isName] at stepped
        cases stepped
        exact ih walked first

/-- A walk through the same names that ends in one gets to the same place. -/
theorem walk_of_filter_eq {d : Disk} {start place segs segs' : List String}
    (walked : d.walk start segs = some place)
    (names : segs.filter Path.isName = segs'.filter Path.isName)
    (ends : ∀ last, segs'.getLast? = some last → Path.isName last = true) :
    d.walk start segs' = some place := by
  induction segs' generalizing start segs with
  | nil =>
      have stays := eq_of_walk walked
      rw [names] at stays
      rw [stays]
      rfl
  | cons seg rest ih =>
      have later : ∀ last, rest.getLast? = some last → Path.isName last = true :=
        fun last final => ends last (by rw [List.getLast?_cons, final]; rfl)
      rw [walk_cons]
      by_cases isName : Path.isName seg = true
      · rw [List.filter_cons_of_pos isName] at names
        obtain ⟨next, segs, -, stepped, walked, others⟩ := walk_to_first_name walked names
        rw [stepped]
        exact ih walked others later
      · rw [List.filter_cons_of_neg isName] at names
        cases more : rest.filter Path.isName with
        | nil =>
            -- then the walk does not end in a name
            obtain ⟨last, final⟩ : ∃ last, (seg :: rest).getLast? = some last :=
              Option.isSome_iff_exists.1 (by simp)
            have inside : last ∈ (seg :: rest).filter Path.isName :=
              List.mem_filter.2 ⟨List.mem_of_getLast? final, ends last final⟩
            rw [List.filter_cons_of_neg isName, more] at inside
            cases inside
        | cons first others =>
            obtain ⟨-, -, folder, -⟩ := walk_to_first_name walked (names.trans more)
            rw [step_eq, if_pos folder, if_neg isName]
            exact ih walked names later

/-- **Where one spelling of a file leads, every other one does too.** -/
theorem locate_of_same {d : Disk} {p q : Path} {place : List String}
    (located : d.locate p = some place) (same : p.same q = true) (file : q.asksFolder = false) :
    d.locate q = some place := by
  simp only [locate] at located
  split at located
  · cases located
  · have start : d.startOf p = d.startOf q := by
      simp only [startOf, Path.isAbsolute_eq_of_same same]
    rw [locate, Path.isEmpty_text file, if_neg Bool.false_ne_true, ← start]
    refine walk_of_filter_eq located (Path.names_eq_of_same same) fun last final => ?_
    simpa [Path.asksFolder, final] using file

/-! ## Disks where everything stands in a folder -/

/-- Relative paths start at a place with proper names, and whatever there is stands in a
folder. -/
structure WellFormed (d : Disk) : Prop where
  here : ∀ name ∈ d.here, IsProper name
  closed : ∀ (place : List String) (name : String), (∀ n ∈ place ++ [name], IsProper n) →
    d.node? (place ++ [name]) ≠ none → d.isFolderAt place = true

theorem proper_startOf {d : Disk} (wf : d.WellFormed) (p : Path) :
    ∀ name ∈ d.startOf p, IsProper name := by
  simp only [startOf]
  split
  · exact fun _ mem => absurd mem List.not_mem_nil
  · exact wf.here

theorem proper_climb {place : List String} {name : String} (above : ∀ n ∈ place, IsProper n)
    (proper : IsProper name) : ∀ n ∈ climb place name, IsProper n := by
  simp only [climb]
  split
  · exact fun n mem => above n ((List.dropLast_sublist _).subset mem)
  · intro n mem
    rcases List.mem_append.1 mem with h | h
    · exact above n h
    · rwa [List.mem_singleton.1 h]

theorem proper_foldl_climb {names : List String} (proper : ∀ name ∈ names, IsProper name)
    {start : List String} (above : ∀ n ∈ start, IsProper n) :
    ∀ n ∈ names.foldl climb start, IsProper n := by
  induction names generalizing start with
  | nil => exact above
  | cons name rest ih =>
      exact ih (fun n mem => proper n (List.mem_cons_of_mem _ mem))
        (proper_climb above (proper name List.mem_cons_self))

theorem proper_destination {d : Disk} (wf : d.WellFormed) (p : Path) :
    ∀ name ∈ d.destination p, IsProper name :=
  proper_foldl_climb
    (fun _ mem => ⟨(Path.mem_names mem).1, (Path.mem_names mem).2.2⟩) (proper_startOf wf p)

/-- Above whatever there is there are folders. -/
theorem isFolderAt_above {d : Disk} (wf : d.WellFormed) {above : List String} :
    ∀ {below : List String}, below ≠ [] → (∀ n ∈ above ++ below, IsProper n) →
      d.node? (above ++ below) ≠ none → d.isFolderAt above = true := by
  intro below
  induction below generalizing above with
  | nil => exact fun ne => absurd rfl ne
  | cons name rest ih =>
      intro _ proper stands
      rw [List.append_cons] at proper stands
      refine wf.closed above name
        (fun n mem => proper n (List.mem_append_left _ mem)) fun missing => ?_
      cases rest with
      | nil => exact stands (by simpa using missing)
      | cons next rest =>
          have folder := ih (by simp) proper stands
          rw [isFolderAt_iff, missing] at folder
          cases folder

/-- A walk that never goes back up gets to a folder. -/
theorem walk_of_isFolderAt {d : Disk} (wf : d.WellFormed) {segs start : List String}
    (level : ".." ∉ segs.filter Path.isName)
    (proper : ∀ n ∈ start ++ segs.filter Path.isName, IsProper n)
    (folder : d.isFolderAt (start ++ segs.filter Path.isName) = true) :
    d.walk start segs = some (start ++ segs.filter Path.isName) := by
  induction segs generalizing start with
  | nil => simp [walk]
  | cons seg rest ih =>
      have here : d.isFolderAt start = true := by
        by_cases stays : (seg :: rest).filter Path.isName = []
        · simpa [stays] using folder
        · exact isFolderAt_above wf stays proper
            (by rw [isFolderAt_iff.1 folder]; simp)
      rw [walk_cons, step_eq, if_pos here, Option.bind_some]
      by_cases name : Path.isName seg = true
      · simp only [List.filter_cons_of_pos name] at level proper folder ⊢
        have notUp : seg ≠ ".." := fun same => level (same ▸ List.mem_cons_self)
        have next := @ih (start ++ [seg]) (fun mem => level (List.mem_cons_of_mem _ mem))
          (by simpa using proper) (by simpa using folder)
        simpa [climb, name, notUp] using next
      · simp only [List.filter_cons_of_neg name] at level proper folder ⊢
        simpa [name] using ih level proper folder

/-- A walk that ends without a name ends in a folder. -/
theorem isFolderAt_of_walk {d : Disk} {start place : List String} {front : List String}
    {last : String} (silent : Path.isName last = false)
    (walked : d.walk start (front ++ [last]) = some place) : d.isFolderAt place = true := by
  rw [walk_append] at walked
  obtain ⟨before, -, final⟩ := Option.bind_eq_some_iff.1 walked
  rw [walk_cons, step_eq] at final
  by_cases folder : d.isFolderAt before = true
  · rw [if_pos folder, silent] at final
    cases Option.some.inj final
    exact folder
  · simp [folder] at final

/-- A walk that never goes back up gets to whatever stands at its last name. -/
theorem walk_of_node? {d : Disk} (wf : d.WellFormed) {front start : List String}
    {last : String} (name : Path.isName last = true)
    (level : ".." ∉ (front ++ [last]).filter Path.isName)
    (proper : ∀ n ∈ start ++ (front ++ [last]).filter Path.isName, IsProper n)
    (stands : d.node? (start ++ (front ++ [last]).filter Path.isName) ≠ none) :
    d.walk start (front ++ [last]) = some (start ++ (front ++ [last]).filter Path.isName) := by
  simp only [List.filter_append, List.filter_cons_of_pos name, List.filter_nil,
    ← List.append_assoc] at level proper stands ⊢
  have notUp : last ≠ ".." := fun same => level (by simp [same])
  have folder := isFolderAt_above wf (by simp) proper stands
  have walked := walk_of_isFolderAt wf (fun mem => level (List.mem_append_left _ mem))
    (fun n mem => proper n (List.mem_append_left _ mem)) folder
  rw [walk_append, walked, Option.bind_some, walk_cons, step_eq, if_pos folder]
  simp [climb, name, notUp, walk]

theorem exists_last_segment (p : Path) : ∃ front last,
    p.segments.map String.ofList = front ++ [last] ∧ p.asksFolder = !Path.isName last := by
  have ne : p.segments.map String.ofList ≠ [] := by simp [p.segments_ne_nil]
  refine ⟨_, _, (List.dropLast_concat_getLast ne).symm, ?_⟩
  simp only [Path.asksFolder, List.getLast?_eq_some_getLast ne, Option.getD_some]

/-- What a walk that never goes back up gets to: one that ends without a name gets to a
folder or to nothing. -/
theorem walk_bind_node? {d : Disk} (wf : d.WellFormed) {front start : List String}
    {last : String} (level : ".." ∉ (front ++ [last]).filter Path.isName)
    (proper : ∀ n ∈ start ++ (front ++ [last]).filter Path.isName, IsProper n) :
    (d.walk start (front ++ [last])).bind d.node? =
      if Path.isName last then d.node? (start ++ (front ++ [last]).filter Path.isName)
      else if d.isFolderAt (start ++ (front ++ [last]).filter Path.isName) then some .folder
      else none := by
  cases name : Path.isName last with
  | false =>
      rw [if_neg Bool.false_ne_true]
      by_cases folder : d.isFolderAt (start ++ (front ++ [last]).filter Path.isName) = true
      · rw [walk_of_isFolderAt wf level proper folder, if_pos folder]
        exact isFolderAt_iff.1 folder
      · rw [if_neg folder]
        cases walked : d.walk start (front ++ [last]) with
        | none => rfl
        | some place =>
            have ends := isFolderAt_of_walk name walked
            rw [eq_of_walk walked, foldl_climb_of_level level] at ends
            exact absurd ends folder
  | true =>
      rw [if_pos rfl]
      by_cases stands : d.node? (start ++ (front ++ [last]).filter Path.isName) = none
      · rw [stands]
        cases walked : d.walk start (front ++ [last]) with
        | none => rfl
        | some place =>
            rw [Option.bind_some, eq_of_walk walked, foldl_climb_of_level level, stands]
      · rw [walk_of_node? wf name level proper stands, Option.bind_some]

/-! ## Paths that go back up -/

/-- Every folder that the path goes back up from is there. -/
def Anchored (d : Disk) (p : Path) : Prop :=
  ∃ front back, p.segments.map String.ofList = front ++ back ∧ ".." ∉ back ∧
    d.walk (d.startOf p) front ≠ none

/-- A path that never goes back up needs nothing to be there. -/
theorem anchored_of_level (d : Disk) {p : Path} (level : p.climbs = false) : d.Anchored p := by
  refine ⟨[], p.segments.map String.ofList, rfl, fun mem => ?_, by simp [walk]⟩
  exact Path.not_mem_names_of_not_climbs level (List.mem_filter.2 ⟨mem, by decide⟩)

/-- **What a path leads to whose way back up is there.**  One that asks for a folder leads to
a folder or to nothing. -/
theorem lookup_of_anchored {d : Disk} (wf : d.WellFormed) {p : Path} (anchored : d.Anchored p) :
    d.lookup p =
      if p.text.isEmpty then none
      else if p.asksFolder then
        if d.isFolderAt (d.destination p) then some .folder else none
      else d.node? (d.destination p) := by
  simp only [lookup, locate]
  by_cases empty : p.text.isEmpty = true
  · simp [empty]
  rw [if_neg empty, if_neg empty]
  obtain ⟨front, back, split, notUp, there⟩ := anchored
  obtain ⟨place, walked⟩ := Option.ne_none_iff_exists'.1 there
  have level : ".." ∉ back.filter Path.isName := fun mem => notUp (List.mem_filter.1 mem).1
  have leads : d.destination p = place ++ back.filter Path.isName := by
    have names : p.names = front.filter Path.isName ++ back.filter Path.isName := by
      rw [Path.names, split, List.filter_append]
    rw [destination, names, List.foldl_append, ← eq_of_walk walked, foldl_climb_of_level level]
  have proper := proper_destination wf p
  obtain ⟨init, last, ends, asks⟩ := exists_last_segment p
  rw [leads] at proper
  rw [asks, leads, split]
  by_cases none : back = []
  · subst none
    rw [List.append_nil] at split
    rw [List.append_nil, walked, Option.bind_some, List.filter_nil, List.append_nil]
    cases name : Path.isName last with
    | false =>
        have folder := isFolderAt_of_walk name (by rw [← ends, split]; exact walked)
        simpa [folder] using isFolderAt_iff.1 folder
    | true => simp
  · obtain ⟨front', last', rfl⟩ : ∃ front' last', back = front' ++ [last'] :=
      ⟨_, _, (List.dropLast_concat_getLast none).symm⟩
    have same : last' = last := by
      rw [ends, ← List.append_assoc] at split
      exact (List.singleton_inj.1 (List.append_inj' split rfl).2).symm
    rw [walk_append, walked, Option.bind_some, walk_bind_node? wf level proper, same]
    cases Path.isName last <;> rfl

theorem exists?_of_anchored {d : Disk} (wf : d.WellFormed) {p : Path} (anchored : d.Anchored p) :
    d.exists? p = (!p.text.isEmpty &&
      if p.asksFolder then d.isFolderAt (d.destination p)
      else (d.node? (d.destination p)).isSome) := by
  rw [exists?, lookup_of_anchored wf anchored]
  cases p.text.isEmpty with
  | true => rfl
  | false =>
      cases p.asksFolder with
      | true =>
          by_cases folder : d.isFolderAt (d.destination p) = true
          · simp [folder]
          · simp [folder]
      | false => simp

/-- The contents of a file at a place. -/
def contentsAt (d : Disk) (place : List String) : Option Contents :=
  match d.node? place with
  | some (.file contents) => some contents
  | _ => none

theorem read_of_anchored {d : Disk} (wf : d.WellFormed) {p : Path} (anchored : d.Anchored p) :
    d.read p = if p.text.isEmpty || p.asksFolder then none
      else d.contentsAt (d.destination p) := by
  rw [read, lookup_of_anchored wf anchored]
  cases p.text.isEmpty with
  | true => rfl
  | false =>
      cases p.asksFolder with
      | true =>
          by_cases folder : d.isFolderAt (d.destination p) = true
          · simp [folder]
          · simp [folder]
      | false => rfl

end Disk

end ApiForge
