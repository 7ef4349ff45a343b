import ApiForge.Path
/-
# ApiForge.Proofs.Path -- the names that a path goes through

A path goes through its segments one by one, and the empty ones and `.` lead nowhere.  What
is left are its names (`Path.names`).  Spellings of the same components go through the same
names (`names_eq_of_same`), and the path to a file without its last component goes through
all names but the last (`names_of_parent`).
-/

namespace ApiForge

set_option autoImplicit false

open ApiForge.Text

/-! ## Cutting and joining -/

namespace Text

theorem not_sep_of_mem_splitAt {sep : Char → Bool} {s piece : List Char}
    (mem : piece ∈ splitAt sep s) {c : Char} (inPiece : c ∈ piece) : sep c = false := by
  induction s generalizing piece with
  | nil => simp_all [splitAt]
  | cons d rest ih =>
      simp only [splitAt] at mem
      split at mem
      · rcases List.mem_cons.1 mem with rfl | later
        · cases inPiece
        · exact ih later inPiece
      · rename_i notSep
        split at mem
        · simp_all
        · rename_i head tail split
          rcases List.mem_cons.1 mem with rfl | later
          · rcases List.mem_cons.1 inPiece with rfl | inHead
            · simpa using notSep
            · exact ih (split ▸ List.mem_cons_self) inHead
          · exact ih (split ▸ List.mem_cons_of_mem _ later) inPiece

theorem mem_of_mem_splitAt {sep : Char → Bool} {s piece : List Char}
    (mem : piece ∈ splitAt sep s) {c : Char} (inPiece : c ∈ piece) : c ∈ s := by
  induction s generalizing piece with
  | nil => simp_all [splitAt]
  | cons d rest ih =>
      simp only [splitAt] at mem
      split at mem
      · rcases List.mem_cons.1 mem with rfl | later
        · cases inPiece
        · exact List.mem_cons_of_mem _ (ih later inPiece)
      · split at mem
        · simp_all
        · rename_i head tail split
          rcases List.mem_cons.1 mem with rfl | later
          · rcases List.mem_cons.1 inPiece with rfl | inHead
            · exact List.mem_cons_self
            · exact List.mem_cons_of_mem _ (ih (split ▸ List.mem_cons_self) inHead)
          · exact List.mem_cons_of_mem _ (ih (split ▸ List.mem_cons_of_mem _ later) inPiece)

theorem splitAt_append_sep {sep : Char → Bool} {c : Char} (isSep : sep c = true)
    (piece rest : List Char) (clean : ∀ d ∈ piece, sep d = false) :
    splitAt sep (piece ++ c :: rest) = piece :: splitAt sep rest := by
  induction piece with
  | nil => simp [splitAt, isSep]
  | cons d piece ih =>
      have tail := ih fun x mem => clean x (List.mem_cons_of_mem _ mem)
      simp [splitAt, clean d List.mem_cons_self, tail]

theorem splitAt_of_clean {sep : Char → Bool} (piece : List Char)
    (clean : ∀ d ∈ piece, sep d = false) : splitAt sep piece = [piece] := by
  induction piece with
  | nil => rfl
  | cons d piece ih =>
      have tail := ih fun x mem => clean x (List.mem_cons_of_mem _ mem)
      simp [splitAt, clean d List.mem_cons_self, tail]

/-- The first piece starts as the text does. -/
theorem splitAt_cons_of_not_sep {sep : Char → Bool} {c : Char} (kept : sep c = false)
    (rest : List Char) : ∃ piece pieces, splitAt sep (c :: rest) = (c :: piece) :: pieces := by
  simp only [splitAt, kept, Bool.false_eq_true, if_false]
  split
  · exact ⟨_, _, rfl⟩
  · exact ⟨_, _, rfl⟩

theorem splitAt_append {sep : Char → Bool} {c : Char} (isSep : sep c = true)
    (front back : List Char) :
    splitAt sep (front ++ c :: back) = splitAt sep front ++ splitAt sep back := by
  induction front with
  | nil => simp [splitAt, isSep]
  | cons d front ih =>
      obtain ⟨head, tail, cut⟩ := List.exists_cons_of_ne_nil (splitAt_ne_nil sep front)
      by_cases isSepD : sep d = true
      · simp [splitAt, isSepD, ih]
      · simp [splitAt, isSepD, ih, cut]

/-- Pieces that hold no separator come out of their text again. -/
theorem splitAt_joinWith {sep : Char → Bool} {c : Char} (isSep : sep c = true)
    (pieces : List (List Char)) (nonempty : pieces ≠ [])
    (clean : ∀ piece ∈ pieces, ∀ d ∈ piece, sep d = false) :
    splitAt sep (joinWith [c] pieces) = pieces := by
  induction pieces with
  | nil => exact absurd rfl nonempty
  | cons piece rest ih =>
      have head := clean piece List.mem_cons_self
      cases rest with
      | nil => simpa [joinWith] using splitAt_of_clean piece head
      | cons next rest =>
          have tail := ih (by simp) fun x mem => clean x (List.mem_cons_of_mem _ mem)
          have unfolded : joinWith [c] (piece :: next :: rest)
              = piece ++ c :: joinWith [c] (next :: rest) := by simp [joinWith]
          rw [unfolded, splitAt_append_sep isSep piece _ head, tail]

/-- Texts without the separator come out of the text that they are joined to. -/
theorem splitAt_joinStrings {sep : String} {c : Char} (one : sep.toList = [c])
    {pieces : List String} (nonempty : pieces ≠ [])
    (whole : ∀ piece ∈ pieces, c ∉ piece.toList) :
    splitAt (· = c) (joinStrings sep pieces).toList = pieces.map String.toList := by
  rw [joinStrings, String.toList_ofList, one]
  refine splitAt_joinWith (decide_eq_true rfl) _ (by simpa using nonempty) ?_
  intro piece mem d inPiece
  obtain ⟨s, inPieces, rfl⟩ := List.mem_map.1 mem
  exact decide_eq_false fun same => whole s inPieces (same ▸ inPiece)

theorem afterHead?_eq_some_iff {head s rest : List Char} :
    afterHead? head s = some rest ↔ s = head ++ rest := by
  induction head generalizing s with
  | nil => simp [afterHead?]
  | cons h hs ih =>
      cases s with
      | nil => simp [afterHead?]
      | cons c cs =>
          simp only [afterHead?, List.cons_append, List.cons.injEq]
          split
          · rename_i same
            rw [ih, eq_comm (a := c), and_iff_right same]
          · rename_i apart
            exact iff_of_false (by simp) fun both => apart both.1.symm

theorem stripHead?_eq_some_iff {s head rest : String} :
    stripHead? s head = some rest ↔ s = head ++ rest := by
  rw [stripHead?, Option.map_eq_some_iff, ← String.toList_inj, String.toList_append]
  constructor
  · rintro ⟨letters, found, rfl⟩
    rw [afterHead?_eq_some_iff.1 found, String.toList_ofList]
  · exact fun whole => ⟨rest.toList, afterHead?_eq_some_iff.2 whole, String.ofList_toList⟩

theorem stripHead?_eq_none_iff {s head : String} :
    stripHead? s head = none ↔ ∀ rest, s ≠ head ++ rest := by
  rw [Option.eq_none_iff_forall_ne_some]
  exact forall_congr' fun rest => not_congr stripHead?_eq_some_iff

end Text

namespace Path

/-! ## Segments and names -/

/-- Is the text of a segment a name, so that it leads to something below? -/
def isName (seg : String) : Bool := seg ≠ "" && seg ≠ "."

/-- The names that a path goes through, `..` among them. -/
def names (p : Path) : List String := (p.segments.map String.ofList).filter isName

/-- Does the path go back up somewhere? -/
def climbs (p : Path) : Bool := p.segments.contains ['.', '.']

/-- Does the path end the way the path of a folder may: with a slash, with `.`, or with
nothing at all? -/
def asksFolder (p : Path) : Bool :=
  !isName ((p.segments.map String.ofList).getLast?.getD "")

theorem segments_ne_nil (p : Path) : p.segments ≠ [] := splitAt_ne_nil _ _

theorem slash_not_mem {p : Path} {seg : List Char} (mem : seg ∈ p.segments) : '/' ∉ seg := by
  intro inside
  simpa using not_sep_of_mem_splitAt mem inside

theorem isName_ofList (seg : List Char) :
    isName (String.ofList seg) = true ↔ seg ≠ [] ∧ seg ≠ ['.'] := by
  simp [isName, ← String.toList_inj]

theorem mem_names {p : Path} {name : String} (mem : name ∈ p.names) :
    name ≠ "" ∧ name ≠ "." ∧ '/' ∉ name.toList := by
  obtain ⟨inSegments, isName⟩ := List.mem_filter.1 mem
  obtain ⟨seg, inPath, rfl⟩ := List.mem_map.1 inSegments
  simp only [Path.isName, Bool.and_eq_true, decide_eq_true_eq] at isName
  exact ⟨isName.1, isName.2, by simpa using slash_not_mem inPath⟩

theorem climbs_iff {p : Path} : p.climbs = true ↔ ".." ∈ p.names := by
  have up : String.ofList ['.', '.'] = ".." := rfl
  simp only [climbs, names, List.contains_iff_mem, List.mem_filter, List.mem_map]
  constructor
  · exact fun mem => ⟨⟨_, mem, up⟩, by decide⟩
  · rintro ⟨⟨seg, mem, same⟩, -⟩
    rw [← up, String.ofList_inj] at same
    exact same ▸ mem

theorem not_mem_names_of_not_climbs {p : Path} (level : p.climbs = false) : ".." ∉ p.names :=
  fun mem => by rw [climbs_iff.2 mem] at level; cases level

theorem isAbsolute_iff (p : Path) :
    p.isAbsolute = true ↔ ∃ seg rest, p.segments = [] :: seg :: rest := by
  simp only [isAbsolute, segments, decide_eq_true_eq]
  cases p.text.toList with
  | nil => simp [splitAt]
  | cons c rest =>
      by_cases slash : c = '/'
      · subst slash
        obtain ⟨head, tail, split⟩ := List.exists_cons_of_ne_nil (splitAt_ne_nil (· = '/') rest)
        simp [splitAt, split]
      · obtain ⟨head, tail, split⟩ := List.exists_cons_of_ne_nil (splitAt_ne_nil (· = '/') rest)
        simp [splitAt, slash, split]

/-- What is joined to a path comes behind its names. -/
theorem names_join (p : Path) {child : String} (relative : child.toList.head? ≠ some '/') :
    (p.join child).names = p.names ++ (Path.mk child).names := by
  have cut (front back : List Char) :
      ((splitAt (· = '/') (front ++ '/' :: back)).map String.ofList).filter isName
        = ((splitAt (· = '/') front).map String.ofList).filter isName
          ++ ((splitAt (· = '/') back).map String.ofList).filter isName := by
    rw [splitAt_append (by simp), List.map_append, List.filter_append]
  simp only [join, if_neg relative]
  by_cases empty : p.text.isEmpty = true
  · have blank : p.text = "" := String.isEmpty_iff.1 empty
    have none : p.names = [] := by
      rw [show p = ⟨""⟩ from congrArg Path.mk blank]
      decide
    simp [blank, none]
  by_cases slash : p.text.toList.getLast? = some '/'
  · obtain ⟨front, ends⟩ := List.getLast?_eq_some_iff.1 slash
    have own := cut front []
    have whole := cut front child.toList
    have ownNames : p.names = ((splitAt (· = '/') front).map String.ofList).filter isName := by
      rw [names, segments, ends, own]
      simp [splitAt, isName]
    rw [if_pos (by simp [slash]), ownNames, names, segments, String.toList_append, ends,
      List.append_assoc, List.singleton_append, whole]
    rfl
  · rw [if_neg (by simp [empty, slash]), names, segments, String.toList_append,
      String.toList_append, List.append_assoc]
    exact cut p.text.toList child.toList

/-! ## Components -/

theorem ofList_counts_isName {absolute : Bool} {i : Nat} {seg : List Char} (later : 0 < i) :
    counts absolute i seg = isName (String.ofList seg) := by
  rw [Bool.eq_iff_iff, isName_ofList]
  have notFirst : i ≠ 0 := by omega
  simp [counts, notFirst]

theorem zipIdx_filter_isName (absolute : Bool) (segs : List (List Char)) (i : Nat) :
    ((segs.zipIdx i).filter fun s => counts absolute s.2 s.1).filter
        (fun s => isName (String.ofList s.1))
      = (segs.zipIdx i).filter fun s => isName (String.ofList s.1) := by
  rw [List.filter_filter]
  apply List.filter_congr
  intro s _
  by_cases h : isName (String.ofList s.1) = true
  · have := (isName_ofList _).1 h
    simp [h, counts, this.1, this.2]
  · simp [h]

theorem map_fst_zipIdx_filter (keep : List Char → Bool) (segs : List (List Char)) (i : Nat) :
    ((segs.zipIdx i).filter fun s => keep s.1).map Prod.fst = segs.filter keep := by
  induction segs generalizing i with
  | nil => rfl
  | cons seg rest ih =>
      rw [List.zipIdx_cons]
      by_cases h : keep seg = true
      · simp [h, ih]
      · simp [h, ih]

/-- The names of a path are its components without the `.` at the front. -/
theorem names_eq_components (p : Path) : p.names = p.components.2.filter isName := by
  have kept := zipIdx_filter_isName p.isAbsolute p.segments 0
  have plain := map_fst_zipIdx_filter (fun seg => isName (String.ofList seg)) p.segments 0
  rw [← kept] at plain
  simp only [names, components, componentPlaces, List.map_map, List.filter_map]
  rw [show (isName ∘ String.ofList) = fun seg => isName (String.ofList seg) from rfl, ← plain]
  simp [List.map_map, Function.comp_def]

theorem same_iff {p q : Path} : p.same q = true ↔ p.components = q.components := by
  simp [same]

/-- **Spellings of the same components go through the same names.** -/
theorem names_eq_of_same {p q : Path} (same : p.same q = true) : p.names = q.names := by
  rw [names_eq_components, names_eq_components, same_iff.1 same]

theorem isAbsolute_eq_of_same {p q : Path} (same : p.same q = true) :
    p.isAbsolute = q.isAbsolute :=
  congrArg Prod.fst (same_iff.1 same)

@[simp] theorem same_self (p : Path) : p.same p = true := same_iff.2 rfl

theorem same_comm {p q : Path} (same : p.same q = true) : q.same p = true :=
  same_iff.2 (same_iff.1 same).symm

theorem same_trans {p q r : Path} (first : p.same q = true) (second : q.same r = true) :
    p.same r = true :=
  same_iff.2 ((same_iff.1 first).trans (same_iff.1 second))

/-! ## One name more -/

/-- May the text be a name that is joined to a path? -/
def IsLeaf (name : String) : Prop := isName name = true ∧ '/' ∉ name.toList

theorem IsLeaf.relative {name : String} (leaf : IsLeaf name) : name.toList.head? ≠ some '/' :=
  fun slash => leaf.2 (List.mem_of_mem_head? slash)

theorem segments_of_plain {name : String} (plain : '/' ∉ name.toList) :
    (Path.mk name).segments = [name.toList] :=
  splitAt_of_clean _ fun c mem => by
    have ne : c ≠ '/' := fun same => plain (same ▸ mem)
    simpa using ne

/-- What is joined to a path comes behind its segments, or in place of the empty one that they
end in.  Nothing else is left of a path only where it has no text at all. -/
theorem segments_join_relative (p : Path) {child : String}
    (relative : child.toList.head? ≠ some '/') :
    ∃ front blank, p.segments = front ++ blank ∧
      (p.join child).segments = front ++ (Path.mk child).segments ∧
      (blank = [] ∨ blank = [[]]) ∧ (front = [] ↔ p.text = "") := by
  simp only [join, if_neg relative]
  by_cases empty : p.text.isEmpty = true
  · have blank : p.text = "" := String.isEmpty_iff.1 empty
    refine ⟨[], [[]], ?_, ?_, .inr rfl, iff_of_true rfl blank⟩
    · simp [segments, blank, splitAt]
    · simp [segments, blank]
  have text : p.text ≠ "" := fun blank => empty (String.isEmpty_iff.2 blank)
  by_cases slash : p.text.toList.getLast? = some '/'
  · obtain ⟨front, ends⟩ := List.getLast?_eq_some_iff.1 slash
    refine ⟨splitAt (· = '/') front, [[]], ?_, ?_, .inr rfl,
      iff_of_false (splitAt_ne_nil _ _) text⟩
    · rw [segments, ends, splitAt_append (by simp)]
      rfl
    · rw [if_pos (by simp [slash]), segments, String.toList_append, ends, List.append_assoc,
        List.singleton_append, splitAt_append (by simp), segments]
  · refine ⟨p.segments, [], (List.append_nil _).symm, ?_, .inl rfl,
      iff_of_false p.segments_ne_nil text⟩
    rw [if_neg (by simp [empty, slash]), segments, String.toList_append, String.toList_append,
      List.append_assoc]
    exact splitAt_append (c := '/') (decide_eq_true rfl) p.text.toList child.toList

/-- A name that is joined to a path comes behind its segments, or in place of the empty one
that they end in. -/
theorem segments_join (p : Path) {name : String} (plain : '/' ∉ name.toList) :
    ∃ front blank, p.segments = front ++ blank ∧
      (p.join name).segments = front ++ [name.toList] ∧ (blank = [] ∨ blank = [[]]) := by
  obtain ⟨front, blank, own, joined, silent, -⟩ :=
    segments_join_relative p fun slash => plain (List.mem_of_mem_head? slash)
  exact ⟨front, blank, own, segments_of_plain plain ▸ joined, silent⟩

theorem isAbsolute_join (p : Path) {name : String} (relative : name.toList.head? ≠ some '/') :
    (p.join name).isAbsolute = p.isAbsolute := by
  simp only [join, if_neg relative]
  by_cases empty : p.text.isEmpty = true
  · have blank : p.text = "" := String.isEmpty_iff.1 empty
    simp [isAbsolute, blank, relative]
  · obtain ⟨c, rest, chars⟩ : ∃ c rest, p.text.toList = c :: rest :=
      List.exists_cons_of_ne_nil fun none =>
        empty (String.isEmpty_iff.2 (String.toList_eq_nil_iff.1 none))
    split <;> simp [isAbsolute, chars]

/-- **A name that is joined to a path is its last component.** -/
theorem components_join (p : Path) {name : String} (leaf : IsLeaf name) :
    (p.join name).components = (p.isAbsolute, p.components.2 ++ [name]) := by
  obtain ⟨front, blank, own, joined, silent⟩ := segments_join p leaf.2
  have kept : ([name.toList].zipIdx (0 + front.length)).filter
      (fun s => counts p.isAbsolute s.2 s.1) = [(name.toList, 0 + front.length)] := by
    have proper := (isName_ofList name.toList).1 (by rw [String.ofList_toList]; exact leaf.1)
    simp [counts, proper.1, proper.2]
  have dropped : (blank.zipIdx (0 + front.length)).filter
      (fun s => counts p.isAbsolute s.2 s.1) = [] := by
    rcases silent with rfl | rfl
    · rfl
    · simp [counts]
  simp only [components, componentPlaces, isAbsolute_join p leaf.relative, own, joined,
    List.zipIdx_append, List.filter_append, dropped, kept, List.append_nil]
  simp

/-- **What is joined to two paths comes to the same place only if the paths are the same and
so are the names.** -/
theorem same_join_iff {p q : Path} {name name' : String} (leaf : IsLeaf name)
    (leaf' : IsLeaf name') :
    (p.join name).same (q.join name') = true ↔ p.same q = true ∧ name = name' := by
  rw [same_iff, same_iff, components_join p leaf, components_join q leaf', Prod.mk.injEq,
    Prod.ext_iff]
  constructor
  · rintro ⟨absolute, rest⟩
    obtain ⟨front, last⟩ := List.append_inj' rest rfl
    exact ⟨⟨absolute, front⟩, List.singleton_inj.1 last⟩
  · rintro ⟨⟨absolute, front⟩, rfl⟩
    exact ⟨absolute, by rw [front]⟩

theorem asksFolder_join_of_plain (p : Path) {name : String} (plain : '/' ∉ name.toList) :
    (p.join name).asksFolder = !isName name := by
  obtain ⟨front, blank, -, joined, -⟩ := segments_join p plain
  simp [asksFolder, joined]

theorem asksFolder_join (p : Path) {name : String} (leaf : IsLeaf name) :
    (p.join name).asksFolder = false := by
  rw [asksFolder_join_of_plain p leaf.2, leaf.1]
  rfl

/-! ## The folder that a path leads through last -/

theorem segments_upTo (p : Path) (i : Nat) : (p.upTo i).segments = p.segments.take (i + 1) := by
  have nonempty : p.segments.take (i + 1) ≠ [] := by
    simp [List.take_eq_nil_iff, p.segments_ne_nil]
  simp only [upTo, segments, String.toList_ofList] at nonempty ⊢
  refine splitAt_joinWith (by simp) _ nonempty fun piece mem d inPiece => ?_
  exact not_sep_of_mem_splitAt (List.mem_of_mem_take mem) inPiece

/-- The segments that count, each with its place, in the order of the places. -/
theorem zipIdx_pairwise (segs : List (List Char)) (i : Nat) :
    (segs.zipIdx i).Pairwise fun a b => a.2 < b.2 := by
  induction segs generalizing i with
  | nil => simp
  | cons seg rest ih =>
      rw [List.zipIdx_cons]
      refine List.pairwise_cons.2 ⟨fun s mem => ?_, ih _⟩
      have := List.le_snd_of_mem_zipIdx mem
      simp only
      omega

/-- What counts behind place `i`, where the component behind it is the last one. -/
theorem counted_behind {p : Path} {i : Nat} {seg : List Char} {last : Nat × List Char}
    {more : List (Nat × List Char)}
    (counted : p.componentPlaces.reverse = last :: (i, seg) :: more) :
    ((p.segments.drop (i + 1)).zipIdx (i + 1)).filter (fun s => counts p.isAbsolute s.2 s.1)
      = [(last.2, last.1)] := by
  have places : (p.segments.zipIdx.filter fun s => counts p.isAbsolute s.2 s.1)
      = (more.reverse ++ [(i, seg), last]).map fun c => (c.2, c.1) := by
    have turned : p.componentPlaces = more.reverse ++ [(i, seg), last] := by
      rw [← List.reverse_reverse p.componentPlaces, counted]
      simp
    rw [← turned, componentPlaces, List.map_map]
    simp [Function.comp_def]
  have inside : i < p.segments.length := by
    have mem : (seg, i) ∈ p.segments.zipIdx := by
      have : (seg, i) ∈ p.segments.zipIdx.filter fun s => counts p.isAbsolute s.2 s.1 := by
        rw [places]; simp
      exact (List.mem_filter.1 this).1
    simpa using List.snd_lt_of_mem_zipIdx mem
  have cut : p.segments.zipIdx
      = (p.segments.take (i + 1)).zipIdx ++ (p.segments.drop (i + 1)).zipIdx (i + 1) := by
    have enough : (p.segments.take (i + 1)).length = i + 1 := by
      rw [List.length_take]; omega
    have whole : (p.segments.take (i + 1) ++ p.segments.drop (i + 1)).zipIdx
        = (p.segments.take (i + 1)).zipIdx ++
          (p.segments.drop (i + 1)).zipIdx (0 + (p.segments.take (i + 1)).length) :=
      List.zipIdx_append
    rw [List.take_append_drop, enough, Nat.zero_add] at whole
    exact whole
  have increasing : ((more.reverse ++ [(i, seg), last]).map fun c => (c.2, c.1)).Pairwise
      fun a b => a.2 < b.2 := by
    rw [← places]
    exact List.Pairwise.filter _ (zipIdx_pairwise _ _)
  -- behind place `i` the whole list and its second part hold the same
  have behind : ((p.segments.zipIdx.filter fun s => counts p.isAbsolute s.2 s.1).filter
      fun s => i < s.2)
      = ((p.segments.drop (i + 1)).zipIdx (i + 1)).filter
          fun s => counts p.isAbsolute s.2 s.1 := by
    rw [cut, List.filter_append, List.filter_append]
    have front : ((p.segments.take (i + 1)).zipIdx.filter
        fun s => counts p.isAbsolute s.2 s.1).filter (fun s => i < s.2) = [] := by
      refine List.filter_eq_nil_iff.2 fun s mem => ?_
      have := List.snd_lt_of_mem_zipIdx (List.mem_filter.1 mem).1
      have : (p.segments.take (i + 1)).length ≤ i + 1 := List.length_take_le _ _
      simp only [decide_eq_true_eq]
      omega
    rw [front, List.nil_append, List.filter_eq_self]
    intro s mem
    have := List.le_snd_of_mem_zipIdx (List.mem_filter.1 mem).1
    simp only [decide_eq_true_eq]
    omega
  rw [← behind, places]
  simp only [List.map_append, List.pairwise_append, List.map_reverse, List.map_cons,
    List.map_nil, List.pairwise_cons, List.mem_cons, List.not_mem_nil, or_false] at increasing
  obtain ⟨-, ⟨order, -⟩, before⟩ := increasing
  have afterLast : i < last.1 := by simpa using order _ rfl
  have none : ((more.reverse.map fun c : Nat × List Char => (c.2, c.1)).filter
      fun s => i < s.2) = [] := by
    refine List.filter_eq_nil_iff.2 fun s mem => ?_
    have := before s (by simpa using mem) (seg, i) (Or.inl rfl)
    simp only [decide_eq_true_eq]
    simp only at this
    omega
  rw [List.map_append, List.filter_append, none]
  simp [afterLast]

/-- The three things that the folder of a path has from the path. -/
structure IsFolderOf (q p : Path) : Prop where
  names : q.names = p.names.dropLast
  absolute : q.isAbsolute = p.isAbsolute
  level : p.climbs = false → q.climbs = false

theorem isFolderOf_upTo {p : Path} {i : Nat} {seg : List Char} {last : Nat × List Char}
    {more : List (Nat × List Char)}
    (counted : p.componentPlaces.reverse = last :: (i, seg) :: more) :
    (p.upTo i).IsFolderOf p := by
  have behind := counted_behind counted
  have names : p.names = (p.upTo i).names ++ [String.ofList last.2] := by
    have tail : ((p.segments.drop (i + 1)).filter fun s => isName (String.ofList s))
        = [last.2] := by
      rw [← map_fst_zipIdx_filter (fun s => isName (String.ofList s)) _ (i + 1)]
      have same : (((p.segments.drop (i + 1)).zipIdx (i + 1)).filter
          fun s => isName (String.ofList s.1))
          = ((p.segments.drop (i + 1)).zipIdx (i + 1)).filter
              fun s => counts p.isAbsolute s.2 s.1 := by
        refine List.filter_congr fun s mem => ?_
        have := List.le_snd_of_mem_zipIdx mem
        exact (ofList_counts_isName (by omega)).symm
      rw [same, behind]
      rfl
    have whole : p.names = ((p.segments.take (i + 1) ++ p.segments.drop (i + 1)).map
        String.ofList).filter isName := by
      rw [List.take_append_drop, Path.names]
    have second : ((p.segments.drop (i + 1)).map String.ofList).filter isName
        = [String.ofList last.2] := by
      rw [List.filter_map]
      exact congrArg (List.map String.ofList) tail
    rw [whole, List.map_append, List.filter_append, second, Path.names, segments_upTo]
  refine ⟨by simp [names], ?_, fun level => ?_⟩
  · rw [Bool.eq_iff_iff, isAbsolute_iff, isAbsolute_iff, segments_upTo]
    constructor
    · rintro ⟨next, rest, front⟩
      have whole := List.take_append_drop (i + 1) p.segments
      rw [front] at whole
      exact ⟨next, rest ++ p.segments.drop (i + 1), whole.symm⟩
    · rintro ⟨next, rest, whole⟩
      have positive : i ≠ 0 := by
        rintro rfl
        have mem : ((0, seg) : Nat × List Char) ∈ p.componentPlaces := by
          rw [← List.mem_reverse, counted]; simp
        obtain ⟨s, inCounted, same⟩ := List.mem_map.1 mem
        obtain ⟨inSegments, isCounted⟩ := List.mem_filter.1 inCounted
        have first : s.2 = 0 := congrArg Prod.fst same
        rw [whole, List.zipIdx_cons] at inSegments
        rcases List.mem_cons.1 inSegments with h | later
        · simp [h, counts] at isCounted
        · have := List.le_snd_of_mem_zipIdx later
          omega
      obtain ⟨j, rfl⟩ := Nat.exists_eq_succ_of_ne_zero positive
      exact ⟨next, rest.take j, by rw [whole]; rfl⟩
  · have notIn := level
    simp only [climbs, segments_upTo, List.contains_eq_mem, decide_eq_false_iff_not] at notIn ⊢
    exact fun mem => notIn (List.mem_of_mem_take mem)

/-- The folder of a path goes through all names of the path but the last. -/
theorem isFolderOf_parent {p q : Path} (parent : p.parent? = some q) : q.IsFolderOf p := by
  simp only [parent?] at parent
  split at parent
  · cases parent
  · rename_i only counted
    have alone : p.componentPlaces = [only] := by
      rw [← List.reverse_reverse p.componentPlaces, counted]; rfl
    have names : p.names.dropLast = [] := by
      rw [names_eq_components, components, alone]
      by_cases h : isName (String.ofList only.2) = true <;> simp [h]
    by_cases absolute : p.isAbsolute = true
    · rw [if_pos absolute] at parent
      cases parent
      exact ⟨names ▸ by decide, by rw [absolute]; decide, fun _ => by decide⟩
    · rw [if_neg absolute] at parent
      cases parent
      simp only [Bool.not_eq_true] at absolute
      exact ⟨names ▸ by decide, by rw [absolute]; decide, fun _ => by decide⟩
  · rename_i counted
    cases parent
    exact isFolderOf_upTo counted

theorem isEmpty_text {p : Path} (file : p.asksFolder = false) : p.text.isEmpty = false := by
  cases empty : p.text.isEmpty with
  | false => rfl
  | true =>
      have blank : p = ⟨""⟩ := congrArg Path.mk (String.isEmpty_iff.1 empty)
      rw [blank] at file
      cases file

/-- A path that does not ask for a folder ends in a name. -/
theorem names_ne_nil {p : Path} (file : p.asksFolder = false) : p.names ≠ [] := by
  have ne : p.segments.map String.ofList ≠ [] := by simp [p.segments_ne_nil]
  rw [asksFolder, List.getLast?_eq_some_getLast ne, Option.getD_some, Bool.not_eq_false'] at file
  exact List.ne_nil_of_mem (List.mem_filter.2 ⟨List.getLast_mem ne, file⟩)

theorem exists_parent {p : Path} (file : p.asksFolder = false) : ∃ q, p.parent? = some q := by
  have some : p.componentPlaces ≠ [] := by
    intro none
    have names := p.names_eq_components
    rw [components, none] at names
    exact names_ne_nil file names
  simp only [parent?]
  split
  · rename_i none
    exact absurd (List.reverse_eq_nil_iff.1 none) some
  · exact ⟨_, rfl⟩
  · exact ⟨_, rfl⟩

/-! ## What lies in a folder -/

/-- On its way a path goes through nothing but a folder, and a path that may be that of a file
has one more name behind. -/
structure LiesIn (p folder : Path) : Prop where
  absolute : p.isAbsolute = folder.isAbsolute
  way : p.names.dropLast <+: folder.names
  leaf : p.asksFolder = false → ∃ leaf, p.names = folder.names ++ [leaf]

theorem liesIn_parent {p q : Path} (parent : p.parent? = some q) : p.LiesIn q := by
  have folder := isFolderOf_parent parent
  refine ⟨folder.absolute.symm, folder.names ▸ List.prefix_refl _, fun file => ?_⟩
  exact ⟨_, folder.names ▸ (List.dropLast_concat_getLast (names_ne_nil file)).symm⟩

/-- What is joined to a folder lies in it, if it has no slash; it need not be a proper name. -/
theorem liesIn_join (folder : Path) {name : String} (plain : '/' ∉ name.toList) :
    (folder.join name).LiesIn folder := by
  have relative : name.toList.head? ≠ some '/' := fun slash => plain (List.mem_of_mem_head? slash)
  have own : (Path.mk name).names = [name].filter isName := by
    rw [names, segments_of_plain plain, List.map_singleton, String.ofList_toList]
  have names : (folder.join name).names = folder.names ++ [name].filter isName := by
    rw [names_join folder relative, own]
  refine ⟨isAbsolute_join folder relative, ?_, fun file => ⟨name, ?_⟩⟩
  · rw [names]
    by_cases proper : isName name = true
    · simp [proper]
    · simpa [proper] using List.dropLast_prefix folder.names
  · rw [asksFolder_join_of_plain folder plain, Bool.not_eq_false'] at file
    rw [names, List.filter_cons_of_pos file, List.filter_nil]

end Path

end ApiForge
