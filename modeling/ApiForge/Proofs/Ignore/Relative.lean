import ApiForge.Gate
import ApiForge.Proofs.Path
import ApiForge.Readers.Standard
import Mathlib.Data.List.DropRight
/-
# ApiForge.Proofs.Ignore.Relative -- what ignore rules say below one root and another

A path below the root is stripped of the root component by component, and what is left is the
relative path from its first name to its last one, whatever the root is
(`Path.relativeTo?_join`).  The rules then strip the text of the root from that once more, letter
by letter.  As long as the relative path does not start with that text the root plays no part
(`LiesClear`).  Where it does (`StartsAgain`), the rules see only what follows, and so the same
rules protect other files below another root (`IgnoreRules.allows_below`).
-/

namespace ApiForge

set_option autoImplicit false

open ApiForge.Text

namespace Path

/-! ## From the first name to the last one -/

/-- Is a segment no name? -/
def isSilent (seg : List Char) : Bool := !isName (String.ofList seg)

/-- The path from its first name to its last one, as it is spelled. -/
def trimmed (p : Path) : Path :=
  ⟨String.ofList (joinWith ['/'] ((p.segments.dropWhile isSilent).rdropWhile isSilent))⟩

/-- Segments are cut into those before the first name, those up to the last one, and the rest;
where there is no name they are all before it. -/
structure CutAtNames (segs front core back : List (List Char)) : Prop where
  whole : segs = front ++ (core ++ back)
  before : ∀ seg ∈ front, isSilent seg = true
  behind : ∀ seg ∈ back, isSilent seg = true
  first : ∀ seg ∈ core.head?, isSilent seg = false
  last : ∀ seg ∈ core.getLast?, isSilent seg = false
  nameless : core = [] → back = []

theorem cutAtNames (segs : List (List Char)) :
    CutAtNames segs (segs.takeWhile isSilent) ((segs.dropWhile isSilent).rdropWhile isSilent)
      ((segs.dropWhile isSilent).rtakeWhile isSilent) where
  whole := by rw [List.rdropWhile_append_rtakeWhile, List.takeWhile_append_dropWhile]
  before _ mem := List.mem_takeWhile_imp mem
  behind _ mem := List.mem_rtakeWhile_imp mem
  first seg mem := by
    obtain ⟨back, whole⟩ := List.rdropWhile_prefix isSilent (segs.dropWhile isSilent)
    have head : (segs.dropWhile isSilent).head? = some seg := by
      rw [← whole]
      exact List.mem_head?_append_of_mem_head? mem
    have stopped := List.head?_dropWhile_not isSilent segs
    rwa [head] at stopped
  last seg mem := by
    obtain ⟨some, rfl⟩ := List.mem_getLast?_eq_getLast mem
    simpa using List.rdropWhile_last_not isSilent _ some
  nameless none := by
    have silent := List.rdropWhile_eq_nil_iff.1 none
    cases left : segs.dropWhile isSilent with
    | nil => rfl
    | cons seg rest =>
        have stopped := List.head?_dropWhile_not isSilent segs
        rw [left] at silent stopped
        simp [silent seg List.mem_cons_self] at stopped

/-! ## What is left below the root -/

theorem counts_of_name {absolute : Bool} {i : Nat} {seg : List Char}
    (named : isSilent seg = false) : counts absolute i seg = true := by
  have proper := (isName_ofList seg).1 (by simpa [isSilent] using named)
  simp [counts, proper.1, proper.2]

/-- The places of those segments that count, from place `i` on. -/
def placesFrom (absolute : Bool) (segs : List (List Char)) (i : Nat) : List (Nat × List Char) :=
  ((segs.zipIdx i).filter fun s => counts absolute s.2 s.1).map fun s => (s.2, s.1)

theorem placesFrom_append (absolute : Bool) (xs ys : List (List Char)) (i : Nat) :
    placesFrom absolute (xs ++ ys) i
      = placesFrom absolute xs i ++ placesFrom absolute ys (i + xs.length) := by
  simp [placesFrom, List.zipIdx_append]

theorem placesFrom_eq_nil {absolute : Bool} {segs : List (List Char)} {i : Nat} (later : 0 < i)
    (silent : ∀ seg ∈ segs, isSilent seg = true) : placesFrom absolute segs i = [] := by
  rw [placesFrom, List.map_eq_nil_iff, List.filter_eq_nil_iff]
  intro s mem
  have place := List.le_snd_of_mem_zipIdx mem
  rw [ofList_counts_isName (by omega)]
  simpa [isSilent] using silent s.1 (List.fst_mem_of_mem_zipIdx mem)

theorem head?_placesFrom {absolute : Bool} {core : List (List Char)} {i : Nat}
    (first : ∀ seg ∈ core.head?, isSilent seg = false) :
    (placesFrom absolute core i).head? = core.head?.map fun seg => (i, seg) := by
  cases core with
  | nil => rfl
  | cons seg rest =>
      have counted : counts absolute i seg = true := counts_of_name (first seg rfl)
      simp [placesFrom, List.zipIdx_cons, counted]

theorem getLast?_placesFrom {absolute : Bool} {core : List (List Char)} {i : Nat}
    (last : ∀ seg ∈ core.getLast?, isSilent seg = false) :
    (placesFrom absolute core i).getLast?
      = core.getLast?.map fun seg => (i + (core.length - 1), seg) := by
  rcases List.eq_nil_or_concat' core with rfl | ⟨front, seg, rfl⟩
  · rfl
  · have counted : counts absolute (i + front.length) seg = true :=
      counts_of_name (last seg (by simp))
    rw [placesFrom_append, List.getLast?_append]
    simp [placesFrom, counted]

/-- A relative path with text in it starts with a segment with text in it. -/
theorem head_ne_nil {p : Path} (relative : p.isAbsolute = false) (text : p.text ≠ "") :
    ∀ seg ∈ p.segments.head?, seg ≠ [] := by
  obtain ⟨c, rest, chars⟩ : ∃ c rest, p.text.toList = c :: rest :=
    List.exists_cons_of_ne_nil fun none => text (String.toList_eq_nil_iff.1 none)
  have noSlash : c ≠ '/' := by simpa [isAbsolute, chars] using relative
  obtain ⟨piece, pieces, cut⟩ := List.exists_cons_of_ne_nil (splitAt_ne_nil (· = '/') rest)
  simp [segments, chars, splitAt, noSlash, cut]

/-- A relative path that does not start with `.` starts with a name, unless it has no text. -/
theorem before_eq_nil {rel : Path} {before rest : List (List Char)}
    (relative : rel.isAbsolute = false) (named : rel.segments.head? ≠ some ['.'])
    (whole : rel.segments = before ++ rest) (silent : ∀ seg ∈ before, isSilent seg = true) :
    before = [] ∨ before = [[]] ∧ rest = [] := by
  cases before with
  | nil => exact .inl rfl
  | cons seg more =>
      have starts : rel.segments.head? = some seg := by rw [whole]; rfl
      have noDot : seg ≠ ['.'] := fun dot => named (dot ▸ starts)
      have bare : seg = [] := by
        have silent := silent seg List.mem_cons_self
        rw [isSilent, Bool.not_eq_true', ← Bool.not_eq_true, isName_ofList] at silent
        exact Classical.not_not.1 fun some => silent ⟨some, noDot⟩
      have text : rel.text = "" :=
        Classical.not_not.1 fun some => head_ne_nil relative some seg starts bare
      have alone : rel.segments = [[]] := by simp [segments, text, splitAt]
      rw [alone] at whole
      simp only [List.cons_append, List.cons.injEq, List.nil_eq, List.append_eq_nil_iff] at whole
      exact .inr ⟨by rw [bare, whole.2.1], whole.2.2⟩

/-- A relative path with text in it has a component. -/
theorem front_eq_nil {root : Path} {front blank : List (List Char)}
    (own : root.segments = front ++ blank) (bare : front = [] ↔ root.text = "")
    (none : placesFrom root.isAbsolute front 0 = []) (relative : root.isAbsolute = false) :
    front = [] := by
  cases front with
  | nil => rfl
  | cons seg more =>
      have text : root.text ≠ "" := fun blank => List.cons_ne_nil _ _ (bare.2 blank)
      have some : seg ≠ [] := head_ne_nil relative text seg (by rw [own]; rfl)
      rw [relative] at none
      simp [placesFrom, List.zipIdx_cons, counts, some] at none

/-- Of a path that was joined to a root, `core` is what was joined, and nothing of what stands
around it counts for more than the root alone. -/
structure JoinedAs (root joined : Path) (front core back : List (List Char)) : Prop where
  sameKind : joined.isAbsolute = root.isAbsolute
  segments : joined.segments = front ++ core ++ back
  places : joined.componentPlaces
    = root.componentPlaces ++ placesFrom root.isAbsolute core front.length
  start : core ≠ [] → root.componentPlaces = [] → root.isAbsolute = false → front = []

theorem joinedAs_join {root rel : Path} {before core back : List (List Char)}
    (relative : rel.isAbsolute = false)
    (named : root.text = "" → rel.segments.head? ≠ some ['.'])
    (cut : CutAtNames rel.segments before core back) :
    ∃ front, JoinedAs root (root.join rel.text) front core back := by
  have relativeText : rel.text.toList.head? ≠ some '/' := by simpa [isAbsolute] using relative
  obtain ⟨front, blank, own, joined, silent, bare⟩ := segments_join_relative root relativeText
  have atFront (none : front = []) : before = [] ∨ before = [[]] ∧ core ++ back = [] :=
    before_eq_nil relative (named (bare.1 none)) cut.whole cut.before
  have sameKind : (root.join rel.text).isAbsolute = root.isAbsolute :=
    isAbsolute_join root relativeText
  have segments : (root.join rel.text).segments = front ++ before ++ core ++ back := by
    rw [joined, show (Path.mk rel.text).segments = _ from cut.whole]
    simp
  have theirs : root.componentPlaces = placesFrom root.isAbsolute front 0 := by
    change placesFrom root.isAbsolute root.segments 0 = _
    rw [own, placesFrom_append]
    rcases silent with rfl | rfl <;> simp [placesFrom, counts]
  have skipped : placesFrom root.isAbsolute before (0 + front.length) = [] := by
    rcases Nat.eq_zero_or_pos front.length with none | some
    · rcases atFront (List.length_eq_zero_iff.1 none) with rfl | ⟨rfl, -⟩ <;>
        simp [placesFrom, counts]
    · exact placesFrom_eq_nil (by omega) cut.before
  have ended : placesFrom root.isAbsolute back (0 + (front ++ before ++ core).length) = [] := by
    rcases Nat.eq_zero_or_pos core.length with none | some
    · rw [cut.nameless (List.length_eq_zero_iff.1 none)]
      rfl
    · exact placesFrom_eq_nil (by simp only [List.length_append]; omega) cut.behind
  refine ⟨front ++ before, sameKind, segments, ?_, fun proper none relativeRoot => ?_⟩
  · change placesFrom (root.join rel.text).isAbsolute (root.join rel.text).segments 0 = _
    rw [segments, sameKind, placesFrom_append, placesFrom_append, placesFrom_append, skipped, ended,
      theirs]
    simp
  · have empty : front = [] := front_eq_nil own bare (theirs ▸ none) relativeRoot
    rcases atFront empty with rfl | ⟨-, nothing⟩
    · rw [empty, List.append_nil]
    · exact absurd (List.append_eq_nil_iff.1 nothing).1 proper

/-- Without the root there is left what was joined to it. -/
theorem JoinedAs.relativeTo?_eq {root joined : Path} {front core back : List (List Char)}
    (below : JoinedAs root joined front core back)
    (first : ∀ seg ∈ core.head?, isSilent seg = false)
    (last : ∀ seg ∈ core.getLast?, isSilent seg = false) :
    joined.relativeTo? root = some ⟨String.ofList (joinWith ['/'] core)⟩ := by
  have starts : (root.componentPlaces.map Prod.snd).isPrefixOf
      ((root.componentPlaces ++ placesFrom root.isAbsolute core front.length).map Prod.snd)
      = true := by
    rw [List.map_append, List.isPrefixOf_iff_prefix]
    exact List.prefix_append _ _
  rw [relativeTo?, if_pos below.sameKind]
  simp only [below.places, starts, if_true, List.length_map, List.drop_left,
    head?_placesFrom first, getLast?_placesFrom last]
  cases core with
  | nil => rfl
  | cons seg rest =>
      -- only below a root without text the path is taken from its very front on
      have start : (if (root.componentPlaces.map Prod.snd).isEmpty = true ∧
          ¬ joined.isAbsolute = true then 0 else front.length) = front.length := by
        split
        · rename_i bareRoot
          rw [List.isEmpty_iff, List.map_eq_nil_iff, below.sameKind, Bool.not_eq_true] at bareRoot
          rw [below.start (List.cons_ne_nil _ _) bareRoot.1 bareRoot.2]
          rfl
        · rfl
      rw [List.head?_cons, List.getLast?_eq_some_getLast (by simp), Option.map_some,
        Option.map_some]
      simp only [start, Option.some.injEq, Path.mk.injEq, String.ofList_inj]
      have upToLast : front.length + ((seg :: rest).length - 1) + 1
          = (front ++ seg :: rest).length := by
        simp only [List.length_append, List.length_cons]
        omega
      rw [below.segments, upToLast, List.take_left, List.drop_left]

/-- **What lies below a root is, without the root, the path that it was joined from.** -/
theorem relativeTo?_join {root rel : Path} (relative : rel.isAbsolute = false)
    (named : root.text = "" → rel.segments.head? ≠ some ['.']) :
    (root.join rel.text).relativeTo? root = some rel.trimmed := by
  have cut := cutAtNames rel.segments
  obtain ⟨front, below⟩ := joinedAs_join relative named cut
  exact below.relativeTo?_eq cut.first cut.last

/-- From its first name on a path starts with a name, or it has none. -/
theorem trimmed_cases (p : Path) :
    (p.names = [] ∧ p.trimmed.text = "") ∨
      (p.names ≠ [] ∧ ∃ seg rest, p.trimmed.segments = seg :: rest ∧ isSilent seg = false) := by
  have cut := cutAtNames p.segments
  have joined : p.trimmed.text.toList = joinWith ['/']
      ((p.segments.dropWhile isSilent).rdropWhile isSilent) := String.toList_ofList
  generalize p.segments.takeWhile isSilent = before at cut
  generalize (p.segments.dropWhile isSilent).rtakeWhile isSilent = back at cut
  generalize (p.segments.dropWhile isSilent).rdropWhile isSilent = core at cut joined
  cases core with
  | nil =>
      refine .inl ⟨?_, String.toList_eq_nil_iff.1 joined⟩
      rw [names, cut.whole, cut.nameless rfl, List.append_nil, List.append_nil,
        List.filter_map, List.map_eq_nil_iff, List.filter_eq_nil_iff]
      intro seg mem
      simpa [isSilent] using cut.before seg mem
  | cons seg rest =>
      have named : isSilent seg = false := cut.first seg rfl
      have inside (piece : List Char) (mem : piece ∈ seg :: rest) : piece ∈ p.segments := by
        rw [cut.whole]
        exact List.mem_append_right _ (List.mem_append_left _ mem)
      refine .inr ⟨?_, seg, rest, ?_, named⟩
      · have isName : isName (String.ofList seg) = true := by simpa [isSilent] using named
        exact List.ne_nil_of_mem (List.mem_filter.2
          ⟨List.mem_map_of_mem (inside seg List.mem_cons_self), isName⟩)
      · rw [segments, joined]
        exact splitAt_joinWith (by simp) _ (List.cons_ne_nil _ _) fun piece mem d inPiece =>
          not_sep_of_mem_splitAt (inside piece mem) inPiece

theorem isEmpty_text_trimmed (p : Path) : p.trimmed.text.isEmpty = p.names.isEmpty := by
  rcases trimmed_cases p with ⟨none, blank⟩ | ⟨some, seg, rest, starts, named⟩
  · rw [none, blank]
    rfl
  · rw [List.isEmpty_eq_false_iff.2 some, ← Bool.not_eq_true, String.isEmpty_iff]
    intro blank
    rw [segments, blank] at starts
    obtain ⟨rfl, rfl⟩ := List.cons.inj starts
    cases named

/-- From its first name on a path is relative, and no `./` stands in front of it. -/
theorem trimmed_plain (p : Path) :
    p.trimmed.isAbsolute = false ∧ ∀ rest, p.trimmed.text ≠ "./" ++ rest := by
  rcases trimmed_cases p with ⟨-, blank⟩ | ⟨-, seg, more, starts, named⟩
  · refine ⟨by rw [isAbsolute, blank]; rfl, fun rest dotted => ?_⟩
    rw [blank, ← String.toList_inj, String.toList_append] at dotted
    cases dotted
  · constructor
    · rw [← Bool.not_eq_true, isAbsolute_iff]
      rintro ⟨next, rest, absolute⟩
      obtain ⟨rfl, -⟩ := List.cons.inj (starts.symm.trans absolute)
      cases named
    · intro rest dotted
      rw [segments, dotted, String.toList_append, show "./".toList = ['.', '/'] from rfl] at starts
      have cut : splitAt (· = '/') (['.'] ++ '/' :: rest.toList)
          = ['.'] :: splitAt (· = '/') rest.toList :=
        splitAt_append_sep (by simp) ['.'] rest.toList (by simp)
      obtain ⟨rfl, -⟩ := List.cons.inj (starts.symm.trans cut)
      cases named

end Path

/-! ## What the rules see -/

namespace Ignore

/-- Does the text of a rule file keep a path untouched, as `judge` has it? -/
def protects (judge : String → Option (Path → Bool)) (text : String) (path : Path) : Bool :=
  (judge text).any (· path)

/-- The relative path starts with the text of the root once more, as the rules know the root, and
`rest` follows.  Rules look for that only in paths with a slash, and not for the root `.`. -/
structure StartsAgain (root rel : Path) (rest : String) : Prop where
  root_ne_empty : dropDot root.text ≠ ""
  root_ne_dot : dropDot root.text ≠ "."
  slash : '/' ∈ rel.trimmed.text.toList
  again : rel.trimmed.text = dropDot root.text ++ rest

/-- The relative path does not start with the text of the root once more. -/
structure LiesClear (root rel : Path) : Prop where
  named : root.text = "" → rel.segments.head? ≠ some ['.']
  apart : ∀ rest, ¬ StartsAgain root rel rest

theorem liesClear_of_isAbsolute {root : Path} (absolute : root.isAbsolute = true) (rel : Path) :
    LiesClear root rel := by
  have slash : root.text.toList.head? = some '/' := by simpa [Path.isAbsolute] using absolute
  refine ⟨fun blank => ?_, fun rest starts => ?_⟩
  · rw [blank] at slash
    cases slash
  · have undotted : dropDot root.text = root.text := by
      rw [dropDot, stripHead?_eq_none_iff.2, Option.getD_none]
      intro rest dotted
      rw [dotted, String.toList_append] at slash
      cases slash
    -- a path that starts with an absolute one is absolute itself
    have outside : rel.trimmed.isAbsolute = true := by
      rw [Path.isAbsolute, starts.again, undotted, String.toList_append,
        List.mem_head?_append_of_mem_head? slash]
      rfl
    rw [rel.trimmed_plain.1] at outside
    cases outside

theorem dropDot_trimmed (rel : Path) : dropDot rel.trimmed.text = rel.trimmed.text := by
  rw [dropDot, stripHead?_eq_none_iff.2 rel.trimmed_plain.2, Option.getD_none]

/-- Of a path that lies clear of the root the rules see all. -/
theorem localPath_of_liesClear {root rel : Path} (clear : LiesClear root rel) :
    localPath root rel.trimmed = rel.trimmed := by
  simp only [localPath, dropDot_trimmed]
  split
  · rfl
  · rename_i asked
    rw [not_or, Classical.not_not, List.contains_iff_mem] at asked
    split
    · rename_i rest stripped
      have again := stripHead?_eq_some_iff.1 stripped
      by_cases blank : dropDot root.text = ""
      · rw [blank, String.empty_append] at again
        have noSlash : stripHead? rest "/" = none := by
          refine stripHead?_eq_none_iff.2 fun more absolute => ?_
          have relative := rel.trimmed_plain.1
          rw [Path.isAbsolute, again, absolute, String.toList_append] at relative
          cases relative
        rw [noSlash, Option.getD_none, ← again]
      · exact absurd ⟨blank, asked.1, asked.2, again⟩ (clear.apart rest)
    · rfl

/-- Of a path that starts with the root once more the rules see what follows. -/
theorem localPath_of_startsAgain {root rel : Path} {rest : String}
    (again : StartsAgain root rel rest) :
    localPath root rel.trimmed = ⟨(stripHead? rest "/").getD rest⟩ := by
  have asked : ¬ (dropDot root.text = "." ∨
      ¬ rel.trimmed.text.toList.contains '/' = true) := by
    simpa [again.root_ne_dot] using again.slash
  simp only [localPath, dropDot_trimmed]
  rw [if_neg asked, stripHead?_eq_some_iff.2 again.again]

end Ignore

/-- Rules take the text of their root off what they are given, and their text is judged on what
is left. -/
def Readers.Strips [Readers] (judge : String → Option (Path → Bool)) : Prop :=
  ∀ root text, Readers.rules root text =
    (judge text).map fun keeps path => keeps (Ignore.localPath root path)

namespace IgnoreRules

open Ignore

section Below

variable [Readers] {disk disk' : Disk} {root root' rel : Path} {given given' : Option Path}
  {file file' : Path} {text : String} {judge : String → Option (Path → Bool)}

/-- Rules that come from a file are those that its text holds. -/
theorem load_eq (source : (load disk root given).source = some file)
    (found : disk.readText file = some text) : ∃ ignores, Readers.rules root text = some ignores ∧
      load disk root given = ⟨root, some ignores, some file⟩ := by
  have made {f : Path} {r : IgnoreRules} (usable : ofFile disk root f = some r)
      (same : r.source = some file) : ∃ ignores, Readers.rules root text = some ignores ∧
        r = ⟨root, some ignores, some file⟩ := by
    rw [ofFile] at usable
    split at usable
    · rename_i ignores read
      cases usable
      cases same
      rw [found, Option.bind_some] at read
      exact ⟨ignores, read, rfl⟩
    · cases usable
  cases asked : given.bind (ofFile disk root) with
  | some r =>
      rw [load, asked] at source ⊢
      obtain ⟨f, -, usable⟩ := Option.bind_eq_some_iff.1 asked
      exact made usable source
  | none =>
      rw [load, asked] at source ⊢
      cases own : ofFile disk root (root.join Product.ignoreFileName) with
      | some r =>
          rw [own] at source
          exact made own source
      | none =>
          rw [own] at source
          cases source

/-- What is allowed below the root is what the rules do not keep untouched, as they see it. -/
theorem allows_join (strips : Readers.Strips judge)
    (source : (load disk root given).source = some file)
    (found : disk.readText file = some text) (relative : rel.isAbsolute = false)
    (named : root.text = "" → rel.segments.head? ≠ some ['.']) :
    (load disk root given).allows (root.join rel.text)
      = (rel.names.isEmpty || !protects judge text (localPath root rel.trimmed)) := by
  obtain ⟨ignores, read, loaded⟩ := load_eq source found
  rw [strips, Option.map_eq_some_iff] at read
  obtain ⟨keeps, judged, rfl⟩ := read
  simp only [loaded, allows, Path.relativeTo?_join relative named, Option.getD_some,
    rel.trimmed_plain.1, rel.isEmpty_text_trimmed, Bool.or_false, protects, judged,
    Option.any_some]

theorem allows_of_liesClear (strips : Readers.Strips judge)
    (source : (load disk root given).source = some file)
    (found : disk.readText file = some text) (relative : rel.isAbsolute = false)
    (clear : LiesClear root rel) : (load disk root given).allows (root.join rel.text)
      = (rel.names.isEmpty || !protects judge text rel.trimmed) := by
  rw [allows_join strips source found relative clear.named, localPath_of_liesClear clear]

theorem allows_of_startsAgain {rest : String} (strips : Readers.Strips judge)
    (source : (load disk root given).source = some file)
    (found : disk.readText file = some text) (relative : rel.isAbsolute = false)
    (again : StartsAgain root rel rest) : (load disk root given).allows (root.join rel.text)
      = !protects judge text ⟨(stripHead? rest "/").getD rest⟩ := by
  have rooted : root.text ≠ "" := fun blank => again.root_ne_empty (by rw [blank]; rfl)
  have named : rel.names.isEmpty = false := by
    rw [← rel.isEmpty_text_trimmed, ← Bool.not_eq_true, String.isEmpty_iff]
    intro blank
    have slash := again.slash
    rw [blank] at slash
    cases slash
  rw [allows_join strips source found relative fun blank => absurd blank rooted,
    localPath_of_startsAgain again, named, Bool.false_or]

/-- **The same rules protect the same files below every root that the files lie clear of.**  A
relative path is judged as it is, from its first name to its last one, unless it starts with the
text of the root once more; then it is judged by what follows.  Below an absolute root that
never happens. -/
theorem allows_below (strips : Readers.Strips judge)
    (source : (load disk root given).source = some file)
    (found : disk.readText file = some text)
    (source' : (load disk' root' given').source = some file')
    (found' : disk'.readText file' = some text) (relative : rel.isAbsolute = false) :
    (LiesClear root rel → LiesClear root' rel →
      (load disk root given).allows (root.join rel.text)
        = (load disk' root' given').allows (root'.join rel.text)) ∧
    (LiesClear root rel → (load disk root given).allows (root.join rel.text)
      = (rel.names.isEmpty || !protects judge text rel.trimmed)) ∧
    (∀ rest, StartsAgain root rel rest → (load disk root given).allows (root.join rel.text)
      = !protects judge text ⟨(stripHead? rest "/").getD rest⟩) ∧
    (root.isAbsolute = true → LiesClear root rel) := by
  refine ⟨fun clear clear' => ?_, allows_of_liesClear strips source found relative,
    fun rest => allows_of_startsAgain strips source found relative,
    fun absolute => liesClear_of_isAbsolute absolute rel⟩
  rw [allows_of_liesClear strips source found relative clear,
    allows_of_liesClear strips source' found' relative clear']

end Below

/-! ## The reader of the program -/

/-- How the program judges the text of a rule file. -/
def judgeText (text : String) : Option (Path → Bool) := (parseRules text).map judge

theorem strips_standard : @Readers.Strips .standard judgeText := fun root text => by
  simp only [Readers.rules, ofText, judgeText, Option.map_map]
  rfl

/-- A folder with nothing but a rule file that protects what lies in `src`. -/
def folderWithRules (root : Path) : Disk :=
  (Disk.emptyAt ["work"]).put (root.join Product.ignoreFileName) (.text "src/*.rs\n")

/-- Below `gen` the file is protected, and below `src` the rules see `pet.rs` alone. -/
theorem allows_below_src :
    StartsAgain ⟨"src"⟩ ⟨"src/pet.rs"⟩ "/pet.rs" ∧ LiesClear ⟨"gen"⟩ ⟨"src/pet.rs"⟩ ∧
      (load (folderWithRules ⟨"src"⟩) ⟨"src"⟩ none).allows ⟨"src/src/pet.rs"⟩ = true ∧
      (load (folderWithRules ⟨"gen"⟩) ⟨"gen"⟩ none).allows ⟨"gen/src/pet.rs"⟩ = false := by
  have again : StartsAgain ⟨"src"⟩ ⟨"src/pet.rs"⟩ "/pet.rs" :=
    ⟨by decide +kernel, by decide +kernel, by decide +kernel, by decide +kernel⟩
  have clear : LiesClear ⟨"gen"⟩ ⟨"src/pet.rs"⟩ := by
    refine ⟨fun blank => absurd blank (by decide), fun rest starts => ?_⟩
    have none : stripHead? (Path.trimmed ⟨"src/pet.rs"⟩).text (dropDot "gen") = none := by
      decide +kernel
    exact stripHead?_eq_none_iff.1 none rest starts.again
  obtain ⟨-, -, below, -⟩ := @allows_below .standard (folderWithRules ⟨"src"⟩)
    (folderWithRules ⟨"gen"⟩) ⟨"src"⟩ ⟨"gen"⟩ ⟨"src/pet.rs"⟩ none none
    ⟨"src/.brrtrouter-codegen-ignore"⟩ ⟨"gen/.brrtrouter-codegen-ignore"⟩ "src/*.rs\n"
    judgeText strips_standard
    (by decide +kernel) (by decide +kernel) (by decide +kernel) (by decide +kernel) rfl
  obtain ⟨-, beside, -, -⟩ := @allows_below .standard (folderWithRules ⟨"gen"⟩)
    (folderWithRules ⟨"src"⟩) ⟨"gen"⟩ ⟨"src"⟩ ⟨"src/pet.rs"⟩ none none
    ⟨"gen/.brrtrouter-codegen-ignore"⟩ ⟨"src/.brrtrouter-codegen-ignore"⟩ "src/*.rs\n"
    judgeText strips_standard
    (by decide +kernel) (by decide +kernel) (by decide +kernel) (by decide +kernel) rfl
  refine ⟨again, clear, (below _ again).trans ?_, (beside clear).trans ?_⟩
  · decide +kernel
  · decide +kernel

/-- **The same rules do not protect the same files below every root.** -/
theorem renamed_root_protects_less : ¬ ∀ (disk disk' : Disk) (root root' file file' rel : Path)
    (text : String), (load disk root none).source = some file → disk.readText file = some text →
      (load disk' root' none).source = some file' → disk'.readText file' = some text →
      rel.isAbsolute = false → rel.climbs = false →
      (load disk root none).allows (root.join rel.text)
        = (load disk' root' none).allows (root'.join rel.text) := by
  intro always
  have same := always (folderWithRules ⟨"gen"⟩) (folderWithRules ⟨"src"⟩) ⟨"gen"⟩ ⟨"src"⟩
    ⟨"gen/.brrtrouter-codegen-ignore"⟩ ⟨"src/.brrtrouter-codegen-ignore"⟩ ⟨"src/pet.rs"⟩
    "src/*.rs\n" (by decide +kernel) (by decide +kernel) (by decide +kernel) (by decide +kernel)
    rfl (by decide +kernel)
  revert same
  decide +kernel

end IgnoreRules

end ApiForge
