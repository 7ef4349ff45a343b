import ApiForge.Proofs.Text.Literal
import ApiForge.Readers.Standard
/-
# ApiForge.Proofs.Url -- what the path of a URL may hold

Where the scheme is special a backslash ends a segment just as a slash does, and a quotation mark
is percent-encoded.  So the path of such a URL holds nothing that is escaped in a literal
(`Readers.PlainSpecialPaths`, `isPlain_path_of_parse`).  A path under any other scheme may hold a
backslash.
-/

namespace ApiForge

set_option autoImplicit false

/-- The path of a URL under a special scheme holds nothing that is escaped in a literal. -/
def Readers.PlainSpecialPaths [Readers] : Prop :=
  ∀ text url, Readers.url text = some url → Url.isSpecial url.scheme = true →
    Text.IsPlain url.path.toList

namespace Url

open ApiForge.Text

theorem isPlain_upperHexDigit : ∀ n : Fin 16, IsPlain [upperHexDigit n] := by
  decide

theorem isPlain_encodeByte (b : UInt8) : IsPlain (encodeByte b) := by
  have small := b.toNat_lt
  have high : b.toNat / 16 < 16 := by omega
  have low : b.toNat % 16 < 16 := by omega
  have percent : IsPlain ['%'] := by decide
  exact (percent.append (isPlain_upperHexDigit ⟨_, high⟩)).append (isPlain_upperHexDigit ⟨_, low⟩)

theorem isPlain_percentEncode {s : List Char} (clean : '\\' ∉ s) :
    IsPlain (percentEncode inPathSet s) := by
  intro c mem
  obtain ⟨d, inside, written⟩ := List.mem_flatMap.1 mem
  split at written
  · obtain ⟨b, -, digit⟩ := List.mem_flatMap.1 written
    exact isPlain_encodeByte b c digit
  · rename_i kept
    obtain rfl := List.mem_singleton.1 written
    refine ⟨?_, ?_⟩
    · rintro rfl
      exact clean inside
    · rintro rfl
      exact kept rfl

/-! ## Segments -/

/-- Every segment of a path is free of what is escaped in a literal. -/
def PlainSegments (segments : List (List Char)) : Prop := ∀ seg ∈ segments, IsPlain seg

section Segments

variable {file : Bool} {done segments : List (List Char)}

theorem PlainSegments.of_sublist {kept : List (List Char)} (plain : PlainSegments done)
    (among : kept.Sublist done) : PlainSegments kept := fun seg mem => plain seg (among.subset mem)

theorem PlainSegments.cons {seg : List Char} (first : IsPlain seg) (plain : PlainSegments done) :
    PlainSegments (seg :: done) := List.forall_mem_cons.2 ⟨first, plain⟩

/-- A path of empty segments is left with one of them. -/
theorem PlainSegments.dropEmpty (plain : PlainSegments done) (drop : List Char → Bool) :
    PlainSegments (if (done.dropWhile drop).isEmpty then [[]] else done.dropWhile drop) := by
  split
  · exact PlainSegments.cons (fun _ mem => (nomatch mem)) fun _ mem => (nomatch mem)
  · exact plain.of_sublist (List.dropWhile_sublist _)

theorem isPlain_drive {seg : List Char} (drive : isDriveLetter seg = true) (clean : '\\' ∉ seg) :
    IsPlain (seg.take 1 ++ [':']) := by
  rw [isDriveLetter.eq_def] at drive
  split at drive
  · rename_i c d
    have letter : isAsciiLetter c = true := (Bool.and_eq_true_iff.1 drive).1
    have colon : IsPlain [':'] := by decide
    refine IsPlain.append (s := [c]) (fun e mem => ?_) colon
    obtain rfl := List.mem_singleton.1 mem
    refine ⟨fun is => clean (is ▸ List.mem_cons_self), ?_⟩
    rintro rfl
    cases letter
  · cases drive

theorem PlainSegments.push (plain : PlainSegments done) {seg : List Char} (clean : '\\' ∉ seg)
    (last : Bool) : PlainSegments (pushSegment file last done seg) := by
  have ended {kept : List (List Char)} (plain : PlainSegments kept) :
      PlainSegments (if last then [] :: kept else kept) := by
    split
    · exact plain.cons fun _ mem => (nomatch mem)
    · exact plain
  rw [pushSegment.eq_def]
  split
  · refine ended ?_
    split
    · split
      · exact plain
      · exact fun _ mem => (nomatch mem)
    · exact plain.of_sublist (List.drop_sublist _ _)
  · split
    · exact ended plain
    · split
      · rename_i drive
        exact plain.cons (isPlain_drive (Bool.and_eq_true_iff.1 drive).2 clean)
      · exact plain.cons (isPlain_percentEncode clean)

theorem PlainSegments.resolve (plain : PlainSegments done)
    (clean : ∀ seg ∈ segments, '\\' ∉ seg) :
    PlainSegments (resolveSegments file done segments) := by
  have reversed {kept : List (List Char)} (plain : PlainSegments kept) :
      PlainSegments kept.reverse := fun seg mem => plain seg (List.mem_reverse.1 mem)
  fun_induction resolveSegments file done segments with
  | case1 done => exact reversed plain
  | case2 done seg => exact reversed (plain.push (clean seg List.mem_cons_self) true)
  | case3 done seg rest _ ih =>
      exact ih (plain.push (clean seg List.mem_cons_self) false)
        fun other mem => clean other (List.mem_cons_of_mem _ mem)

theorem PlainSegments.join (plain : PlainSegments segments) :
    IsPlain ('/' :: joinWith ['/'] segments) := by
  refine List.forall_mem_cons.2 ⟨by decide, fun c mem => ?_⟩
  obtain slash | ⟨seg, among, inside⟩ := mem_joinWith mem
  · cases List.mem_singleton.1 slash
    decide
  · exact plain seg among c inside

end Segments

/-! ## Paths -/

section Paths

variable {scheme : String}

theorem isPlain_readPath (special : isSpecial scheme = true) (s : List Char) :
    IsPlain (readPath scheme s).toList := by
  have clean (body : List Char) : ∀ seg ∈ splitAt (isSlash true) body, '\\' ∉ seg := by
    intro seg mem inside
    cases not_sep_of_mem_splitAt mem inside
  have resolved (file : Bool) (body : List Char) :
      PlainSegments (resolveSegments file [] (splitAt (isSlash true) body)) :=
    PlainSegments.resolve (fun _ mem => (nomatch mem)) (clean body)
  simp only [readPath, special, Bool.not_true, Bool.and_false, Bool.false_eq_true, if_false,
    String.toList_ofList]
  refine PlainSegments.join ?_
  by_cases file : scheme = "file"
  · rw [if_pos file]
    exact (resolved _ _).dropEmpty _
  · rw [if_neg file]
    exact resolved _ _

variable {s : List Char} {url : Url}

/-- Whatever the authority is, the path is read by itself. -/
theorem path_of_readAuthority (read : readAuthority scheme s = some url) :
    url.scheme = scheme ∧ ∃ t, url.path = readPath scheme t := by
  simp only [readAuthority] at read
  repeat' split at read
  all_goals cases read
  all_goals exact ⟨rfl, _, rfl⟩

theorem path_of_readFile (read : readFile s = some url) :
    url.scheme = "file" ∧ ∃ t, url.path = readPath "file" t := by
  simp only [readFile] at read
  repeat' split at read
  all_goals cases read
  all_goals exact ⟨rfl, _, rfl⟩

theorem scheme_of_readOther (read : readOther scheme s = some url) : url.scheme = scheme := by
  rw [readOther.eq_def] at read
  split at read
  · exact (path_of_readAuthority read).1
  · cases read
    rfl
  · cases read
    rfl

/-- **The path under a special scheme holds nothing that is escaped in a literal.** -/
theorem isPlain_path_of_parse {input : String} (parsed : parse input = some url)
    (special : isSpecial url.scheme = true) : IsPlain url.path.toList := by
  have read (found : ∃ t, url.path = readPath url.scheme t) : IsPlain url.path.toList := by
    obtain ⟨t, path⟩ := found
    rw [path]
    exact isPlain_readPath special t
  simp only [parse] at parsed
  split at parsed
  · cases parsed
  · split at parsed
    · obtain ⟨scheme, path⟩ := path_of_readFile parsed
      exact read (scheme ▸ path)
    · split at parsed
      · obtain ⟨rfl, path⟩ := path_of_readAuthority parsed
        exact read path
      · rename_i other
        exact absurd (scheme_of_readOther parsed ▸ special) other

end Paths

end Url

theorem plainSpecialPaths_standard : @Readers.PlainSpecialPaths .standard :=
  fun _ _ => Url.isPlain_path_of_parse

end ApiForge
