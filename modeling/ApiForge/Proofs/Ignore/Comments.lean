import ApiForge.Gate
import ApiForge.Proofs.Path
import ApiForge.Readers.Standard
/-
# ApiForge.Proofs.Ignore.Comments -- rule files that say nothing

Readers of rules skip comments and blank lines (`Readers.SkipsComments`).  The rule file that a
first run leaves behind holds nothing else (`onlyComments_ignoreFileText`), so where nothing else
became of the rule files, the rules that are loaded later allow what those did before
(`load_allows`).  The reader of the program is one that skips them (`skipsComments_standard`).
-/

namespace ApiForge

set_option autoImplicit false

open ApiForge.Text

namespace Ignore

/-- The line is blank, or it starts as a comment does. -/
def IsRemark (line : List Char) : Prop := line = [] ∨ line.head? = some '#'

/-- The text holds comments and blank lines only. -/
def OnlyComments (text : String) : Prop :=
  ∀ line ∈ splitAt (· = '\n') text.toList, IsRemark line

instance (line : List Char) : Decidable (IsRemark line) :=
  inferInstanceAs (Decidable (line = [] ∨ line.head? = some '#'))

/-- Remarks that are joined line by line make a text of comments. -/
theorem onlyComments_joinStrings {lines : List String} (nonempty : lines ≠ [])
    (remarks : ∀ line ∈ lines, IsRemark line.toList ∧ '\n' ∉ line.toList) :
    OnlyComments (joinStrings "\n" lines) := by
  intro line mem
  rw [splitAt_joinStrings rfl nonempty fun s inLines => (remarks s inLines).2] at mem
  obtain ⟨s, inLines, rfl⟩ := List.mem_map.1 mem
  exact (remarks s inLines).1

/-- The rule file that a first run leaves behind holds comments only. -/
theorem onlyComments_ignoreFileText :
    OnlyComments (Product.ignoreFileText Product.version) :=
  onlyComments_joinStrings (by simp) (by decide +kernel)

end Ignore

/-- Comments and blank lines can be read, and they keep nothing untouched. -/
def Readers.SkipsComments [Readers] : Prop :=
  ∀ root text, Ignore.OnlyComments text →
    ∃ ignores, Readers.rules root text = some ignores ∧ ∀ path, ignores path = false

/-! ## The reader of the program -/

namespace Ignore

theorem IsRemark.cases {line : List Char} (remark : IsRemark line) :
    line = [] ∨ ∃ rest, line = '#' :: rest :=
  remark.imp id List.head?_eq_some_iff.1

theorem ofLine_of_isRemark {line : List Char} (remark : IsRemark line) :
    Rule.ofLine line = .blank := by
  obtain rfl | ⟨rest, rfl⟩ := remark.cases
  · rfl
  have kept : ∃ rest', trimEnd isBlank ('#' :: rest) = '#' :: rest' := by
    have notBlank : isBlank '#' = false := by decide
    rw [trimEnd, List.reverse_cons, List.dropWhile_append]
    split
    · exact ⟨[], by simp [notBlank]⟩
    · exact ⟨(rest.reverse.dropWhile isBlank).reverse, by simp⟩
  obtain ⟨rest', trimmed⟩ := kept
  rw [Rule.ofLine, trimmed]
  split <;> split at * <;> simp_all

theorem IsRemark.dropReturn {line : List Char} (remark : IsRemark line) :
    IsRemark (dropReturn line) := by
  obtain rfl | ⟨rest, rfl⟩ := remark.cases
  · exact .inl rfl
  rw [Ignore.dropReturn]
  split
  · rename_i ends
    cases rest with
    | nil => cases ends
    | cons c rest => exact .inr rfl
  · exact .inr rfl

theorem rulesOf_of_isRemark {lines : List (List Char)} (remarks : ∀ l ∈ lines, IsRemark l) :
    rulesOf (lines.map Rule.ofLine) = some [] := by
  induction lines with
  | nil => rfl
  | cons line rest ih =>
      rw [List.map_cons, ofLine_of_isRemark (remarks line List.mem_cons_self), rulesOf]
      exact ih fun l mem => remarks l (List.mem_cons_of_mem _ mem)

/-- No byte order mark stands in front of a comment or a blank line. -/
theorem dropWhile_mark_of_onlyComments {text : String} (only : OnlyComments text) :
    text.toList.dropWhile (fun c => c.toNat = 0xFEFF) = text.toList := by
  rw [OnlyComments] at only
  cases start : text.toList with
  | nil => rfl
  | cons c rest =>
      have known : c = '\n' ∨ c = '#' := by
        by_cases feed : c = '\n'
        · exact .inl feed
        · have kept : decide (c = '\n') = false := decide_eq_false feed
          obtain ⟨piece, pieces, first⟩ :=
            @splitAt_cons_of_not_sep (· = '\n') c kept rest
          rw [start, first] at only
          obtain blank | ⟨_, comment⟩ := (only _ List.mem_cons_self).cases
          · cases blank
          · exact .inr (List.cons.inj comment).1
      rcases known with rfl | rfl <;> rfl

/-- **A text of nothing but comments holds no rules.** -/
theorem parseRules_of_onlyComments {text : String} (only : OnlyComments text) :
    parseRules text = some [] := by
  rw [parseRules, dropWhile_mark_of_onlyComments only, linesOf]
  refine rulesOf_of_isRemark fun line mem => ?_
  rcases List.mem_append.1 mem with inner | last
  · obtain ⟨piece, inPieces, rfl⟩ := List.mem_map.1 inner
    exact (only piece (List.dropLast_subset _ inPieces)).dropReturn
  · exact only line (List.mem_of_getLast? (Option.mem_toList.1 last))

theorem judge_nil (path : Path) : judge [] path = false := by
  have around (fuel : Nat) (p : Path) : verdictAround [] fuel p = none := by
    induction fuel generalizing p with
    | zero => rfl
    | succ fuel ih =>
        simp only [verdictAround]
        split
        · rfl
        · exact ih _
  simp [judge, verdict, around]

end Ignore

theorem skipsComments_standard : @Readers.SkipsComments .standard := by
  intro root text only
  refine ⟨_, ?_, fun path => Ignore.judge_nil (Ignore.localPath root path)⟩
  simp only [Readers.rules, Ignore.ofText, Ignore.parseRules_of_onlyComments only,
    Option.map_some]

/-! ## Rules that are loaded twice -/

namespace IgnoreRules

/-- The paths that the rules are read from. -/
def sources (root : Path) (given : Option Path) : List Path :=
  given.toList ++ [Product.ignoreFilePath root]

/-- A rule file of the second run is as it was, or says nothing and stands where no rule file
had been. -/
def Settled (d d' : Disk) (root q : Path) : Prop :=
  d'.readText q = d.readText q ∨
    (d.readText q = none ∧ d.readText (Product.ignoreFilePath root) = none ∧
      ∃ text, d'.readText q = some text ∧ Ignore.OnlyComments text)

variable [Readers]

theorem ofFile_congr {d d' : Disk} {root file : Path}
    (same : d'.readText file = d.readText file) : ofFile d' root file = ofFile d root file := by
  simp only [ofFile, same]

theorem ofFile_of_missing {d : Disk} {root file : Path} (missing : d.readText file = none) :
    ofFile d root file = none := by
  simp only [ofFile, missing, Option.bind_none]

/-- The rules of a file that says nothing allow everything. -/
theorem ofFile_of_onlyComments (skips : Readers.SkipsComments) {d : Disk} {root file : Path}
    {text : String} (found : d.readText file = some text) (only : Ignore.OnlyComments text) :
    ∃ r, ofFile d root file = some r ∧ ∀ path, r.allows path = true := by
  obtain ⟨ignores, read, silent⟩ := skips root text only
  refine ⟨⟨root, some ignores, some file⟩, ?_, fun path => ?_⟩
  · simp only [ofFile, found, Option.bind_some, read]
  · simp [allows, silent]

/-- **Where the rule files are settled, the second run allows what the first one did.** -/
theorem load_allows (skips : Readers.SkipsComments) {d d' : Disk} {root : Path}
    {given : Option Path} (settled : ∀ q ∈ sources root given, Settled d d' root q) (path : Path) :
    (load d' root given).allows path = (load d root given).allows path := by
  have own : ((ofFile d' root (Product.ignoreFilePath root)).getD (allowAll root)).allows path
      = ((ofFile d root (Product.ignoreFilePath root)).getD (allowAll root)).allows path := by
    rcases settled _ (List.mem_append_right _ List.mem_cons_self) with
      same | ⟨missing, -, text, found, only⟩
    · rw [ofFile_congr same]
    · have none : ofFile d root (Product.ignoreFilePath root) = none := ofFile_of_missing missing
      obtain ⟨r, made, allows⟩ : ∃ r, ofFile d' root (Product.ignoreFilePath root) = some r ∧
        ∀ path, r.allows path = true := ofFile_of_onlyComments skips found only
      rw [made, none]
      exact allows path
  cases given with
  | none => exact own
  | some file =>
      simp only [load, Option.bind_some]
      rcases settled file List.mem_cons_self with same | ⟨missing, noOwn, text, found, only⟩
      · rw [ofFile_congr same]
        cases ofFile d root file with
        | some r => rfl
        | none => exact own
      · obtain ⟨r, made, allows⟩ := ofFile_of_onlyComments skips found only
        have none : ofFile d root (root.join Product.ignoreFileName) = none :=
          ofFile_of_missing noOwn
        rw [made, ofFile_of_missing missing, none]
        exact allows path

end IgnoreRules

end ApiForge
