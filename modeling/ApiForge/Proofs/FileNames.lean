import ApiForge.Backend.Manifest
import ApiForge.Gate
import ApiForge.Product
import ApiForge.Proofs.Naming
/-
# ApiForge.Proofs.FileNames -- what the files of a type are called

A file is called after a type, in one of three forms, with a suffix behind.  Suffixes that are
extensions come off again (`append_extension_eq_iff`), so names of files are the same only where
the suffixes are equal and the forms of the types' names meet.  They meet for one type, for a
type that is called like another one with `Test` behind, and for a type without capitals,
which snake case leaves as it is (`Form.stem_eq_iff`).
-/

namespace ApiForge

set_option autoImplicit false

open ApiForge.Text

/-! ## Suffixes -/

/-- A dot and something behind it that has no other dot, no slash and no hyphen: `.rs`. -/
def isExtension (suffix : String) : Bool :=
  match suffix.toList with
  | '.' :: c :: rest => (c :: rest).all fun d => d ≠ '.' && d ≠ '/' && d ≠ '-'
  | _ => false

theorem shape_of_isExtension {suffix : String} (extension : isExtension suffix = true) :
    ∃ c rest, suffix.toList = '.' :: c :: rest ∧
      ∀ d ∈ c :: rest, d ≠ '.' ∧ d ≠ '/' ∧ d ≠ '-' := by
  rw [isExtension] at extension
  split at extension
  · rename_i c rest chars
    refine ⟨c, rest, chars, fun d mem => ?_⟩
    simpa [and_assoc] using List.all_eq_true.1 extension d mem
  · cases extension

/-- Every suffix is an extension, and no set of templates has one twice. -/
def TemplateSets.Extended (t : TemplateSets) : Prop :=
  ∀ set ∈ [t.model, t.modelTest, t.modelDoc, t.api, t.apiTest, t.apiDoc],
    (∀ e ∈ Dict.entries set, isExtension e.2 = true) ∧ ((Dict.entries set).map Prod.snd).Nodup

instance (t : TemplateSets) : Decidable t.Extended :=
  inferInstanceAs (Decidable (∀ set ∈ [_, _, _, _, _, _], _))

section Names

variable {stem stem' suffix suffix' : String}
  (plain : ∀ c ∈ stem.toList, isIdentifierChar c = true) (extension : isExtension suffix = true)
include plain extension

/-- An extension comes off a name again. -/
theorem append_extension_eq_iff (plain' : ∀ c ∈ stem'.toList, isIdentifierChar c = true)
    (extension' : isExtension suffix' = true) :
    stem ++ suffix = stem' ++ suffix' ↔ stem = stem' ∧ suffix = suffix' := by
  refine ⟨fun same => ?_, fun ⟨first, second⟩ => by rw [first, second]⟩
  have clean {s : String} (plain : ∀ c ∈ s.toList, isIdentifierChar c = true) :
      ∀ c ∈ s.toList, decide (c = '.') = false := fun c mem => by
    have ne : c ≠ '.' := fun dot => by have := plain c mem; rw [dot] at this; cases this
    simpa using ne
  obtain ⟨c, rest, chars, -⟩ := shape_of_isExtension extension
  obtain ⟨c', rest', chars', -⟩ := shape_of_isExtension extension'
  have dot : (fun c : Char => decide (c = '.')) '.' = true := rfl
  have cut := congrArg (fun s => splitAt (· = '.') s.toList) same
  simp only [String.toList_append, chars, chars', splitAt_append_sep dot _ _ (clean plain),
    splitAt_append_sep dot _ _ (clean plain')] at cut
  have stems : stem = stem' := String.toList_inj.1 (List.cons.inj cut).1
  subst stems
  rw [← String.toList_inj, String.toList_append, String.toList_append,
    List.append_cancel_left_eq, String.toList_inj] at same
  exact ⟨rfl, same⟩

theorem isLeaf_append_extension : Path.IsLeaf (stem ++ suffix) := by
  obtain ⟨c, rest, chars, proper⟩ := shape_of_isExtension extension
  constructor
  · rw [← String.ofList_toList (s := stem ++ suffix), Path.isName_ofList, String.toList_append,
      chars]
    refine ⟨by simp, fun lone => ?_⟩
    have long := congrArg List.length lone
    simp only [List.length_append, List.length_cons, List.length_nil] at long
    omega
  · rw [String.toList_append, chars, List.mem_append, not_or]
    refine ⟨fun slash => ?_, fun slash => ?_⟩
    · have := plain _ slash
      cases this
    · rcases List.mem_cons.1 slash with dot | later
      · cases dot
      · exact (proper _ later).2.1 rfl

/-- No such name is that of a stamp. -/
theorem append_extension_ne_stamp :
    stem ++ suffix ≠ Product.ignoreFileName ∧ stem ++ suffix ≠ Product.versionFileName := by
  obtain ⟨c, rest, chars, proper⟩ := shape_of_isExtension extension
  constructor
  · intro same
    have hyphen : '-' ∈ (stem ++ suffix).toList := by rw [same]; decide
    rw [String.toList_append, chars, List.mem_append] at hyphen
    rcases hyphen with inStem | inSuffix
    · have := plain _ inStem
      cases this
    · rcases List.mem_cons.1 inSuffix with dot | later
      · cases dot
      · exact (proper _ later).2.2 rfl
  · intro same
    have dot : '.' ∈ (stem ++ suffix).toList := by rw [String.toList_append, chars]; simp
    rw [same] at dot
    revert dot
    decide

end Names

/-! ## Forms -/

/-- What a file has to do with what it is made for. -/
inductive Form where
  | source
  | test
  | documentation
deriving DecidableEq

namespace Form

def category : Form → FileCategory
  | .source => .source
  | .test => .test
  | .documentation => .documentation

/-- The name of a file for a type, without its suffix. -/
def stem (typeName : String) : Form → String
  | .source => snakeCase typeName
  | .test => snakeCase typeName ++ "_test"
  | .documentation => typeName

/-- The order in which files are made for one thing. -/
def Before : Form → Form → Prop
  | .source, .test => True
  | .source, .documentation => True
  | .test, .documentation => True
  | _, _ => False

/-- Forms that are made where they are asked for come in order. -/
theorem pairwise_before (a b c : Prop) [Decidable a] [Decidable b] [Decidable c] :
    ((if a then [] else [source]) ++ (if b then [test] else [])
      ++ (if c then [documentation] else [])).Pairwise Before := by
  have all : [source, test, documentation].Pairwise Before := by
    simp [Before]
  refine all.sublist (((List.Sublist.append ?_ ?_).append ?_ :
    List.Sublist _ (([source] ++ [test]) ++ [documentation])))
  · split <;> simp
  · split <;> simp
  · split <;> simp

/-- The files of two types in these forms are called alike. -/
def Meets (X Y : String) : Form → Form → Prop
  | .source, .source => X = Y
  | .test, .test => X = Y
  | .documentation, .documentation => X = Y
  | .test, .source => X ≠ "" ∧ Y = X ++ "Test"
  | .source, .test => Y ≠ "" ∧ X = Y ++ "Test"
  | .source, .documentation => X = Y ∧ ∀ c ∈ X.toList, isUpper c = false
  | .documentation, .source => X = Y ∧ ∀ c ∈ X.toList, isUpper c = false
  | .test, .documentation => False
  | .documentation, .test => False

theorem ne_append_test (X : String) : X ≠ X ++ "Test" := by
  intro same
  have length := congrArg (fun s => s.toList.length) same
  simp at length

variable {X Y : String} (name : IsTypeName X) (name' : IsTypeName Y)
include name name'

theorem snakeCase_eq_iff : snakeCase X = snakeCase Y ↔ X = Y :=
  ⟨snakeCase_inj name name', congrArg _⟩

/-- The source of a type is called like the test of another where the type is. -/
theorem test_eq_source_iff :
    snakeCase X ++ "_test" = snakeCase Y ↔ X ≠ "" ∧ Y = X ++ "Test" := by
  have longer : IsTypeName (X ++ "Test") := name.append isTypeName_test
  constructor
  · intro same
    have ne : X ≠ "" := by
      rintro rfl
      refine head?_snakeCase name'.alnum ?_
      rw [← same]
      decide
    have behind := snakeCase_append name.alnum isTypeName_test.alnum ne
    refine ⟨ne, snakeCase_inj name' longer ?_⟩
    rw [behind, ← same]
    rfl
  · rintro ⟨ne, rfl⟩
    rw [snakeCase_append name.alnum isTypeName_test.alnum ne]
    rfl

/-- The source of a type is called like the documentation of one where that is the type
itself and has no capitals. -/
theorem source_eq_documentation_iff :
    snakeCase X = Y ↔ X = Y ∧ ∀ c ∈ X.toList, isUpper c = false := by
  constructor
  · intro same
    have small : ∀ c ∈ Y.toList, isUpper c = false := fun c mem =>
      (mem_snakeCase name.alnum (same.symm ▸ mem)).2
    have itself : X = Y := by
      refine snakeCase_inj name name' ?_
      rw [snakeCase_of_no_capital name'.alnum small, same]
    exact ⟨itself, itself ▸ small⟩
  · rintro ⟨rfl, small⟩
    exact snakeCase_of_no_capital name.alnum small

omit name in
theorem test_ne_documentation : snakeCase X ++ "_test" ≠ Y := by
  rintro rfl
  have underscore : '_' ∈ (snakeCase X ++ "_test").toList := by
    rw [String.toList_append]
    exact List.mem_append_right _ (by decide)
  exact ne_underscore (name'.alnum _ underscore) rfl

/-- **When files of two types are called alike.** -/
theorem stem_eq_iff (f g : Form) : f.stem X = g.stem Y ↔ f.Meets X Y g := by
  cases f <;> cases g
  case source.source => exact snakeCase_eq_iff name name'
  case source.test => exact eq_comm.trans (test_eq_source_iff name' name)
  case source.documentation => exact source_eq_documentation_iff name name'
  case test.source => exact test_eq_source_iff name name'
  case test.test =>
      simp only [stem, Meets, ← snakeCase_eq_iff name name', ← String.toList_inj,
        String.toList_append, List.append_cancel_right_eq]
  case test.documentation => exact iff_of_false (test_ne_documentation name') id
  case documentation.source =>
      refine eq_comm.trans ((source_eq_documentation_iff name' name).trans ?_)
      constructor
      · rintro ⟨rfl, small⟩
        exact ⟨rfl, small⟩
      · rintro ⟨rfl, small⟩
        exact ⟨rfl, small⟩
  case documentation.test =>
      exact iff_of_false (fun same => test_ne_documentation name same.symm) id
  case documentation.documentation => exact Iff.rfl

omit name' in
theorem isIdentifierChar_of_mem_stem (f : Form) :
    ∀ c ∈ (f.stem X).toList, isIdentifierChar c = true := by
  intro c mem
  cases f with
  | source => exact (mem_snakeCase name.alnum mem).1
  | test =>
      rw [stem, String.toList_append, List.mem_append] at mem
      rcases mem with front | back
      · exact (mem_snakeCase name.alnum front).1
      · have small : "_test".toList.all isIdentifierChar = true := by decide
        exact List.all_eq_true.1 small c back
  | documentation => exact isIdentifierChar_of_isAlphanumeric (name.alnum c mem)

end Form

end ApiForge
