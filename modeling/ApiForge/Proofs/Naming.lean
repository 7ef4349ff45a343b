import ApiForge.Backend
import ApiForge.Proofs.Path
/-
# ApiForge.Proofs.Naming -- the names of types and of their files

Whatever a schema or a tag is called, its type name consists of ASCII letters and digits and
has no small letter in front (`Text.IsTypeName`).  On such names camel case changes nothing,
and snake case puts the small letter for the first character and an underscore and the small
letter for every later capital (`Text.toList_snakeCase`).  Nothing is lost that way: the name
of a type can be read off its snake case (`Text.typeNameOfSnakeCase_snakeCase`).
-/

namespace ApiForge

set_option autoImplicit false

namespace Text

/-! ## ASCII letters and digits -/

/-- An ASCII letter or digit. -/
def isAlphanumeric (c : Char) : Bool := isAsciiLetter c || isAsciiDigit c

theorem ascii_of_isAlphanumeric {c : Char} (alnum : isAlphanumeric c = true) : c.toNat < 128 := by
  simp only [isAlphanumeric, isAsciiLetter, isAsciiDigit, Bool.or_eq_true, Bool.and_eq_true,
    decide_eq_true_eq, Char.le_def, UInt32.le_iff_toNat_le] at alnum
  have small : 'z'.val.toNat = 122 := rfl
  have capital : 'Z'.val.toNat = 90 := rfl
  have digit : '9'.val.toNat = 57 := rfl
  have code : c.toNat = c.val.toNat := rfl
  omega

/-- What holds of all ASCII letters and digits can be tried out. -/
theorem forall_alphanumeric {P : Char → Prop}
    (all : ∀ n : Fin 128, isAlphanumeric (Char.ofNat n) = true → P (Char.ofNat n)) {c : Char}
    (alnum : isAlphanumeric c = true) : P c := by
  have tried := all ⟨c.toNat, ascii_of_isAlphanumeric alnum⟩
  rw [Char.ofNat_toNat] at tried
  exact tried alnum

section Characters

variable {c : Char} (alnum : isAlphanumeric c = true)
include alnum

theorem isWordGap_of_isAlphanumeric : isWordGap c = false :=
  forall_alphanumeric (P := fun c => isWordGap c = false) (by decide) alnum

theorem isIdentifierChar_of_isAlphanumeric : isIdentifierChar c = true :=
  forall_alphanumeric (P := fun c => isIdentifierChar c = true) (by decide) alnum

theorem ne_underscore : c ≠ '_' :=
  forall_alphanumeric (P := fun c => c ≠ '_') (by decide) alnum

theorem upper_eq : upper c = [asciiUpper c] :=
  forall_alphanumeric (P := fun c => upper c = [asciiUpper c]) (by decide) alnum

theorem lower_eq : lower c = [asciiLower c] :=
  forall_alphanumeric (P := fun c => lower c = [asciiLower c]) (by decide) alnum

theorem isAlphanumeric_asciiUpper : isAlphanumeric (asciiUpper c) = true :=
  forall_alphanumeric (P := fun c => isAlphanumeric (asciiUpper c) = true) (by decide) alnum

theorem isAlphanumeric_asciiLower : isAlphanumeric (asciiLower c) = true :=
  forall_alphanumeric (P := fun c => isAlphanumeric (asciiLower c) = true) (by decide) alnum

theorem isLower_asciiUpper : isLower (asciiUpper c) = false :=
  forall_alphanumeric (P := fun c => isLower (asciiUpper c) = false) (by decide) alnum

theorem isUpper_asciiLower : isUpper (asciiLower c) = false :=
  forall_alphanumeric (P := fun c => isUpper (asciiLower c) = false) (by decide) alnum

theorem asciiUpper_of_not_small (notSmall : isLower c = false) : asciiUpper c = c :=
  forall_alphanumeric (P := fun c => isLower c = false → asciiUpper c = c) (by decide) alnum
    notSmall

theorem asciiUpper_asciiLower (notSmall : isLower c = false) : asciiUpper (asciiLower c) = c :=
  forall_alphanumeric (P := fun c => isLower c = false → asciiUpper (asciiLower c) = c)
    (by decide) alnum notSmall

theorem not_small_of_isUpper (capital : isUpper c = true) : isLower c = false :=
  forall_alphanumeric (P := fun c => isUpper c = true → isLower c = false) (by decide) alnum
    capital

theorem asciiLower_of_not_capital (notCapital : isUpper c = false) : asciiLower c = c :=
  forall_alphanumeric (P := fun c => isUpper c = false → asciiLower c = c) (by decide) alnum
    notCapital

theorem small_or_digit (notCapital : isUpper c = false) :
    (isLower c || isAsciiDigit c) = true :=
  forall_alphanumeric
    (P := fun c => isUpper c = false → (isLower c || isAsciiDigit c) = true) (by decide) alnum
    notCapital

end Characters

/-- A number is written in digits. -/
theorem isAsciiDigit_of_mem_toDigits {n : Nat} {c : Char} (mem : c ∈ Nat.toDigits 10 n) :
    isAsciiDigit c = true := by
  have digit := Nat.isDigit_of_mem_toDigits (by decide) (by decide) mem
  simpa [isAsciiDigit, Char.isDigit, Char.le_def] using digit

theorem isAlphanumeric_of_isIdentifierChar {c : Char} (ok : isIdentifierChar c = true)
    (ne : c ≠ '_') : isAlphanumeric c = true := by
  simpa [isIdentifierChar, isAlphanumeric, ne] using ok

/-! ## Type names -/

theorem not_append_lt (s t : String) : ¬ s ++ t < s := by
  show ¬ (s ++ t).toList < s.toList
  rw [String.toList_append]
  exact List.IsPrefix.le (List.prefix_append _ _)

/-- ASCII letters and digits, with no small letter in front. -/
structure IsTypeName (s : String) : Prop where
  alnum : ∀ c ∈ s.toList, isAlphanumeric c = true
  capital : ∀ c, s.toList.head? = some c → isLower c = false

theorem IsTypeName.append {s t : String} (first : IsTypeName s) (second : IsTypeName t) :
    IsTypeName (s ++ t) := by
  constructor
  · intro c mem
    rw [String.toList_append, List.mem_append] at mem
    exact mem.elim (first.alnum c) (second.alnum c)
  · intro c front
    rw [String.toList_append, List.head?_append] at front
    cases head : s.toList.head? with
    | some d =>
        rw [head] at front
        cases front
        exact first.capital c head
    | none =>
        rw [head, Option.none_or] at front
        exact second.capital c front

theorem isTypeName_of_all {s : String} (alnum : s.toList.all isAlphanumeric = true)
    (capital : (s.toList.head?.all fun c => !isLower c) = true) : IsTypeName s :=
  ⟨List.all_eq_true.1 alnum, fun c front => by simpa [front] using capital⟩

theorem isTypeName_test : IsTypeName "Test" := isTypeName_of_all (by decide) (by decide)

theorem isTypeName_api : IsTypeName "Api" := isTypeName_of_all (by decide) (by decide)

theorem isTypeName_default : IsTypeName "Default" := isTypeName_of_all (by decide) (by decide)

theorem isTypeName_capitalize {piece : List Char}
    (alnum : ∀ c ∈ piece, isAlphanumeric c = true) :
    IsTypeName (String.ofList (capitalize piece)) := by
  cases piece with
  | nil => exact ⟨by simp [capitalize], by simp [capitalize]⟩
  | cons c rest =>
      have here := alnum c List.mem_cons_self
      constructor
      · simp only [capitalize, upper_eq here, String.toList_ofList, List.singleton_append,
          List.forall_mem_cons]
        exact ⟨isAlphanumeric_asciiUpper here, fun d mem => alnum d (List.mem_cons_of_mem _ mem)⟩
      · simp only [capitalize, upper_eq here, String.toList_ofList, List.singleton_append,
          List.head?_cons, Option.some.injEq]
        rintro _ rfl
        exact isLower_asciiUpper here

/-- Camel case makes type names of what may stand in an identifier. -/
theorem isTypeName_camelCase {s : String} (ok : ∀ c ∈ s.toList, isIdentifierChar c = true) :
    IsTypeName (camelCase s) := by
  have pieces : ∀ piece ∈ splitAt isWordGap s.toList, ∀ c ∈ piece,
      isAlphanumeric c = true := by
    intro piece mem c inPiece
    refine isAlphanumeric_of_isIdentifierChar (ok c (mem_of_mem_splitAt mem inPiece)) ?_
    rintro rfl
    have gap := not_sep_of_mem_splitAt mem inPiece
    cases gap
  rw [camelCase, camelCaseChars]
  generalize splitAt isWordGap s.toList = cut at pieces
  induction cut with
  | nil => exact ⟨by simp, by simp⟩
  | cons piece rest ih =>
      have tail := ih fun p mem => pieces p (List.mem_cons_of_mem _ mem)
      rw [List.flatMap_cons, String.ofList_append]
      exact (isTypeName_capitalize (pieces piece List.mem_cons_self)).append tail

/-- **Camel case leaves a type name as it is.** -/
theorem camelCase_of_isTypeName {s : String} (name : IsTypeName s) : camelCase s = s := by
  have whole : splitAt isWordGap s.toList = [s.toList] :=
    splitAt_of_clean _ fun c mem => isWordGap_of_isAlphanumeric (name.alnum c mem)
  rw [camelCase, camelCaseChars, whole, List.flatMap_singleton, ← String.toList_inj,
    String.toList_ofList]
  cases chars : s.toList with
  | nil => rfl
  | cons c rest =>
      have here := name.alnum c (by simp [chars])
      have notSmall := name.capital c (by simp [chars])
      rw [capitalize, upper_eq here, asciiUpper_of_not_small here notSmall]
      rfl

theorem isIdentifierChar_of_mem_toIdentifier {s : String} {c : Char}
    (mem : c ∈ (toIdentifier s).toList) : isIdentifierChar c = true := by
  have mapped : ∀ d ∈ s.toList.map fun c => if isIdentifierChar c then c else '_',
      isIdentifierChar d = true := by
    intro d inMap
    obtain ⟨e, -, rfl⟩ := List.mem_map.1 inMap
    split
    · assumption
    · rfl
  rw [toIdentifier, String.toList_ofList, toIdentifierChars] at mem
  split at mem
  · rw [List.mem_singleton.1 mem]
    rfl
  · rename_i d rest chars
    rw [chars] at mapped
    split at mem
    · rcases List.mem_cons.1 mem with rfl | later
      · rfl
      · exact mapped c later
    · exact mapped c mem

/-! ## Snake case -/

/-- What snake case makes of a character that is not the first. -/
def snakePiece (c : Char) : List Char := if isUpper c then ['_', asciiLower c] else [c]

theorem snakeStep_eq {c : Char} (alnum : isAlphanumeric c = true) (done : List Char) :
    snakeStep done c = if isUpper c then asciiLower c :: closeWord done else c :: done := by
  rw [snakeStep]
  split
  · rw [lower_eq alnum]
    rfl
  · rename_i notCapital
    have kept := small_or_digit alnum (by simpa using notCapital)
    rw [if_pos (by simp only [kept, Bool.true_or])]

/-- After a letter or a digit, every character adds its piece. -/
theorem foldl_snakeStep {s : List Char} (alnum : ∀ c ∈ s, isAlphanumeric c = true) {d : Char}
    {done : List Char} (before : d ≠ '_') :
    s.foldl snakeStep (d :: done) = (s.flatMap snakePiece).reverse ++ d :: done := by
  induction s generalizing d done with
  | nil => rfl
  | cons c rest ih =>
      have here := alnum c List.mem_cons_self
      have later : ∀ x ∈ rest, isAlphanumeric x = true :=
        fun x mem => alnum x (List.mem_cons_of_mem _ mem)
      rw [List.foldl_cons, snakeStep_eq here, List.flatMap_cons, snakePiece]
      by_cases capital : isUpper c = true
      · have new := ne_underscore (isAlphanumeric_asciiLower here)
        rw [if_pos capital, if_pos capital, closeWord, if_neg before, ih later new]
        simp
      · rw [if_neg capital, if_neg capital, ih later (ne_underscore here)]
        simp

/-- **Snake case puts the small letter for the first character, and an underscore and the
small letter for every later capital.** -/
theorem toList_snakeCase {s : String} (alnum : ∀ c ∈ s.toList, isAlphanumeric c = true) :
    (snakeCase s).toList = match s.toList with
      | [] => []
      | c :: rest => asciiLower c :: rest.flatMap snakePiece := by
  rw [snakeCase, String.toList_ofList, snakeCaseChars]
  cases chars : s.toList with
  | nil => rfl
  | cons c rest =>
      rw [chars] at alnum
      have here := alnum c List.mem_cons_self
      have first : snakeStep [] c = [asciiLower c] := by
        rw [snakeStep_eq here]
        split
        · rfl
        · rename_i notCapital
          rw [asciiLower_of_not_capital here (by simpa using notCapital)]
      rw [List.foldl_cons, first, foldl_snakeStep
        (fun x mem => alnum x (List.mem_cons_of_mem _ mem))
        (ne_underscore (isAlphanumeric_asciiLower here))]
      simp

/-- Take underscores away and put the capital for what stands behind them. -/
def rejoin : List Char → List Char
  | [] => []
  | [c] => [c]
  | c :: d :: rest => if c = '_' then asciiUpper d :: rejoin rest else c :: rejoin (d :: rest)

/-- The type name that a name in snake case stands for: it has the capital for the first
character and for every one behind an underscore. -/
def typeNameOfSnakeCase (s : String) : String :=
  String.ofList <| match s.toList with
    | [] => []
    | c :: rest => asciiUpper c :: rejoin rest

theorem rejoin_cons {c : Char} (ne : c ≠ '_') (rest : List Char) :
    rejoin (c :: rest) = c :: rejoin rest := by
  cases rest with
  | nil => rfl
  | cons d rest => rw [rejoin, if_neg ne]

theorem rejoin_flatMap_snakePiece {s : List Char} (alnum : ∀ c ∈ s, isAlphanumeric c = true) :
    rejoin (s.flatMap snakePiece) = s := by
  induction s with
  | nil => rfl
  | cons c rest ih =>
      have here := alnum c List.mem_cons_self
      have tail := ih fun x mem => alnum x (List.mem_cons_of_mem _ mem)
      rw [List.flatMap_cons, snakePiece]
      split
      · rename_i capital
        have back := asciiUpper_asciiLower here (not_small_of_isUpper here capital)
        rw [List.cons_append, List.cons_append, List.nil_append, rejoin, if_pos rfl, back, tail]
      · rw [List.cons_append, List.nil_append, rejoin_cons (ne_underscore here), tail]

/-- **A type name can be read off its snake case.** -/
theorem typeNameOfSnakeCase_snakeCase {s : String} (name : IsTypeName s) :
    typeNameOfSnakeCase (snakeCase s) = s := by
  rw [← String.toList_inj, typeNameOfSnakeCase, String.toList_ofList,
    toList_snakeCase name.alnum]
  obtain ⟨alnum, capital⟩ := name
  cases chars : s.toList with
  | nil => rfl
  | cons c rest =>
      rw [chars] at alnum capital
      simp only
      rw [asciiUpper_asciiLower (alnum c List.mem_cons_self) (capital c rfl),
        rejoin_flatMap_snakePiece fun x mem => alnum x (List.mem_cons_of_mem _ mem)]

/-- Type names with the same snake case are the same. -/
theorem snakeCase_inj {s t : String} (name : IsTypeName s) (name' : IsTypeName t)
    (same : snakeCase s = snakeCase t) : s = t := by
  rw [← typeNameOfSnakeCase_snakeCase name, same, typeNameOfSnakeCase_snakeCase name']

/-- What follows a name adds its pieces. -/
theorem snakeCase_append {s t : String} (alnum : ∀ c ∈ s.toList, isAlphanumeric c = true)
    (alnum' : ∀ c ∈ t.toList, isAlphanumeric c = true) (ne : s ≠ "") :
    snakeCase (s ++ t) = snakeCase s ++ String.ofList (t.toList.flatMap snakePiece) := by
  have whole : ∀ c ∈ (s ++ t).toList, isAlphanumeric c = true := by
    intro c mem
    rw [String.toList_append, List.mem_append] at mem
    exact mem.elim (alnum c) (alnum' c)
  rw [← String.toList_inj, toList_snakeCase whole, String.toList_append, String.toList_append,
    toList_snakeCase alnum, String.toList_ofList]
  cases chars : s.toList with
  | nil => exact absurd (String.toList_eq_nil_iff.1 chars) ne
  | cons c rest => simp

theorem mem_snakePiece {c d : Char} (alnum : isAlphanumeric c = true) (mem : d ∈ snakePiece c) :
    isIdentifierChar d = true ∧ isUpper d = false := by
  rw [snakePiece] at mem
  split at mem
  · rcases List.mem_cons.1 mem with rfl | last
    · exact ⟨rfl, rfl⟩
    · rw [List.mem_singleton.1 last]
      exact ⟨isIdentifierChar_of_isAlphanumeric (isAlphanumeric_asciiLower alnum),
        isUpper_asciiLower alnum⟩
  · rename_i notCapital
    rw [List.mem_singleton.1 mem]
    exact ⟨isIdentifierChar_of_isAlphanumeric alnum, by simpa using notCapital⟩

/-- Snake case consists of small letters, digits and underscores. -/
theorem mem_snakeCase {s : String} (alnum : ∀ c ∈ s.toList, isAlphanumeric c = true) {c : Char}
    (mem : c ∈ (snakeCase s).toList) : isIdentifierChar c = true ∧ isUpper c = false := by
  rw [toList_snakeCase alnum] at mem
  split at mem
  · cases mem
  · rename_i d rest chars
    rw [chars] at alnum
    rcases List.mem_cons.1 mem with rfl | later
    · have here := alnum d List.mem_cons_self
      exact ⟨isIdentifierChar_of_isAlphanumeric (isAlphanumeric_asciiLower here),
        isUpper_asciiLower here⟩
    · obtain ⟨e, inRest, inPiece⟩ := List.mem_flatMap.1 later
      exact mem_snakePiece (alnum e (List.mem_cons_of_mem _ inRest)) inPiece

theorem head?_snakeCase {s : String} (alnum : ∀ c ∈ s.toList, isAlphanumeric c = true) :
    (snakeCase s).toList.head? ≠ some '_' := by
  rw [toList_snakeCase alnum]
  split
  · simp
  · rename_i d rest chars
    have here := alnum d (by simp [chars])
    simpa using ne_underscore (isAlphanumeric_asciiLower here)

/-- Snake case leaves a name without capitals as it is. -/
theorem snakeCase_of_no_capital {s : String} (alnum : ∀ c ∈ s.toList, isAlphanumeric c = true)
    (none : ∀ c ∈ s.toList, isUpper c = false) : snakeCase s = s := by
  rw [← String.toList_inj, toList_snakeCase alnum]
  cases chars : s.toList with
  | nil => rfl
  | cons c rest =>
      rw [chars] at alnum none
      have pieces : rest.flatMap snakePiece = rest.flatMap fun c => [c] := by
        rw [List.flatMap_def, List.flatMap_def]
        refine congrArg List.flatten (List.map_congr_left fun d mem => ?_)
        rw [snakePiece, if_neg (by simp [none d (List.mem_cons_of_mem _ mem)])]
      simp [pieces, asciiLower_of_not_capital (alnum c List.mem_cons_self)
        (none c List.mem_cons_self)]

end Text

namespace Naming

open Text

/-! ## Models and groups -/

/-- **Whatever a schema or a tag is called, its type name is one.** -/
theorem isTypeName_typeName (s : String) : IsTypeName (typeName s) :=
  isTypeName_camelCase fun _ mem => isIdentifierChar_of_mem_toIdentifier mem

/-- What comes before `Api` in the type name of a group. -/
def apiStem (key : String) : String := if key = "" then "Default" else key

/-- The type name of the group of a sanitized tag. -/
theorem apiTypeName_eq {key : String} (name : IsTypeName key) :
    apiTypeName key = apiStem key ++ "Api" := by
  rw [apiTypeName, apiStem]
  by_cases empty : key = ""
  · rw [if_pos (String.isEmpty_iff.2 empty), if_pos empty]
    rfl
  · rw [if_neg (mt String.isEmpty_iff.1 empty), if_neg empty, camelCase_of_isTypeName name]

theorem isTypeName_apiStem {key : String} (name : IsTypeName key) : IsTypeName (apiStem key) := by
  rw [apiStem]
  split
  · exact isTypeName_default
  · exact name

theorem isTypeName_apiTypeName {key : String} (name : IsTypeName key) :
    IsTypeName (apiTypeName key) := by
  rw [apiTypeName_eq name]
  exact (isTypeName_apiStem name).append isTypeName_api

/-- Two groups have the same type name only where one is the group without a name and the
other is `Default`. -/
theorem apiTypeName_inj {a b : String} (name : IsTypeName a) (name' : IsTypeName b)
    (same : apiTypeName a = apiTypeName b) :
    a = b ∨ a = "" ∧ b = "Default" ∨ a = "Default" ∧ b = "" := by
  rw [apiTypeName_eq name, apiTypeName_eq name', ← String.toList_inj, String.toList_append,
    String.toList_append, List.append_cancel_right_eq, String.toList_inj, apiStem, apiStem] at same
  split at same <;> split at same
  · rename_i first second
    exact .inl (first.trans second.symm)
  · rename_i first second
    exact .inr (.inl ⟨first, same.symm⟩)
  · rename_i first second
    exact .inr (.inr ⟨same, second⟩)
  · exact .inl same

end Naming

end ApiForge
