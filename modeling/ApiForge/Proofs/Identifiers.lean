import ApiForge.Backend.ManifestBackend
import ApiForge.Models.Build
import ApiForge.Proofs.Naming
import ApiForge.Proofs.Operations.GroupContext
/-
# ApiForge.Proofs.Identifiers -- which names of types are identifiers

A type name holds the words of a name, each with a capital in front.  Words consist of ASCII
letters and digits, and whatever lies between them falls away (`Naming.toList_typeName`), so a
type name stays as it is when a type name is made of it (`Naming.typeName_typeName`).

An identifier has no digit in front.  `Text.toIdentifier` sees to that with an underscore, but
it comes before camel case, for which the underscore is a gap between words like any other.
A type name therefore starts with what the name starts with: it is an identifier exactly where
the first letter or digit of the name is a letter, and the type name of a group exactly where
it is no digit (`Naming.isIdentifier_classname_iff`, `Naming.digit_comes_to_the_front`).
-/

namespace ApiForge

set_option autoImplicit false

namespace Text

/-! ## Words of a name -/

/-- What comes before the words of a name, between them and after them. -/
def isWordBreak (c : Char) : Bool := !isAlphanumeric c

/-- A text is cut at the same places after a change that makes separators of separators and
leaves the rest alone. -/
theorem splitAt_map {sep sep' : Char → Bool} {f : Char → Char}
    (seps : ∀ c, sep' (f c) = sep c) (others : ∀ c, sep c = false → f c = c) (s : List Char) :
    splitAt sep' (s.map f) = splitAt sep s := by
  induction s with
  | nil => rfl
  | cons c rest ih =>
      simp only [List.map_cons, splitAt, seps, ih]
      split
      · rfl
      · rename_i kept
        rw [others c (by simpa using kept)]

/-- What stands in an identifier for a character of a name. -/
theorem isWordGap_mask (c : Char) :
    isWordGap (if isIdentifierChar c then c else '_') = isWordBreak c := by
  by_cases alnum : isAlphanumeric c = true
  · rw [if_pos (isIdentifierChar_of_isAlphanumeric alnum), isWordGap_of_isAlphanumeric alnum,
      isWordBreak, alnum]
    rfl
  · have masked : (if isIdentifierChar c then c else '_') = '_' := by
      split
      · rename_i ok
        exact Decidable.byContradiction fun ne => alnum (isAlphanumeric_of_isIdentifierChar ok ne)
      · rfl
    rw [masked, isWordBreak, (Bool.not_eq_true _).mp alnum]
    rfl

theorem mask_of_not_isWordBreak (c : Char) (word : isWordBreak c = false) :
    (if isIdentifierChar c then c else '_') = c :=
  if_pos (isIdentifierChar_of_isAlphanumeric (by simpa [isWordBreak] using word))

/-- The words of an identifier are those of the name that it is made of; an underscore that is
put in front goes again. -/
theorem camelCaseChars_toIdentifierChars (s : List Char) :
    camelCaseChars (toIdentifierChars s) = (splitAt isWordBreak s).flatMap capitalize := by
  have words := splitAt_map isWordGap_mask mask_of_not_isWordBreak s
  rw [camelCaseChars, ← words, toIdentifierChars]
  cases s.map fun c => if isIdentifierChar c then c else '_' with
  | nil => rfl
  | cons c rest =>
      simp only
      split
      · rw [splitAt, if_pos (show isWordGap '_' = true from rfl), List.flatMap_cons]
        rfl
      · rfl

/-- The first ASCII letter or digit of a name. -/
def firstAlphanumeric? (s : String) : Option Char := s.toList.find? isAlphanumeric

theorem head?_flatMap_capitalize (s : List Char) :
    ((splitAt isWordBreak s).flatMap capitalize).head? = (s.find? isAlphanumeric).map asciiUpper := by
  induction s with
  | nil => rfl
  | cons c rest ih =>
      by_cases alnum : isAlphanumeric c = true
      · obtain ⟨word, words, cut⟩ :=
          List.exists_cons_of_ne_nil (splitAt_ne_nil isWordBreak rest)
        simp [splitAt, isWordBreak, alnum, cut, capitalize, upper_eq alnum]
      · rw [List.find?_cons_of_neg alnum, ← ih]
        simp [splitAt, isWordBreak, alnum, capitalize]

/-- An identifier of letters and digits starts with a letter. -/
theorem isIdentifier_iff_of_alphanumeric {s : List Char}
    (alnum : ∀ c ∈ s, isAlphanumeric c = true) :
    IsIdentifier s ↔ ∃ c, s.head? = some c ∧ isAsciiLetter c = true := by
  cases s with
  | nil => simp [IsIdentifier]
  | cons c rest =>
      have here := alnum c List.mem_cons_self
      have all : ∀ d ∈ c :: rest, isIdentifierChar d = true :=
        fun d mem => isIdentifierChar_of_isAlphanumeric (alnum d mem)
      have kinds : isAsciiDigit c = false ↔ isAsciiLetter c = true :=
        forall_alphanumeric (P := fun c => isAsciiDigit c = false ↔ isAsciiLetter c = true)
          (by decide) here
      simp only [IsIdentifier, ne_eq, reduceCtorEq, not_false_eq_true, List.head?_cons,
        Option.some.injEq, true_and, forall_eq', exists_eq_left', kinds]
      exact and_iff_right all

theorem isAsciiLetter_asciiUpper {c : Char} (alnum : isAlphanumeric c = true) :
    isAsciiLetter (asciiUpper c) = isAsciiLetter c :=
  forall_alphanumeric (P := fun c => isAsciiLetter (asciiUpper c) = isAsciiLetter c)
    (by decide) alnum

end Text

namespace Naming

open Text

/-! ## Type names -/

/-- **A type name holds the words of a name, each with a capital in front.** -/
theorem toList_typeName (s : String) :
    (typeName s).toList = (splitAt isWordBreak s.toList).flatMap capitalize := by
  rw [typeName, camelCase, toIdentifier, String.toList_ofList, String.toList_ofList,
    camelCaseChars_toIdentifierChars]

/-- A type name starts with what the name starts with. -/
theorem head?_typeName (s : String) :
    (typeName s).toList.head? = (firstAlphanumeric? s).map asciiUpper := by
  rw [toList_typeName, head?_flatMap_capitalize, firstAlphanumeric?]

/-- **The type name of a type name is the type name itself.** -/
theorem typeName_of_isTypeName {s : String} (name : IsTypeName s) : typeName s = s := by
  have whole : splitAt isWordBreak s.toList = [s.toList] :=
    splitAt_of_clean _ fun c mem => by simp [isWordBreak, name.alnum c mem]
  have kept := congrArg String.toList (camelCase_of_isTypeName name)
  have gaps : splitAt isWordGap s.toList = [s.toList] :=
    splitAt_of_clean _ fun c mem => isWordGap_of_isAlphanumeric (name.alnum c mem)
  rw [camelCase, String.toList_ofList, camelCaseChars, gaps] at kept
  rw [← String.toList_inj, toList_typeName, whole, kept]

theorem typeName_typeName (s : String) : typeName (typeName s) = typeName s :=
  typeName_of_isTypeName (isTypeName_typeName s)

theorem append_api_ne_empty (stem : String) : stem ++ "Api" ≠ "" := by
  intro empty
  have chars := congrArg String.toList empty
  rw [String.toList_append] at chars
  exact absurd (List.append_eq_nil_iff.1 chars).2 (by decide)

theorem isIdentifier_typeName_iff (s : String) : IsIdentifier (typeName s).toList ↔
    ∃ c, firstAlphanumeric? s = some c ∧ isAsciiLetter c = true := by
  rw [isIdentifier_iff_of_alphanumeric (isTypeName_typeName s).alnum, head?_typeName]
  cases first : firstAlphanumeric? s with
  | none => simp
  | some c => simp [isAsciiLetter_asciiUpper (List.find?_some first)]

/-- What comes before `Api` starts with what the tag starts with, if it has a letter or a
digit at all. -/
theorem isIdentifier_apiTypeName_iff (s : String) :
    IsIdentifier (apiTypeName (typeName s)).toList ↔
      ∀ c, firstAlphanumeric? s = some c → isAsciiLetter c = true := by
  have name := isTypeName_typeName s
  have front := head?_typeName s
  rw [isIdentifier_iff_of_alphanumeric (isTypeName_apiTypeName name).alnum, apiTypeName_eq name,
    String.toList_append, List.head?_append, apiStem]
  cases first : firstAlphanumeric? s with
  | none =>
      have empty : typeName s = "" := by simpa [first] using front
      rw [if_pos empty]
      exact iff_of_true ⟨'D', rfl, rfl⟩ (by simp)
  | some c =>
      have nonempty : typeName s ≠ "" := by
        intro empty
        rw [empty, first] at front
        cases front
      rw [if_neg nonempty, front, first]
      simp [isAsciiLetter_asciiUpper (List.find?_some first)]

end Naming

/-! ## Class names in contexts -/

/-- The class name in the context of a model is that of the schema, unless a property of that
name takes its place. -/
theorem TableModel.get?_classname_of_contextFor {backend : Backend} {properties : Dict Json}
    {model : ModelProjection} {name : String} {schema : Json} {context : Context}
    (made : contextFor backend properties model name schema = .ok context) :
    context.get? Key.classname = (properties.get? Key.classname).or
      (some (.str (backend.naming.modelName name))) := by
  obtain ⟨hooked, -, rfl⟩ := map_eq_ok_iff.1 made
  rw [Dict.get?_extend, Dict.get?_insert_self]

/-- The class name in the context of a group is that of its API. -/
theorem GroupContext.get?_classname_of_build {backend : Backend} {tag : String}
    {operations : List OperationProjection} {models : List Json} {run : RunInfo}
    {context : Context} (built : build backend tag operations models run = .ok context) :
    context.get? Key.classname = some (.str (backend.naming.apiName tag)) := by
  obtain ⟨first, -, built⟩ := bind_eq_ok_iff.1 built
  obtain ⟨second, -, same⟩ := bind_eq_ok_iff.1 built
  cases same
  rw [Dict.get?_extend, get?_fixedEntries_classname, Option.some_or]

namespace Naming

open Text

/-- Types are named the usual way, whatever files are called. -/
structure NamesTypes (n : Naming) : Prop where
  modelName : n.modelName = standard.modelName
  apiName : n.apiName = standard.apiName
  sanitizeTag : n.sanitizeTag = standard.sanitizeTag

/-- **Class names consist of ASCII letters and digits, and they are identifiers where the name
of the schema or of the tag does not start with a digit.**  That of a model also needs a letter
in the name; that of a group is never empty. -/
theorem isIdentifier_classname_iff {backend : Backend} (usual : backend.naming.NamesTypes)
    (schema tag : String) :
    ((∀ c ∈ (backend.naming.modelName schema).toList, isAlphanumeric c = true) ∧
      (IsIdentifier (backend.naming.modelName schema).toList ↔
        ∃ c, firstAlphanumeric? schema = some c ∧ isAsciiLetter c = true) ∧
      ∀ properties model value context,
        TableModel.contextFor backend properties model schema value = .ok context →
        context.get? Key.classname = (properties.get? Key.classname).or
          (some (.str (backend.naming.modelName schema)))) ∧
    (∀ c ∈ (backend.naming.apiName (backend.naming.sanitizeTag tag)).toList,
        isAlphanumeric c = true) ∧
      backend.naming.apiName (backend.naming.sanitizeTag tag) ≠ "" ∧
      (IsIdentifier (backend.naming.apiName (backend.naming.sanitizeTag tag)).toList ↔
        ∀ c, firstAlphanumeric? tag = some c → isAsciiLetter c = true) ∧
      ∀ operations models run context,
        GroupContext.build backend (backend.naming.sanitizeTag tag) operations models run
          = .ok context →
        context.get? Key.classname
          = some (.str (backend.naming.apiName (backend.naming.sanitizeTag tag))) := by
  have model : backend.naming.modelName = typeName := usual.modelName
  have api : backend.naming.apiName = apiTypeName := usual.apiName
  have key : backend.naming.sanitizeTag = typeName := usual.sanitizeTag
  have name := isTypeName_typeName tag
  refine ⟨⟨?_, ?_, fun _ _ _ _ => TableModel.get?_classname_of_contextFor⟩, ?_, ?_, ?_,
    fun _ _ _ _ => GroupContext.get?_classname_of_build⟩
  · rw [model]
    exact (isTypeName_typeName schema).alnum
  · rw [model]
    exact isIdentifier_typeName_iff schema
  · rw [api, key]
    exact (isTypeName_apiTypeName name).alnum
  · rw [api, key, apiTypeName_eq name]
    exact append_api_ne_empty _
  · rw [api, key]
    exact isIdentifier_apiTypeName_iff tag

/-- The backend of a manifest names types the usual way, whatever the manifest says. -/
theorem namesTypes_of_manifest (b : ManifestBackend) : b.toBackend.naming.NamesTypes :=
  ⟨rfl, rfl, rfl⟩

theorem isIdentifier_classname_iff_of_pets :
    (ManifestBackend.toBackend ⟨.standard, ⟨""⟩, none⟩).naming.NamesTypes ∧
      IsIdentifier (typeName "-pet 2").toList ∧
      IsIdentifier (apiTypeName (typeName "größe")).toList := by
  have usual := namesTypes_of_manifest ⟨.standard, ⟨""⟩, none⟩
  obtain ⟨⟨-, model, -⟩, -, -, group, -⟩ := isIdentifier_classname_iff usual "-pet 2" "größe"
  refine ⟨usual, model.2 ⟨'p', by decide, by decide⟩, group.2 fun c first => ?_⟩
  have g : firstAlphanumeric? "größe" = some 'g' := by decide
  rw [g] at first
  cases first
  decide

/-- **The underscore in front of a digit does not stay, and a name without letters and digits
leaves nothing.** -/
theorem digit_comes_to_the_front :
    toIdentifier "1st" = "_1st" ∧ standard.modelName "1st" = "1st" ∧
      ¬ IsIdentifier (standard.modelName "1st").toList ∧
      standard.modelName "-" = "" ∧ ¬ IsIdentifier (standard.modelName "-").toList ∧
      standard.apiName (standard.sanitizeTag "2fa") = "2faApi" ∧
      ¬ IsIdentifier (standard.apiName (standard.sanitizeTag "2fa")).toList := by
  decide

end Naming

end ApiForge
