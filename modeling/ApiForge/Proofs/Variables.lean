import ApiForge.Proofs.CommandLine.Arguments
import ApiForge.Proofs.Path
import ApiForge.Proofs.Text.Pieces
/-
# ApiForge.Proofs.Variables -- lists that are written into variables

A variable that asks for a category holds a flag or a list of names.  A list may be written in
any order, with names repeated, with blanks around them and with nothing between two commas
(`Lists`); it reads as the names that were written into it (`Config.splitList_of_lists`).  A
value is tried as a flag first.  A flag that is read as a list is a list of one name, so only a
list of the lone name `true` or `false` is taken for a flag (`Config.readSwitch_of_lists`).

What comes of a list is the standard configuration with the category on and narrowed down to
the names, and nothing else (`Category.ofVariables_lists`).
-/

namespace ApiForge

set_option autoImplicit false

open ApiForge.Text

/-! ## Lists as they are written -/

/-- A name that can stand in a list: more than blanks, without a comma, and without a blank at
either end. -/
structure IsListable (name : String) : Prop where
  visible : isBlankString name = false
  whole : ',' ∉ name.toList
  trimmed : trimString name = name

/-- Between two commas stands that name, with nothing but blanks around it. -/
def Holds (piece name : String) : Prop :=
  ∃ before after, isBlankString before = true ∧ isBlankString after = true ∧
    piece = before ++ name ++ after

/-- What stands between commas is a list of the names: each of them at least once, in any order
and with blanks around it, and nothing else that is more than blanks. -/
structure Lists (pieces : List String) (names : NameSet) : Prop where
  only : ∀ piece ∈ pieces, isBlankString piece = true ∨ ∃ name ∈ names, Holds piece name
  every : ∀ name ∈ names, ∃ piece ∈ pieces, Holds piece name

theorem isBlankString_iff {s : String} :
    isBlankString s = true ↔ ∀ c ∈ s.toList, isBlank c = true := List.all_eq_true

theorem trimString_of_isBlankString {s : String} (blank : isBlankString s = true) :
    trimString s = "" := by
  rw [trimString, trim_eq_nil_iff.2 (isBlankString_iff.1 blank)]

/-- A name that can stand in a list comes out of its piece. -/
theorem Holds.trimString_eq {piece name : String} (holds : Holds piece name)
    (listable : IsListable name) : trimString piece = name := by
  obtain ⟨before, after, front, back, rfl⟩ := holds
  rw [trimString, String.toList_append, String.toList_append,
    trim_append_blanks (isBlankString_iff.1 front) (isBlankString_iff.1 back)]
  exact listable.trimmed

theorem comma_notMem_of_isBlankString {s : String} (blank : isBlankString s = true) :
    ',' ∉ s.toList := fun comma => by
  have := isBlankString_iff.1 blank ',' comma
  cases this

theorem Holds.comma_notMem {piece name : String} (holds : Holds piece name)
    (listable : IsListable name) : ',' ∉ piece.toList := by
  obtain ⟨before, after, front, back, rfl⟩ := holds
  simp only [String.toList_append, List.mem_append, not_or]
  exact ⟨⟨comma_notMem_of_isBlankString front, listable.whole⟩,
    comma_notMem_of_isBlankString back⟩

namespace Config

theorem mem_splitList_iff {raw name : String} :
    name ∈ splitList raw ↔
      ∃ piece ∈ splitString (· = ',') raw, trimString piece = name ∧ name ≠ "" := by
  simp only [splitList, NameSet.mem_ofList, List.mem_filter, List.mem_map, Bool.not_eq_true',
    String.isEmpty_eq_false_iff]
  constructor
  · rintro ⟨⟨piece, mem, trimmed⟩, ne⟩
    exact ⟨piece, mem, trimmed, ne⟩
  · rintro ⟨piece, mem, trimmed, ne⟩
    exact ⟨⟨piece, mem, trimmed⟩, ne⟩

/-- Pieces without commas come out of the text that they are joined to. -/
theorem splitString_joinStrings {pieces : List String} (nonempty : pieces ≠ [])
    (whole : ∀ piece ∈ pieces, ',' ∉ piece.toList) :
    splitString (· = ',') (joinStrings "," pieces) = pieces := by
  rw [splitString, splitAt_joinStrings rfl nonempty whole, List.map_map]
  simp [Function.comp_def]

/-- **A list reads as the names that were written into it.** -/
theorem splitList_of_lists {pieces : List String} {names : NameSet} (lists : Lists pieces names)
    (nonempty : names ≠ .empty) (listable : ∀ name ∈ names, IsListable name) :
    splitList (joinStrings "," pieces) = names := by
  have whole : ∀ piece ∈ pieces, ',' ∉ piece.toList := by
    intro piece mem
    rcases lists.only piece mem with blank | ⟨name, inNames, holds⟩
    · exact comma_notMem_of_isBlankString blank
    · exact holds.comma_notMem (listable name inNames)
  have written : pieces ≠ [] := by
    rintro rfl
    refine nonempty (NameSet.ext_mem fun name => iff_of_false (fun mem => ?_) NameSet.not_mem_empty)
    obtain ⟨piece, inNone, -⟩ := lists.every name mem
    cases inNone
  refine NameSet.ext_mem fun name => ?_
  rw [mem_splitList_iff, splitString_joinStrings written whole]
  constructor
  · rintro ⟨piece, mem, rfl, ne⟩
    rcases lists.only piece mem with blank | ⟨name, inNames, holds⟩
    · exact absurd (trimString_of_isBlankString blank) ne
    · rwa [holds.trimString_eq (listable name inNames)]
  · intro mem
    obtain ⟨piece, inPieces, holds⟩ := lists.every name mem
    refine ⟨piece, inPieces, holds.trimString_eq (listable name mem), ?_⟩
    rintro rfl
    have := (listable _ mem).visible
    cases this

/-- Read as a flag, a value is one of two words up to case. -/
theorem readFlag_eq_some {raw : String} {on : Bool} (flag : readFlag raw = some on) :
    asciiLowerText (trimString raw) = if on then "true" else "false" := by
  simp only [readFlag] at flag
  split at flag
  · cases flag
    assumption
  · split at flag
    · cases flag
      assumption
    · cases flag

/-- A flag that is read as a list is a list of that word alone. -/
theorem splitList_of_readFlag {raw : String} {on : Bool} (flag : readFlag raw = some on) :
    splitList raw = .ofList [trimString raw] := by
  have word := readFlag_eq_some flag
  have whole : ',' ∉ raw.toList := by
    intro comma
    have inWord : asciiLower ',' ∈ (asciiLowerText (trimString raw)).toList := by
      rw [asciiLowerText, String.toList_ofList, trimString, String.toList_ofList]
      exact List.mem_map_of_mem (mem_trim comma rfl)
    rw [word] at inWord
    revert inWord
    cases on <;> decide
  have visible : trimString raw ≠ "" := by
    intro blank
    rw [blank] at word
    revert word
    cases on <;> decide
  have single : splitString (· = ',') raw = [raw] := by
    have clean : ∀ d ∈ raw.toList, decide (d = ',') = false := by
      intro d mem
      have ne : d ≠ ',' := fun comma => whole (comma ▸ mem)
      simpa using ne
    have alone : splitAt (· = ',') raw.toList = [raw.toList] := splitAt_of_clean _ clean
    rw [splitString, alone, List.map_singleton, String.ofList_toList]
  refine NameSet.ext_mem fun name => ?_
  rw [mem_splitList_iff, single, NameSet.mem_ofList]
  simp only [List.mem_singleton, exists_eq_left]
  constructor
  · exact fun ⟨trimmed, _⟩ => trimmed.symm
  · rintro rfl
    exact ⟨rfl, visible⟩

/-- **A list is not taken for a flag**, unless it is one of a single name that is called so. -/
theorem readSwitch_of_lists {pieces : List String} {names : NameSet} (lists : Lists pieces names)
    (nonempty : names ≠ .empty) (listable : ∀ name ∈ names, IsListable name)
    (noFlag : ∀ name, names = .ofList [name] →
      eqIgnoringAsciiCase name "true" = false ∧ eqIgnoringAsciiCase name "false" = false) :
    readSwitch (joinStrings "," pieces) = .list names := by
  have read := splitList_of_lists lists nonempty listable
  rw [readSwitch]
  cases flag : readFlag (joinStrings "," pieces) with
  | none => rw [read]
  | some on =>
      obtain ⟨notTrue, notFalse⟩ := noFlag _ (read.symm.trans (splitList_of_readFlag flag))
      have word := readFlag_eq_some flag
      cases on
      · rw [eqIgnoringAsciiCase, word] at notFalse
        exact absurd notFalse (by decide)
      · rw [eqIgnoringAsciiCase, word] at notTrue
        exact absurd notTrue (by decide)

end Config

/-! ## Categories -/

/-- The kinds of files that a list of names narrows down. -/
inductive Category where
  | apis
  | models
  | supportingFiles
deriving DecidableEq

namespace Category

def toggle : Category → Toggle
  | .apis => .apis
  | .models => .models
  | .supportingFiles => .supportingFiles

/-- The variable that asks for the category. -/
def variableName : Category → String
  | .apis => "BRRTR_GEN_APIS"
  | .models => "BRRTR_GEN_MODELS"
  | .supportingFiles => "BRRTR_GEN_SUPPORTING_FILES"

/-- The standard configuration with the category on and narrowed down to the names. -/
def narrowed (names : NameSet) : Category → Config
  | .apis => { Config.standard with
      propertyToggles := ToggleLayer.empty.set .apis (some true), apis := some names }
  | .models => { Config.standard with
      propertyToggles := ToggleLayer.empty.set .models (some true), models := some names }
  | .supportingFiles => { Config.standard with
      propertyToggles := ToggleLayer.empty.set .supportingFiles (some true)
      supportingFiles := some names }

/-- Does a run with this configuration want what the category has under the name? -/
def accepts (c : Config) (name : String) : Category → Bool
  | .apis => c.apiFilter.all (·.contains name)
  | .models => c.modelFilter.all (·.contains name)
  | .supportingFiles => c.wants name

/-- The only variable that is set. -/
def alone (variableName value : String) (other : String) : Option String :=
  if other = variableName then some value else none

theorem foldl_applyFlag_of_silent {lookup : String → Option String}
    {flags : List (String × Toggle)} (silent : ∀ v ∈ flags, lookup v.1 = none) (c : Config) :
    flags.foldl (Config.applyFlag lookup) c = c := by
  induction flags with
  | nil => rfl
  | cons v rest ih =>
      have same : Config.applyFlag lookup c v = c := by
        rw [Config.applyFlag, silent v List.mem_cons_self]
        rfl
      rw [List.foldl_cons, same, ih fun w mem => silent w (List.mem_cons_of_mem _ mem)]

theorem ofVariables_of_readSwitch (category : Category) {raw : String} {names : NameSet}
    (read : Config.readSwitch raw = .list names) :
    Config.ofVariables (alone category.variableName raw) = category.narrowed names := by
  have own : alone category.variableName raw category.variableName = some raw := if_pos rfl
  have others : ∀ name ≠ category.variableName, alone category.variableName raw name = none :=
    fun _ ne => if_neg ne
  generalize alone category.variableName raw = lookup at own others
  have ignore := others "BRRTR_GEN_IGNORE_FILE" (by cases category <;> decide)
  have metadata := others "BRRTR_GEN_METADATA" (by cases category <;> decide)
  have debug := others "BRRTR_GEN_DEBUG" (by cases category <;> decide)
  have flags (c : Config) : Config.flagVariables.foldl (Config.applyFlag lookup) c = c := by
    have apart : ∀ v ∈ Config.flagVariables, v.1 ≠ category.variableName := by
      cases category <;> decide
    exact foldl_applyFlag_of_silent (fun v mem => others v.1 (apart v mem)) c
  simp only [Config.ofVariables, flags, ignore, metadata, debug, Option.bind_none]
  cases category with
  | apis =>
      have models := others "BRRTR_GEN_MODELS" (by decide)
      have files := others "BRRTR_GEN_SUPPORTING_FILES" (by decide)
      simp only [variableName] at own
      simp only [own, models, files, Option.map_some, Option.map_none, Option.getD_some,
        Option.getD_none, read]
      rfl
  | models =>
      have apis := others "BRRTR_GEN_APIS" (by decide)
      have files := others "BRRTR_GEN_SUPPORTING_FILES" (by decide)
      simp only [variableName] at own
      simp only [own, apis, files, Option.map_some, Option.map_none, Option.getD_some,
        Option.getD_none, read]
      rfl
  | supportingFiles =>
      have apis := others "BRRTR_GEN_APIS" (by decide)
      have models := others "BRRTR_GEN_MODELS" (by decide)
      simp only [variableName] at own
      simp only [own, apis, models, Option.map_some, Option.map_none, Option.getD_some,
        Option.getD_none, read]
      rfl

/-- A category that is narrowed down to some names accepts these and no others. -/
theorem accepts_narrowed_iff (category : Category) {names : NameSet} (nonempty : names ≠ .empty)
    {name : String} : category.accepts (category.narrowed names) name = true ↔ name ∈ names := by
  have narrows : Config.narrowing (some names) = some names :=
    Config.narrowing_eq_some_iff.2 ⟨rfl, nonempty⟩
  rw [← NameSet.contains_iff]
  cases category with
  | apis => rw [accepts, Config.apiFilter, narrowed, narrows, Option.all_some]
  | models => rw [accepts, Config.modelFilter, narrowed, narrows, Option.all_some]
  | supportingFiles =>
      rw [accepts, Config.wants, narrowed, narrows, Config.standard, Bool.false_or]

/-- A category that is narrowed down is produced, whatever the backend prefers. -/
theorem get_resolve_narrowed (category : Category) (names : NameSet) (backend : Backend) :
    (Options.resolve (Job.toggleSources (category.narrowed names) backend)).get category.toggle
      = true := by
  have asked : (Job.toggleSources (category.narrowed names) backend).probe category.toggle
      = some true := by
    cases category <;> rfl
  rw [Options.get_resolve, asked, Option.getD_some]

/-- **A list in a variable asks for the names that were written into it.**  Whatever the order,
the repetitions, the blanks and the empty places of the list, the variable alone makes the
standard configuration with its category on and narrowed down to these names: the category is
produced, and exactly these names are accepted. -/
theorem ofVariables_lists (category : Category) {pieces : List String} {names : NameSet}
    (lists : Lists pieces names) (nonempty : names ≠ .empty)
    (listable : ∀ name ∈ names, IsListable name)
    (noFlag : ∀ name, names = .ofList [name] →
      eqIgnoringAsciiCase name "true" = false ∧ eqIgnoringAsciiCase name "false" = false) :
    let config := Config.ofVariables
      (alone category.variableName (joinStrings "," pieces))
    config = category.narrowed names ∧
      config.propertyToggles.get category.toggle = some true ∧
      (∀ backend,
        (Options.resolve (Job.toggleSources config backend)).get category.toggle = true) ∧
      ∀ name, category.accepts config name = true ↔ name ∈ names := by
  intro config
  have whole : config = category.narrowed names :=
    ofVariables_of_readSwitch category (Config.readSwitch_of_lists lists nonempty listable noFlag)
  rw [whole]
  refine ⟨rfl, ?_, category.get_resolve_narrowed names,
    fun name => category.accepts_narrowed_iff nonempty⟩
  cases category <;> rfl

/-- A name that would be a flag on its own, and one that is written twice, among blanks. -/
theorem ofVariables_lists_among_blanks :
    joinStrings "," [" TRUE\t", "", "a pet ", "  ", "\na pet"] = " TRUE\t,,a pet ,  ,\na pet" ∧
      Lists [" TRUE\t", "", "a pet ", "  ", "\na pet"] (.ofList ["a pet", "TRUE"]) ∧
      ∀ category : Category, ∀ name,
        category.accepts (Config.ofVariables
          (alone category.variableName " TRUE\t,,a pet ,  ,\na pet")) name = true ↔
        name = "a pet" ∨ name = "TRUE" := by
  have isName (name : String) :
      name ∈ NameSet.ofList ["a pet", "TRUE"] ↔ name = "a pet" ∨ name = "TRUE" := by
    rw [NameSet.mem_ofList, List.mem_cons, List.mem_singleton]
  have lists : Lists [" TRUE\t", "", "a pet ", "  ", "\na pet"] (.ofList ["a pet", "TRUE"]) := by
    have flag : Holds " TRUE\t" "TRUE" := ⟨" ", "\t", rfl, rfl, rfl⟩
    have first : Holds "a pet " "a pet" := ⟨"", " ", rfl, rfl, rfl⟩
    have second : Holds "\na pet" "a pet" := ⟨"\n", "", rfl, rfl, rfl⟩
    constructor
    · simp only [List.forall_mem_cons, isName]
      exact ⟨.inr ⟨_, .inr rfl, flag⟩, .inl rfl, .inr ⟨_, .inl rfl, first⟩, .inl rfl,
        .inr ⟨_, .inl rfl, second⟩, fun _ mem => nomatch mem⟩
    · intro name mem
      rcases (isName name).1 mem with rfl | rfl
      · exact ⟨_, by simp, first⟩
      · exact ⟨_, by simp, flag⟩
  have listable : ∀ name ∈ NameSet.ofList ["a pet", "TRUE"], IsListable name := by
    intro name mem
    rcases (isName name).1 mem with rfl | rfl <;> exact ⟨by decide, by decide, by decide⟩
  have several : ∀ name, NameSet.ofList ["a pet", "TRUE"] ≠ .ofList [name] := by
    intro name same
    have lone {other : String} (mem : other ∈ NameSet.ofList ["a pet", "TRUE"]) :
        other = name := by simpa [same] using mem
    exact absurd ((lone ((isName _).2 (.inl rfl))).trans (lone ((isName _).2 (.inr rfl))).symm)
      (by decide)
  refine ⟨rfl, lists, fun category name => ?_⟩
  obtain ⟨-, -, -, accepted⟩ := ofVariables_lists category lists (by decide) listable
    fun name same => absurd same (several name)
  exact (accepted name).trans (isName name)

end Category

end ApiForge
