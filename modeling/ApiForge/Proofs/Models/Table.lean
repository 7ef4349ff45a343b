import ApiForge.Models.Files
import ApiForge.Proofs.Models.Invariant
/-
# ApiForge.Proofs.Models.Table -- what the contexts of the models say

What a model is, templates and the run itself read from the list of models in its context.
The list holds the model, unless a property takes its place (`ModelTable.lists_of_build`), and
then it may hold nothing of the kind (`TableModel.Lists.startsWithEntry_iff`).  As long as no
property does, the context says what the model is (`TableModel.Faithful.isAlias`), and it does
so for every model that a run builds (`ModelTable.faithful_of_build`).  Under a name that no
model uses, the context says what properties say (`ModelTable.get?_of_build`).
-/

namespace ApiForge

set_option autoImplicit false

theorem ModelProjection.field?_toJson_vendorExtensions (model : ModelProjection) :
    model.toJson.field? Key.vendorExtensions = some (.ofDict model.extensions) := by
  simp [toJson, Json.object, Json.field?, Entries.ofList, Entries.get?_insert,
    Key.vendorExtensions]

namespace TableModel

variable {backend : Backend} {properties : Dict Json} {m : TableModel}

/-! ## The list of models -/

/-- The names of the entries that a model makes in its context. -/
def contextNames : List String := [Key.package, Key.models, Key.imports, Key.classname]

/-- The list of models in the context holds the model itself, and nothing else, where no
property takes its place. -/
def Lists (backend : Backend) (properties : Dict Json) (m : TableModel) : Prop :=
  ∃ schema, m.context.get? Key.models
    = (properties.get? Key.models).or (some (.arr [entryFor backend m.model schema]))

theorem Lists.mark (lists : m.Lists backend properties) {name : String} (value : Json)
    (ne : name ≠ Key.models) : (m.mark name value).Lists backend properties := by
  obtain ⟨schema, listed⟩ := lists
  exact ⟨schema, by rw [TableModel.mark, Dict.get?_insert_of_ne _ _ ne, listed]⟩

section Making

variable {name : String} {model : ModelProjection} {schema : Json}
  (plain : ∀ context, backend.hooks.postProcessModel context = .ok context)
  (made : ofProjection backend properties name model schema = .ok m)
include plain made

/-- The layers of a context that is made: properties come last. -/
theorem get?_of_ofProjection (other : String) : m.context.get? other =
    (properties.get? other).or (((draftContext backend model schema).insert Key.classname
      (.str (backend.naming.modelName name))).get? other) := by
  simp only [ofProjection, contextFor, plain, Except.map] at made
  cases made
  exact Dict.get?_extend _ _ other

theorem lists_of_ofProjection : m.Lists backend properties := by
  obtain ⟨context, -, same⟩ := map_eq_ok_iff.1 made
  have projection : m.model = model := congrArg TableModel.model same.symm
  refine ⟨schema, ?_⟩
  rw [get?_of_ofProjection plain made, Dict.get?_insert_of_ne _ _ (by decide), projection]
  congr 1
  simp [draftContext, Dict.ofList, Dict.get?, Entries.ofList, Entries.get?_insert, Key.models,
    Key.imports, Key.package]

/-- Everything else comes from properties. -/
theorem get?_of_ofProjection_of_notMem {other : String} (foreign : other ∉ contextNames) :
    m.context.get? other = properties.get? other := by
  have ne : Key.classname ≠ other := fun same =>
    foreign (same ▸ List.mem_of_getElem? (i := 3) rfl)
  have unset : (draftContext backend model schema).get? other = none := by
    refine Dict.get?_ofList_eq_none fun e mem same => foreign (same ▸ ?_)
    simp only [List.mem_cons, List.not_mem_nil, or_false] at mem
    rcases mem with rfl | rfl | rfl <;> simp [contextNames]
  rw [get?_of_ofProjection plain made, Dict.get?_insert_of_ne _ _ ne, unset, Option.or_none]

end Making

/-- A list of models that starts with an entry that holds all that an entry has to hold. -/
def StartsWithEntry (list : Json) : Prop :=
  ∃ entry rest, list = .arr (entry :: rest) ∧
    ∀ key ∈ Key.ofModelEntry, (entry.field? key).isSome = true

theorem isSome_entryFor (model : ModelProjection) (schema : Json) :
    ∀ key ∈ Key.ofModelEntry, ((entryFor backend model schema).field? key).isSome = true := by
  simp [Key.ofModelEntry, entryFor, Json.object, Json.field?, Entries.ofList, Entries.get?_insert,
    Key.model, Key.schema, Key.importPath]

/-- The entry of a model holds all that it has to hold where the list of models starts with
such an entry. -/
theorem exists_entry_iff : (∃ entry, m.entry? = some entry ∧
      ∀ key ∈ Key.ofModelEntry, (entry.field? key).isSome = true) ↔
    ∃ list, m.context.get? Key.models = some list ∧ StartsWithEntry list := by
  constructor
  · rintro ⟨entry, first, whole⟩
    simp only [ entry?] at first
    split at first
    · rename_i found rest stands
      cases first
      exact ⟨_, stands, entry, rest, rfl, whole⟩
    · cases first
  · rintro ⟨_, stands, entry, rest, rfl, whole⟩
    exact ⟨entry, by simp only [ entry?, stands], whole⟩

/-- **The entry of a model holds all that it has to hold, unless a property takes the place of
the list and does not start with such an entry.** -/
theorem Lists.startsWithEntry_iff (lists : m.Lists backend properties) :
    (∃ entry, m.entry? = some entry ∧
      ∀ key ∈ Key.ofModelEntry, (entry.field? key).isSome = true) ↔
    ∀ list, properties.get? Key.models = some list → StartsWithEntry list := by
  obtain ⟨schema, stands⟩ := lists
  rw [exists_entry_iff, stands]
  cases properties.get? Key.models with
  | none =>
      have own : StartsWithEntry (.arr [entryFor backend m.model schema]) :=
        ⟨_, [], rfl, isSome_entryFor _ _⟩
      simp [own]
  | some list => simp

/-! ## What the context says of the model -/

/-- The list of models in the context holds the model itself, and nothing else. -/
def Faithful (backend : Backend) (m : TableModel) : Prop :=
  ∃ schema, m.context.get? Key.models = some (.arr [entryFor backend m.model schema])

theorem Lists.faithful (lists : m.Lists backend properties)
    (silent : properties.get? Key.models = none) : m.Faithful backend := by
  obtain ⟨schema, stands⟩ := lists
  exact ⟨schema, by rw [stands, silent, Option.none_or]⟩

theorem field?_entryFor_model (model : ModelProjection) (schema : Json) :
    (entryFor backend model schema).field? Key.model = some model.toJson := by
  simp [entryFor, Json.object, Json.field?, Entries.ofList, Entries.get?_insert, Key.model,
    Key.schema, Key.importPath]

theorem Faithful.exists_entry (faithful : m.Faithful backend) :
    ∃ schema, m.entry? = some (entryFor backend m.model schema) := by
  obtain ⟨schema, listed⟩ := faithful
  exact ⟨schema, by simp only [ entry?, listed]⟩

theorem Faithful.isAlias (faithful : m.Faithful backend) : m.isAlias = m.model.isAlias := by
  obtain ⟨schema, entry⟩ := faithful.exists_entry
  rw [TableModel.isAlias, entry, Option.bind_some, field?_entryFor_model]
  simp only [vendorFlag, m.model.field?_toJson_vendorExtensions, Option.bind_some]
  rfl

end TableModel

namespace ModelTable

variable {backend : Backend} {schemas properties : Dict Json}

/-- The contexts of all models say what the models are. -/
def Faithful (backend : Backend) (table : ModelTable) : Prop :=
  ∀ className m, Dict.get? table className = some m → m.Faithful backend

section Building

variable (plain : ∀ context, backend.hooks.postProcessModel context = .ok context)
include plain

/-- **The contexts list the models, where no property takes the place of the list.** -/
theorem lists_of_build {allowed : Option NameSet} {table : ModelTable}
    (untouched : ∀ table, backend.hooks.postProcessTable table = .ok table)
    (built : build backend schemas allowed properties = .ok table) :
    table.Forall fun _ m => m.Lists backend properties :=
  forall_of_build (fun _ _ _ lists => lists.mark _ (by decide)) untouched
    (fun _ _ _ _ => TableModel.lists_of_ofProjection plain) built

/-- What a context says besides it says because of a property, apart from the flag of
compositions. -/
theorem get?_of_build {allowed : Option NameSet} {table : ModelTable} {name : String}
    (foreign : name ∉ TableModel.contextNames) (ne : name ≠ Key.composedExtension)
    (untouched : ∀ table, backend.hooks.postProcessTable table = .ok table)
    (built : build backend schemas allowed properties = .ok table) :
    table.Forall fun _ m => m.context.get? name = properties.get? name :=
  forall_of_build (fun _ _ _ same => (Dict.get?_insert_of_ne _ _ ne.symm).trans same) untouched
    (fun _ _ _ _ made => TableModel.get?_of_ofProjection_of_notMem plain made foreign) built

/-- **Where nobody else writes the list of models, the contexts say what the models are.** -/
theorem faithful_of_build (silent : properties.get? Key.models = none)
    {allowed : Option NameSet} {table : ModelTable}
    (untouched : ∀ table, backend.hooks.postProcessTable table = .ok table)
    (built : build backend schemas allowed properties = .ok table) : table.Faithful backend := by
  intro className m stands
  exact (lists_of_build plain untouched built className m stands).faithful silent

end Building

theorem exists_of_mem_generated {table : ModelTable} {m : TableModel}
    (mem : m ∈ table.generated backend) : ∃ className, Dict.get? table className = some m := by
  obtain ⟨e, inTable, rfl⟩ := List.mem_map.1 (List.mem_filter.1 mem).1
  exact ⟨e.1, Dict.mem_entries_iff.1 inTable⟩

/-- The files of a model follow from its projection. -/
theorem Faithful.isAlias {table : ModelTable} (faithful : table.Faithful backend)
    {m : TableModel} (mem : m ∈ table.generated backend) : m.isAlias = m.model.isAlias := by
  obtain ⟨className, stands⟩ := exists_of_mem_generated mem
  exact (faithful className m stands).isAlias

end ModelTable

end ApiForge
