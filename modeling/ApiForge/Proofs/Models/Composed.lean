import ApiForge.Proofs.Models.Kept
/-
# ApiForge.Proofs.Models.Composed -- what compositions add to a table

A composition never takes the place of a model.  The compositions of one class name are met
one after the other: the first of them makes a model where none stands, and every one sets
the flag, so the last one decides it (`ModelTable.merged_of_addAllComposed`).  A run with
compositions is therefore the run without them, with flags set and with models added
(`ModelTable.build_merges`).
-/

namespace ApiForge

set_option autoImplicit false

/-! ## Setting the flag -/

namespace TableModel

theorem mark_mark (m : TableModel) (name : String) (value value' : Json) :
    (m.mark name value).mark name value' = m.mark name value' := by
  have same : (m.context.insert name value).insert name value' = m.context.insert name value' := by
    apply Dict.ext_get?
    intro other
    simp only [Dict.get?_insert]
    split <;> rfl
  simp only [mark, same]

theorem get?_mark_self (m : TableModel) (name : String) (value : Json) :
    (m.mark name value).context.get? name = some value :=
  Dict.get?_insert_self _ _ _

theorem get?_mark_of_ne (m : TableModel) {name other : String} (value : Json)
    (ne : other ≠ name) : (m.mark name value).context.get? other = m.context.get? other :=
  Dict.get?_insert_of_ne _ _ ne.symm

theorem isComposed_mark (m : TableModel) (flag : Bool) :
    (m.mark Key.composedExtension (.bool flag)).isComposed = flag := by
  rw [isComposed, get?_mark_self]
  rfl

end TableModel

/-- The backend, with compositions that make no models. -/
def Backend.withoutCompositions (backend : Backend) : Backend :=
  { backend with projector := { backend.projector with composedModels := fun _ _ => .ok [] } }

namespace ModelTable

variable {backend : Backend} {schemas properties : Dict Json}

/-! ## The compositions of a class name -/

/-- The models of a list with a class name. -/
def sharing (backend : Backend) (className : String) (models : List ModelProjection) :
    List ModelProjection :=
  models.filter fun m => decide (backend.naming.modelName m.name = className)

/-- The models of a list that are put into a table: none stands in for a schema that is not
wanted. -/
def admitted (backend : Backend) (schemas : Dict Json) (allowed : Option NameSet)
    (models : List ModelProjection) : List ModelProjection :=
  models.filter fun m =>
    admitsComposed schemas ((candidateSchemas backend schemas allowed).map Prod.fst) m.name

/-- The compositions that are put into a table under a class name, in their order. -/
def touching (backend : Backend) (schemas : Dict Json) (allowed : Option NameSet)
    (composed : List ModelProjection) (className : String) : List ModelProjection :=
  sharing backend className (admitted backend schemas allowed composed)

theorem mem_touching_iff {allowed : Option NameSet} {composed : List ModelProjection}
    {className : String} {m : ModelProjection} :
    m ∈ touching backend schemas allowed composed className ↔ m ∈ composed ∧
      (schemas.contains m.name = false ∨
        ∃ schema, (m.name, schema) ∈ candidateSchemas backend schemas allowed) ∧
      backend.naming.modelName m.name = className := by
  simp only [touching, sharing, admitted, List.mem_filter, decide_eq_true_eq, and_assoc]
  simp [admitsComposed]

/-- The model that compositions set a flag on: the one that stands there, or else the one
that a composition makes. -/
inductive Base (backend : Backend) (properties : Dict Json) (before : Option TableModel)
    (first : ModelProjection) (base : TableModel) : Prop where
  | stands : before = some base → Base backend properties before first base
  | made : before = none →
      TableModel.ofProjection backend properties first.name first .null = .ok base →
      Base backend properties before first base

/-- What compositions make of what stands under their class name: without any it stays, and
otherwise the first of them sees to it that a model stands there, and the last one sets the
flag. -/
inductive Merged (backend : Backend) (properties : Dict Json) (before after : Option TableModel) :
    List ModelProjection → Prop where
  | untouched : after = before → Merged backend properties before after []
  | flagged {models : List ModelProjection} {first last : ModelProjection} {base : TableModel} :
      models.head? = some first → models.getLast? = some last →
      Base backend properties before first base →
      after = some (base.mark Key.composedExtension (.bool last.isComposed)) →
      Merged backend properties before after models

/-- One composition leaves the other class names alone. -/
theorem get?_of_addComposed_of_ne {table table' : ModelTable} {model : ModelProjection}
    {className : String} (ne : backend.naming.modelName model.name ≠ className)
    (added : addComposed backend properties table model = .ok table') :
    Dict.get? table' className = Dict.get? table className := by
  simp only [addComposed] at added
  split at added
  · cases added
    rw [Dict.get?_insert, if_neg ne]
  · split at added
    · cases added
    · rename_i made ok
      cases added
      have own := (TableModel.fields_of_ofProjection ok).2.1
      have apart : (made.mark Key.composedExtension (.bool model.isComposed)).className
          ≠ className := by
        show made.className ≠ className
        rw [own]
        exact ne
      rw [ModelTable.add, Dict.get?_insert, if_neg apart]

/-- One composition sets the flag under its class name. -/
theorem get?_of_addComposed_self {table table' : ModelTable} {model : ModelProjection}
    (added : addComposed backend properties table model = .ok table') :
    ∃ base, Base backend properties
        (Dict.get? table (backend.naming.modelName model.name)) model base ∧
      Dict.get? table' (backend.naming.modelName model.name)
        = some (base.mark Key.composedExtension (.bool model.isComposed)) := by
  simp only [addComposed] at added
  split at added
  · rename_i existing stands
    cases added
    refine ⟨existing, .stands stands, ?_⟩
    rw [Dict.get?_insert, if_pos rfl]
  · rename_i absent
    split at added
    · cases added
    · rename_i made ok
      cases added
      refine ⟨made, .made absent ok, ?_⟩
      have own := (TableModel.fields_of_ofProjection ok).2.1
      rw [← own]
      exact Dict.get?_insert_self _ _ _

/-- **Of the compositions of a class name the first makes the model, where none stands, and
the last sets the flag.** -/
theorem merged_of_addAllComposed {models : List ModelProjection} {table table' : ModelTable}
    (added : addAllComposed backend properties table models = .ok table') (className : String) :
    Merged backend properties (Dict.get? table className) (Dict.get? table' className)
      (sharing backend className models) := by
  induction models generalizing table with
  | nil =>
      cases added
      exact .untouched rfl
  | cons model rest ih =>
      obtain ⟨next, first, later⟩ := bind_eq_ok_iff.1 added
      have remaining := ih later
      by_cases here : backend.naming.modelName model.name = className
      · have split : sharing backend className (model :: rest)
            = model :: sharing backend className rest := by
          simp [sharing, here]
        subst here
        obtain ⟨base, stands, flagged⟩ := get?_of_addComposed_self first
        rw [split]
        rw [flagged] at remaining
        generalize sharing backend (backend.naming.modelName model.name) rest = others
          at remaining ⊢
        cases remaining with
        | untouched same => exact .flagged rfl rfl stands same
        | @flagged _ _ last base' heads ends later same =>
            -- the flag that the first one set is set once more
            cases later with
            | stands is =>
                cases is
                rw [TableModel.mark_mark] at same
                refine .flagged rfl ?_ stands same
                rw [List.getLast?_cons, ends]
                rfl
            | made none => cases none
      · have split : sharing backend className (model :: rest)
            = sharing backend className rest := by
          simp [sharing, here]
        rw [split, ← get?_of_addComposed_of_ne here first]
        exact remaining

/-! ## With compositions and without -/

theorem addSchemas_withoutCompositions (table : ModelTable) (list : List (String × Json)) :
    addSchemas backend.withoutCompositions schemas properties table list
      = addSchemas backend schemas properties table list := by
  induction list generalizing table with
  | nil => rfl
  | cons entry rest ih =>
      obtain ⟨name, schema⟩ := entry
      have projects : TableModel.ofSchema backend.withoutCompositions schemas properties name schema
          = TableModel.ofSchema backend schemas properties name schema := rfl
      simp only [addSchemas, projects]
      cases TableModel.ofSchema backend schemas properties name schema with
      | error cause => rfl
      | ok found =>
          cases found with
          | none => exact ih table
          | some m => exact ih (table.add m)

/-- Without compositions a table holds the projected schemas. -/
theorem addSchemas_of_build_withoutCompositions {allowed : Option NameSet} {plain : ModelTable}
    (untouched : ∀ table, backend.hooks.postProcessTable table = .ok table)
    (built : build backend.withoutCompositions schemas allowed properties = .ok plain) :
    addSchemas backend schemas properties .empty (candidateSchemas backend schemas allowed)
      = .ok plain := by
  obtain ⟨projected, first, built⟩ := bind_eq_ok_iff.1 built
  obtain ⟨composed, none, built⟩ := bind_eq_ok_iff.1 built
  obtain ⟨merged, second, built⟩ := bind_eq_ok_iff.1 built
  cases none
  cases second
  rw [show backend.withoutCompositions.hooks = backend.hooks from rfl, untouched] at built
  cases built
  rw [addSchemas_withoutCompositions] at first
  exact first

/-- A table is that of the projected schemas, class name by class name merged with the
compositions that are put in. -/
theorem merged_of_build {allowed : Option NameSet} {table : ModelTable}
    (untouched : ∀ table, backend.hooks.postProcessTable table = .ok table)
    (built : build backend schemas allowed properties = .ok table) :
    ∃ projected composed,
      addSchemas backend schemas properties .empty (candidateSchemas backend schemas allowed)
        = .ok projected ∧
      backend.projector.composedModels schemas projected = .ok composed ∧
      ∀ className, Merged backend properties (Dict.get? projected className)
        (Dict.get? table className) (touching backend schemas allowed composed className) := by
  obtain ⟨projected, first, built⟩ := bind_eq_ok_iff.1 built
  obtain ⟨composed, asked, built⟩ := bind_eq_ok_iff.1 built
  obtain ⟨merged, second, built⟩ := bind_eq_ok_iff.1 built
  rw [untouched] at built
  cases built
  exact ⟨projected, composed, first, mapError_eq_ok_iff.1 asked, merged_of_addAllComposed second⟩

/-- **A table with compositions is the table without them, class name by class name merged
with the compositions that are put in.** -/
theorem build_merges {allowed : Option NameSet} {plain table : ModelTable}
    {composed : List ModelProjection}
    (untouched : ∀ table, backend.hooks.postProcessTable table = .ok table)
    (without : build backend.withoutCompositions schemas allowed properties = .ok plain)
    (returned : backend.projector.composedModels schemas plain = .ok composed)
    (built : build backend schemas allowed properties = .ok table) (className : String) :
    Merged backend properties (Dict.get? plain className) (Dict.get? table className)
      (touching backend schemas allowed composed className) := by
  have start := addSchemas_of_build_withoutCompositions untouched without
  obtain ⟨projected, composed', first, asked, merges⟩ := merged_of_build untouched built
  rw [start] at first
  cases first
  rw [returned] at asked
  cases asked
  exact merges className

/-- **Compositions never replace a model.**  With compositions every model of the table
without them is there as it was, but for the flag; a model that is added is that of the first
composition of its class name; and the last composition of a class name decides the flag. -/
theorem build_composed {allowed : Option NameSet} {plain table : ModelTable}
    {composed : List ModelProjection}
    (untouched : ∀ table, backend.hooks.postProcessTable table = .ok table)
    (without : build backend.withoutCompositions schemas allowed properties = .ok plain)
    (returned : backend.projector.composedModels schemas plain = .ok composed)
    (built : build backend schemas allowed properties = .ok table) (className : String) :
    (∀ m, Dict.get? plain className = some m → ∃ m', Dict.get? table className = some m' ∧
      m'.name = m.name ∧ m'.className = m.className ∧ m'.model = m.model ∧
      ∀ key, key ≠ Key.composedExtension → m'.context.get? key = m.context.get? key) ∧
    (∀ m, Dict.get? plain className = none → Dict.get? table className = some m →
      ∃ first, (touching backend schemas allowed composed className).head? = some first ∧
        m.name = first.name ∧ m.className = className ∧ m.model = first ∧
        ∃ context, TableModel.contextFor backend properties first first.name .null = .ok context ∧
          ∀ key, key ≠ Key.composedExtension → m.context.get? key = context.get? key) ∧
    (∀ last, (touching backend schemas allowed composed className).getLast? = some last →
      ∃ m, Dict.get? table className = some m ∧
        m.context.get? Key.composedExtension = some (.bool last.isComposed) ∧
        m.isComposed = last.isComposed) ∧
    (touching backend schemas allowed composed className = [] →
      Dict.get? table className = Dict.get? plain className) := by
  have merges := build_merges untouched without returned built className
  have shared : ∀ m ∈ touching backend schemas allowed composed className,
      backend.naming.modelName m.name = className := by
    intro m mem
    exact (mem_touching_iff.1 mem).2.2
  generalize touching backend schemas allowed composed className = models at merges shared ⊢
  cases merges with
  | untouched same =>
      refine ⟨?_, ?_, ?_, fun _ => same⟩
      · intro m stands
        exact ⟨m, same.trans stands, rfl, rfl, rfl, fun _ _ => rfl⟩
      · intro m absent stands
        rw [same, absent] at stands
        cases stands
      · intro last ends
        cases ends
  | @flagged _ first last base heads ends from_ same =>
      refine ⟨?_, ?_, ?_, ?_⟩
      · intro m stands
        cases from_ with
        | stands is =>
            rw [stands] at is
            cases is
            exact ⟨_, same, rfl, rfl, rfl, fun key ne => TableModel.get?_mark_of_ne _ _ ne⟩
        | made none _ =>
            rw [stands] at none
            cases none
      · intro m absent stands
        cases from_ with
        | stands is =>
            rw [absent] at is
            cases is
        | made _ made =>
            rw [same] at stands
            cases stands
            obtain ⟨context, ok, rfl⟩ := map_eq_ok_iff.1 made
            have named := shared first (List.mem_of_mem_head? heads)
            exact ⟨first, heads, rfl, named, rfl, context, ok,
              fun key ne => TableModel.get?_mark_of_ne _ _ ne⟩
      · intro last' ends'
        rw [ends] at ends'
        cases ends'
        exact ⟨_, same, TableModel.get?_mark_self _ _ _, TableModel.isComposed_mark _ _⟩
      · intro empty
        rw [empty] at heads
        cases heads

/-- A model that a composition makes, with the flag set or not. -/
def compositionOf (name className : String) (flag : Bool) : ModelProjection :=
  (ModelProjection.named name className).setExtension Key.composedExtension (.bool flag)

/-- Compositions of a class that stands, of one that does not, twice, and of a schema that is
not wanted. -/
def someCompositions : List ModelProjection :=
  [compositionOf "pet" "Pet" true, compositionOf "Union" "Union" true,
    compositionOf "union" "Union" false, compositionOf "Hidden" "Hidden" true]

def composingBackend : Backend :=
  { namingBackend with
    projector := { ManifestBackend.projector with
      composedModels := fun _ _ => .ok someCompositions } }

def petAndHidden : Dict Json :=
  .ofList [("Hidden", .object [("type", .str "object")]),
    ("Pet", .object [("type", .str "object")])]

/-- A property with the name of the flag. -/
def flagProperty : Dict Json := .ofList [(Key.composedExtension, .str "TRUE")]

theorem build_composed_union_spelled_twice :
    (∀ table, composingBackend.hooks.postProcessTable table = .ok table) ∧
      ∃ plain table, build composingBackend.withoutCompositions petAndHidden
          (some (.ofList ["Pet"])) flagProperty = .ok plain ∧
        composingBackend.projector.composedModels petAndHidden plain = .ok someCompositions ∧
        build composingBackend petAndHidden (some (.ofList ["Pet"])) flagProperty = .ok table ∧
        Dict.get? plain "Union" = none ∧
        ∃ m, Dict.get? table "Union" = some m ∧ m.name = "Union" ∧ m.isComposed = false := by
  have untouched : ∀ table, composingBackend.hooks.postProcessTable table = .ok table :=
    fun _ => rfl
  have bare : ((build composingBackend.withoutCompositions petAndHidden
      (some (.ofList ["Pet"])) flagProperty).toOption.map fun t => (Dict.get? t "Union").isNone)
        = some true := by decide +kernel
  have whole : (build composingBackend petAndHidden
      (some (.ofList ["Pet"])) flagProperty).toOption.isSome = true := by decide +kernel
  obtain ⟨plain, plainMade, absent⟩ := Option.map_eq_some_iff.1 bare
  obtain ⟨table, made⟩ := Option.isSome_iff_exists.1 whole
  have without := eq_ok_of_toOption plainMade
  have built := eq_ok_of_toOption made
  have none := Option.isNone_iff_eq_none.1 absent
  obtain ⟨-, added, flagged, -⟩ := build_composed untouched without rfl built "Union"
  obtain ⟨m, stands, -, flag⟩ := flagged (compositionOf "union" "Union" false) (by rfl)
  obtain ⟨first, heads, named, -⟩ := added m none stands
  have firstIs : first = compositionOf "Union" "Union" true := by
    have known : (touching composingBackend petAndHidden (some (.ofList ["Pet"]))
        someCompositions "Union").head? = some (compositionOf "Union" "Union" true) := by rfl
    rw [known] at heads
    exact (Option.some.inj heads).symm
  refine ⟨untouched, plain, table, without, rfl, built, none, m, stands, ?_, flag⟩
  rw [named, firstIs]
  rfl

end ModelTable

end ApiForge
