import ApiForge.Backend.ManifestBackend
import ApiForge.Proofs.Models.Invariant
/-
# ApiForge.Proofs.Models.Kept -- which schema a class name stands for

A table has one model for a class name, and schemas of different names may share one.  The
schemas are projected in name order and each takes the place of what stands under its class
name, so the last one stays (`ModelTable.get?_of_addSchemas`).  Compositions only set a flag
where a model stands already (`ModelTable.keeps_addAllComposed`).  A schema therefore has an
entry of its own exactly where no later one shares its class name
(`ModelTable.build_keeps_last`); `pet` takes the place of `Pet`
(`ModelTable.earlier_schema_is_replaced`).
-/

namespace ApiForge

set_option autoImplicit false

namespace TableModel

variable {backend : Backend} {schemas properties : Dict Json} {name : String} {schema : Json}

theorem fields_of_ofProjection {model : ModelProjection} {m : TableModel}
    (made : ofProjection backend properties name model schema = .ok m) :
    m.name = name ∧ m.className = backend.naming.modelName name ∧ m.model = model := by
  obtain ⟨context, -, rfl⟩ := map_eq_ok_iff.1 made
  exact ⟨rfl, rfl, rfl⟩

/-- What stands in a table for a schema is the projection of the schema, under its class
name. -/
theorem ofSchema_eq_ok {found : Option TableModel}
    (made : ofSchema backend schemas properties name schema = .ok found) :
    backend.projector.ofSchema name schema schemas = .ok (found.map TableModel.model) ∧
      ∀ m, found = some m → m.name = name ∧ m.className = backend.naming.modelName name := by
  obtain ⟨projected, ok, made⟩ := bind_eq_ok_iff.1 made
  cases projected with
  | none =>
      cases made
      exact ⟨ok, fun _ h => nomatch h⟩
  | some model =>
      obtain ⟨m, whole, same⟩ := bind_eq_ok_iff.1 made
      cases same
      obtain ⟨named, className, rfl⟩ := fields_of_ofProjection whole
      refine ⟨ok, fun _ h => ?_⟩
      cases h
      exact ⟨named, className⟩

end TableModel

/-- A schema that is wanted, and the model that the backend makes of it. -/
def Makes (backend : Backend) (schemas : Dict Json) (allowed : Option NameSet) (name : String)
    (model : ModelProjection) : Prop :=
  ∃ schema, schemas.get? name = some schema ∧ backend.types.isMapped name = false ∧
    allowed.all (·.contains name) = true ∧
    backend.projector.ofSchema name schema schemas = .ok (some model)

theorem mem_candidateSchemas_iff {backend : Backend} {schemas : Dict Json}
    {allowed : Option NameSet} {name : String} {schema : Json} :
    (name, schema) ∈ candidateSchemas backend schemas allowed ↔
      schemas.get? name = some schema ∧ backend.types.isMapped name = false ∧
        allowed.all (·.contains name) = true := by
  simp [candidateSchemas, List.mem_filter, Dict.mem_entries_iff]

theorem pairwise_candidateSchemas (backend : Backend) (schemas : Dict Json)
    (allowed : Option NameSet) :
    (candidateSchemas backend schemas allowed).Pairwise fun a b => a.1 < b.1 :=
  schemas.sorted.filter _

theorem makes_iff {backend : Backend} {schemas : Dict Json} {allowed : Option NameSet}
    {name : String} {model : ModelProjection} : Makes backend schemas allowed name model ↔
      ∃ schema, (name, schema) ∈ candidateSchemas backend schemas allowed ∧
        backend.projector.ofSchema name schema schemas = .ok (some model) := by
  simp only [Makes, mem_candidateSchemas_iff, and_assoc]

theorem Makes.unique {backend : Backend} {schemas : Dict Json} {allowed : Option NameSet}
    {name : String} {a b : ModelProjection} (first : Makes backend schemas allowed name a)
    (second : Makes backend schemas allowed name b) : a = b := by
  obtain ⟨s, stands, -, -, made⟩ := first
  obtain ⟨s', stands', -, -, made'⟩ := second
  rw [stands] at stands'
  cases stands'
  rw [made] at made'
  cases made'
  rfl

namespace ModelTable

variable {backend : Backend} {schemas properties : Dict Json}

/-! ## Class names -/

/-- Every model stands under its class name, and its class name is that of its name. -/
def Named (backend : Backend) (table : ModelTable) : Prop :=
  ∀ className m, Dict.get? table className = some m →
    m.className = className ∧ backend.naming.modelName m.name = className

/-! ## What stands under a class name -/

/-- What a class name stands for after schemas were projected: the last of them with that
class name, or what it stood for before where there is none. -/
inductive LastOf (backend : Backend) (schemas : Dict Json) (className : String)
    (list : List (String × Json)) (before after : Option TableModel) : Prop where
  | kept : (∀ s ∈ list, backend.naming.modelName s.1 = className →
        backend.projector.ofSchema s.1 s.2 schemas = .ok none) →
      after = before → LastOf backend schemas className list before after
  | replaced {front back : List (String × Json)} {s : String × Json} {m : TableModel} :
      list = front ++ s :: back → backend.naming.modelName s.1 = className →
      backend.projector.ofSchema s.1 s.2 schemas = .ok (some m.model) → m.name = s.1 →
      (∀ t ∈ back, backend.naming.modelName t.1 = className →
        backend.projector.ofSchema t.1 t.2 schemas = .ok none) →
      after = some m → LastOf backend schemas className list before after

/-- **Of the schemas that share a class name the last one stays.** -/
theorem get?_of_addSchemas {list : List (String × Json)} {table table' : ModelTable}
    (added : addSchemas backend schemas properties table list = .ok table')
    (className : String) :
    LastOf backend schemas className list (Dict.get? table className)
      (Dict.get? table' className) := by
  induction list generalizing table with
  | nil =>
      cases added
      exact .kept (fun _ mem => nomatch mem) rfl
  | cons entry rest ih =>
      obtain ⟨name, schema⟩ := entry
      simp only [addSchemas] at added
      split at added
      · cases added
      · rename_i made
        have nothing := (TableModel.ofSchema_eq_ok made).1
        cases ih added with
        | kept none same =>
            refine .kept (fun s mem shared => ?_) same
            rcases List.mem_cons.1 mem with rfl | later
            · exact nothing
            · exact none s later shared
        | @replaced front back s m split shared projected named none same =>
            have longer : (name, schema) :: rest = ((name, schema) :: front) ++ s :: back :=
              congrArg _ split
            exact .replaced longer shared projected named none same
      · rename_i m made
        obtain ⟨projected, fields⟩ := TableModel.ofSchema_eq_ok made
        obtain ⟨named, own⟩ := fields m rfl
        cases ih added with
        | kept none same =>
            rw [ModelTable.add, Dict.get?_insert] at same
            by_cases here : m.className = className
            · rw [if_pos here] at same
              exact .replaced (List.nil_append _).symm (own.symm.trans here) projected named none same
            · rw [if_neg here] at same
              refine .kept (fun s mem shared => ?_) same
              rcases List.mem_cons.1 mem with rfl | later
              · exact absurd (own.trans shared) here
              · exact none s later shared
        | @replaced front back s m split shared projected named none same =>
            have longer : (name, schema) :: rest = ((name, schema) :: front) ++ s :: back :=
              congrArg _ split
            exact .replaced longer shared projected named none same

/-- Every model of one table is in another under the same class name, with the same name
and the same projection. -/
def Keeps (table table' : ModelTable) : Prop :=
  ∀ className m, Dict.get? table className = some m → ∃ m',
    Dict.get? table' className = some m' ∧ m'.name = m.name ∧ m'.model = m.model

theorem Keeps.refl (table : ModelTable) : table.Keeps table :=
  fun _ m stands => ⟨m, stands, rfl, rfl⟩

theorem Keeps.trans {a b c : ModelTable} (first : a.Keeps b) (second : b.Keeps c) :
    a.Keeps c := by
  intro className m stands
  obtain ⟨m', stands', name', model'⟩ := first className m stands
  obtain ⟨m'', stands'', name'', model''⟩ := second className m' stands'
  exact ⟨m'', stands'', name''.trans name', model''.trans model'⟩

theorem keeps_addComposed {table table' : ModelTable} {model : ModelProjection}
    (added : addComposed backend properties table model = .ok table') : table.Keeps table' := by
  intro className m stands
  simp only [addComposed] at added
  split at added
  · rename_i existing there
    cases added
    rw [Dict.get?_insert]
    split
    · rename_i here
      rw [here, stands] at there
      cases there
      exact ⟨_, rfl, rfl, rfl⟩
    · exact ⟨m, stands, rfl, rfl⟩
  · rename_i absent
    split at added
    · cases added
    · rename_i made ok
      cases added
      obtain ⟨own, className', -⟩ := TableModel.fields_of_ofProjection ok
      refine ⟨m, ?_, rfl, rfl⟩
      rw [ModelTable.add, Dict.get?_insert, if_neg, stands]
      rintro rfl
      rw [show (made.mark Key.composedExtension _).className = made.className from rfl,
        className', absent] at stands
      cases stands

/-- **Compositions take no place of a model.** -/
theorem keeps_addAllComposed {rest : List ModelProjection} {table table' : ModelTable}
    (added : addAllComposed backend properties table rest = .ok table') :
    table.Keeps table' := by
  induction rest generalizing table with
  | nil =>
      cases added
      exact Keeps.refl _
  | cons model rest ih =>
      obtain ⟨next, first, later⟩ := bind_eq_ok_iff.1 added
      exact (keeps_addComposed first).trans (ih later)

/-! ## The table of a run -/

theorem named_of_build {allowed : Option NameSet} {table : ModelTable}
    (untouched : ∀ table, backend.hooks.postProcessTable table = .ok table)
    (built : build backend schemas allowed properties = .ok table) : table.Named backend := by
  refine forall_of_build (fun _ _ _ named => named) untouched ?_ built
  intro name model schema m made
  obtain ⟨own, className, -⟩ := TableModel.fields_of_ofProjection made
  exact ⟨rfl, by rw [own, className]⟩

/-- The last schema that shares the class name of a schema that makes a model. -/
theorem last_of_build {allowed : Option NameSet} {table : ModelTable} {name : String}
    {model : ModelProjection}
    (untouched : ∀ table, backend.hooks.postProcessTable table = .ok table)
    (built : build backend schemas allowed properties = .ok table)
    (made : Makes backend schemas allowed name model) :
    ∃ last lastModel entry, Makes backend schemas allowed last lastModel ∧
      backend.naming.modelName last = backend.naming.modelName name ∧
      (∀ other otherModel, Makes backend schemas allowed other otherModel →
        backend.naming.modelName other = backend.naming.modelName name → ¬ last < other) ∧
      Dict.get? table (backend.naming.modelName name) = some entry ∧
      entry.name = last ∧ entry.model = lastModel := by
  obtain ⟨projected, first, built⟩ := bind_eq_ok_iff.1 built
  obtain ⟨composed, -, built⟩ := bind_eq_ok_iff.1 built
  obtain ⟨merged, second, built⟩ := bind_eq_ok_iff.1 built
  rw [untouched] at built
  cases built
  cases get?_of_addSchemas first (backend.naming.modelName name) with
  | kept none _ =>
      obtain ⟨schema, candidate, ok⟩ := makes_iff.1 made
      have nothing := none _ candidate rfl
      rw [nothing] at ok
      cases ok
  | @replaced front back s m split shared ok named none stands =>
      obtain ⟨entry, final, sameName, sameModel⟩ := keeps_addAllComposed second _ m stands
      have candidate : s ∈ candidateSchemas backend schemas allowed := split ▸ by simp
      refine ⟨s.1, m.model, entry, makes_iff.2 ⟨s.2, candidate, ok⟩, shared, ?_, final,
        sameName.trans named, sameModel⟩
      intro other otherModel othersMade sharesToo
      obtain ⟨schema, mem, projects⟩ := makes_iff.1 othersMade
      have ordered := pairwise_candidateSchemas backend schemas allowed
      rw [split] at mem ordered
      rcases List.mem_append.1 mem with earlier | here
      · exact fun less => String.lt_asymm less
          ((List.pairwise_append.1 ordered).2.2 _ earlier _ List.mem_cons_self)
      · rcases List.mem_cons.1 here with rfl | later
        · exact String.lt_irrefl _
        · have nothing := none _ later sharesToo
          rw [nothing] at projects
          cases projects

/-- **A class name stands for the last schema that shares it.**  A schema has an entry of its
own exactly where no later one with its class name makes a model. -/
theorem build_keeps_last {allowed : Option NameSet} {table : ModelTable} {name : String}
    {model : ModelProjection}
    (untouched : ∀ table, backend.hooks.postProcessTable table = .ok table)
    (built : build backend schemas allowed properties = .ok table)
    (made : Makes backend schemas allowed name model) :
    (∃ last lastModel entry, Makes backend schemas allowed last lastModel ∧
      backend.naming.modelName last = backend.naming.modelName name ∧
      (∀ other otherModel, Makes backend schemas allowed other otherModel →
        backend.naming.modelName other = backend.naming.modelName name → ¬ last < other) ∧
      Dict.get? table (backend.naming.modelName name) = some entry ∧
      entry.name = last ∧ entry.model = lastModel) ∧
    ((∃ key entry, Dict.get? table key = some entry ∧ entry.name = name ∧ entry.model = model) ↔
      ∀ other otherModel, Makes backend schemas allowed other otherModel →
        backend.naming.modelName other = backend.naming.modelName name → other ≤ name) := by
  have whole := last_of_build untouched built made
  refine ⟨whole, ?_⟩
  obtain ⟨last, lastModel, entry, makesLast, shared, above, stands, named, projected⟩ := whole
  constructor
  · rintro ⟨key, own, here, rfl, rfl⟩
    -- the entry stands under its own class name, where the last one stands
    rw [← (named_of_build untouched built key own here).2, stands] at here
    cases here
    exact named ▸ above
  · intro highest
    have same : last = name :=
      String.le_antisymm (highest last lastModel makesLast shared) (above name model made rfl)
    subst same
    exact ⟨_, entry, stands, named, projected.trans (makesLast.unique made)⟩

/-- Two schemas whose names differ in case alone. -/
def spelledTwice : Dict Json :=
  .ofList [("Pet", .object [("type", .str "object")]), ("pet", .object [("type", .str "object")])]

/-- The backend of a manifest that says nothing. -/
def namingBackend : Backend := ManifestBackend.toBackend ⟨.standard, ⟨""⟩, none⟩

theorem build_keeps_last_spelled_twice :
    (∀ table, namingBackend.hooks.postProcessTable table = .ok table) ∧
      ∃ table model, build namingBackend spelledTwice none .empty = .ok table ∧
        Makes namingBackend spelledTwice none "pet" model ∧
        ∃ key entry, Dict.get? table key = some entry ∧ entry.name = "pet" ∧
          entry.model = model := by
  have untouched : ∀ table, namingBackend.hooks.postProcessTable table = .ok table :=
    fun _ => rfl
  have made : (build namingBackend spelledTwice none .empty).toOption.isSome = true := by
    decide
  obtain ⟨table, made⟩ := Option.isSome_iff_exists.1 made
  have built := eq_ok_of_toOption made
  have names : ∀ s ∈ spelledTwice.entries, ¬ "pet" < s.1 := by decide
  obtain ⟨model, makes⟩ : ∃ model, Makes namingBackend spelledTwice none "pet" model :=
    ⟨_, _, rfl, rfl, rfl, rfl⟩
  refine ⟨untouched, table, model, built, makes, (build_keeps_last untouched built makes).2.2 ?_⟩
  rintro other otherModel ⟨schema, stands, -⟩ -
  exact names (other, schema) (Dict.mem_entries_iff.2 stands)

/-- **A later schema takes the place of an earlier one with its class name.** -/
theorem earlier_schema_is_replaced :
    (∃ model, Makes namingBackend spelledTwice none "Pet" model) ∧
      ((build namingBackend spelledTwice none .empty).toOption.map fun table =>
        (Dict.entries table).map fun e => (e.1, e.2.name)) = some [("Pet", "pet")] :=
  ⟨⟨_, _, rfl, rfl, rfl, rfl⟩, by decide⟩

end ModelTable

end ApiForge
