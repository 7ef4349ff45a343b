import ApiForge.Json.Decode
import ApiForge.Proofs.Context
/-
# ApiForge.Proofs.Json.ReadBack -- reading what was written

A value is written so that its decoder reads it back (`Json.Decode.Returns`).  That is asked
only of values that the decoder gives, for a decoder may leave something out and sort what it
keeps.  A field that may be absent is the reason for the second half of the notion: `null`
stands for the absent value, so what was not read from `null` must not be written as `null`.

Lists and maps are read back if their members are.  For the fields of a record there is one
lemma for each way in which a field may be left out.
-/

namespace ApiForge

set_option autoImplicit false

universe u

namespace Json.Decode

variable {α : Type u} {item : Json → Option α} {write : α → Json}

/-- What the decoder gives is written so that it is read back, and as `null` only if it was
read from `null`. -/
structure Returns (item : Json → Option α) (write : α → Json) : Prop where
  reads : ∀ {j : Json} {x : α}, item j = some x → item (write x) = some x
  present : ∀ {j : Json} {x : α}, j ≠ .null → item j = some x → write x ≠ .null

namespace Returns

theorem string : Returns string .str where
  reads := fun _ => rfl
  present := fun _ _ same => nomatch same

theorem bool : Returns bool .bool where
  reads := fun _ => rfl
  present := fun _ _ same => nomatch same

theorem any : Returns any id where
  reads := fun _ => rfl
  present := fun notNull read => Option.some.inj read ▸ notNull

end Returns

/-! ## Lists -/

theorem exists_of_mem_items {js : List Json} {xs : List α} (read : items item js = some xs)
    {x : α} (mem : x ∈ xs) : ∃ j, item j = some x := by
  induction js generalizing xs with
  | nil =>
      cases read
      cases mem
  | cons j rest ih =>
      simp only [items] at read
      split at read
      · rename_i y ys first later
        cases read
        rcases List.mem_cons.1 mem with rfl | inRest
        · exact ⟨j, first⟩
        · exact ih later inRest
      · cases read

theorem exists_of_mem_list {j : Json} {xs : List α} (read : list item j = some xs) {x : α}
    (mem : x ∈ xs) : ∃ j, item j = some x := by
  cases j with
  | arr js => exact exists_of_mem_items read mem
  | _ => cases read

theorem items_map {xs : List α} (each : ∀ x ∈ xs, item (write x) = some x) :
    items item (xs.map write) = some xs := by
  induction xs with
  | nil => rfl
  | cons x rest ih =>
      simp only [List.map_cons, items, each x List.mem_cons_self,
        ih fun y mem => each y (List.mem_cons_of_mem _ mem)]

theorem Returns.list (returns : Returns item write) :
    Returns (list item) fun xs => .arr (xs.map write) where
  reads := fun read => items_map fun _ mem =>
    have ⟨_, one⟩ := exists_of_mem_list read mem
    returns.reads one
  present := fun _ _ same => nomatch same

/-! ## Maps -/

theorem exists_of_mem_mapValues? {fields : List (String × Json)} {entries : List (String × α)}
    (read : Entries.mapValues? item fields = some entries) {e : String × α} (mem : e ∈ entries) :
    ∃ j, item j = some e.2 := by
  induction fields generalizing entries with
  | nil =>
      cases read
      cases mem
  | cons field rest ih =>
      simp only [Entries.mapValues?] at read
      split at read
      · rename_i x more first later
        cases read
        rcases List.mem_cons.1 mem with rfl | inRest
        · exact ⟨field.2, first⟩
        · exact ih later inRest
      · cases read

theorem exists_of_get?_dict {j : Json} {d : Dict α} (read : dict item j = some d)
    {name : String} {x : α} (stands : d.get? name = some x) : ∃ j, item j = some x := by
  cases j with
  | obj fields =>
      obtain ⟨entries, decoded, rfl⟩ := Option.map_eq_some_iff.1 read
      rw [Dict.get?_ofList] at stands
      exact exists_of_mem_mapValues? decoded
        (List.mem_reverse.1 (Entries.mem_of_get? stands))
  | _ => cases read

theorem mapValues?_mapValues {entries : List (String × α)}
    (each : ∀ e ∈ entries, item (write e.2) = some e.2) :
    Entries.mapValues? item (Entries.mapValues (fun _ x => write x) entries) = some entries := by
  induction entries with
  | nil => rfl
  | cons e rest ih =>
      have later := ih fun f mem => each f (List.mem_cons_of_mem _ mem)
      rw [Entries.mapValues] at later
      simp only [Entries.mapValues, List.map_cons, Entries.mapValues?, each e List.mem_cons_self,
        later]

/-- A map is read back if what it holds is. -/
theorem dict_ofDict {d : Dict α}
    (each : ∀ name x, d.get? name = some x → item (write x) = some x) :
    dict item (.ofDict (d.mapValues fun _ x => write x)) = some d := by
  have same := mapValues?_mapValues (fun (e : String × α) (mem : e ∈ d.entries) =>
    each e.1 e.2 (Dict.mem_entries_iff.1 mem))
  show (Entries.mapValues? item _).map Dict.ofList = some d
  rw [show (d.mapValues fun _ x => write x).entries
    = Entries.mapValues (fun _ x => write x) d.entries from rfl, same, Option.map_some,
    Dict.ofList_entries]

theorem Returns.dict (returns : Returns item write) :
    Returns (dict item) fun d => .ofDict (d.mapValues fun _ x => write x) where
  reads := fun read => dict_ofDict fun _ _ stands =>
    have ⟨_, one⟩ := exists_of_get?_dict read stands
    returns.reads one
  present := fun _ _ same => nomatch same

/-- Maps of any values are read back as they are. -/
theorem dictAny_ofDict (d : Dict Json) : dict any (.ofDict d) = some d := by
  have back := @dict_ofDict Json any id d fun _ _ _ => rfl
  have same : d.mapValues (fun _ x => id x) = d := Dict.ext (List.map_id d.entries)
  rwa [same] at back

theorem Returns.dictAny : Returns (Decode.dict Decode.any) .ofDict where
  reads := fun {_ d} _ => dictAny_ofDict d
  present := fun _ _ same => nomatch same

/-! ## Fields of records -/

section Fields

variable {r r' : Record} {name : String}

theorem nullable_eq_some_iff {j : Json} {x : α} :
    Decode.nullable item j = some (some x) ↔ j ≠ .null ∧ item j = some x := by
  cases j <;> simp [Decode.nullable]

theorem nullable_of_ne {j : Json} (ne : j ≠ .null) :
    Decode.nullable item j = (item j).map some := by
  cases j with
  | null => exact absurd rfl ne
  | _ => rfl

/-- A field that is written where it has a value. -/
theorem optional_of_field {value : Option α} (field : r.field? name = value.map write)
    (each : ∀ x, value = some x → item (write x) = some x ∧ write x ≠ .null) :
    r.optional name item = some value := by
  rw [Record.optional, Record.withDefault, field]
  cases value with
  | none => rfl
  | some x =>
      obtain ⟨reads, present⟩ := each x rfl
      simp only [Option.map_some, nullable_of_ne present, reads]

theorem exists_of_optional {x : α} (read : r.optional name item = some (some x)) :
    ∃ j, j ≠ .null ∧ item j = some x := by
  rw [Record.optional, Record.withDefault] at read
  split at read
  · exact ⟨_, nullable_eq_some_iff.1 read⟩
  · cases read

theorem Returns.optional (returns : Returns item write) {value : Option α}
    (read : r.optional name item = some value) (field : r'.field? name = value.map write) :
    r'.optional name item = some value := by
  refine optional_of_field field ?_
  rintro x rfl
  obtain ⟨j, ne, one⟩ := exists_of_optional read
  exact ⟨returns.reads one, returns.present ne one⟩

theorem exists_of_nullable {x : α} (read : r.nullable name item = some (some x)) :
    ∃ j, j ≠ .null ∧ item j = some x := by
  rw [Record.nullable] at read
  split at read
  · exact ⟨_, nullable_eq_some_iff.1 read⟩
  · split at read <;> cases read

/-- A field that only a list has to hold, written where it has a value. -/
theorem nullable_of_field {value : Option α} (unlisted : r.listed = false)
    (field : r.field? name = value.map write)
    (each : ∀ x, value = some x → item (write x) = some x ∧ write x ≠ .null) :
    r.nullable name item = some value := by
  rw [Record.nullable, field]
  cases value with
  | none => simp [unlisted]
  | some x =>
      obtain ⟨reads, present⟩ := each x rfl
      simp only [Option.map_some, nullable_of_ne present, reads]

/-- A field that is written as `null` where it has no value. -/
theorem Returns.nullable (returns : Returns item write) {value : Option α}
    (read : r.nullable name item = some value)
    (field : r'.field? name = some (.ofOption (value.map write))) :
    r'.nullable name item = some value := by
  rw [Record.nullable, field]
  cases value with
  | none => rfl
  | some x =>
      obtain ⟨j, ne, one⟩ := exists_of_nullable read
      show Decode.nullable item (write x) = _
      rw [nullable_of_ne (returns.present ne one), returns.reads one]
      rfl

/-- A field that is always written. -/
theorem required_of_field {value : α} {written : Json} (field : r.field? name = some written)
    (reads : item written = some value) : r.required name item = some value := by
  rw [Record.required, field]
  exact reads

theorem exists_of_required {value : α} (read : r.required name item = some value) :
    ∃ j, item j = some value := by
  rw [Record.required] at read
  split at read
  · exact ⟨_, read⟩
  · cases read

theorem Returns.required (returns : Returns item write) {value : α}
    (read : r.required name item = some value) (field : r'.field? name = some (write value)) :
    r'.required name item = some value :=
  have ⟨_, one⟩ := exists_of_required read
  required_of_field field (returns.reads one)

/-- A flag is written where it is set. -/
theorem flag_of_field {value : Bool}
    (field : r.field? name = if value then some (.bool true) else none) :
    r.withDefault name Decode.bool false = some value := by
  rw [Record.withDefault, field]
  cases value <;> rfl

/-- A list is written where it is not empty. -/
theorem Returns.nonEmpty (returns : Returns item write) {xs : List α}
    (read : r.withDefault name (Decode.list item) [] = some xs)
    (field : r'.field? name = if xs.isEmpty then none else some (.arr (xs.map write))) :
    r'.withDefault name (Decode.list item) [] = some xs := by
  rw [Record.withDefault, field]
  cases xs with
  | nil => rfl
  | cons x rest =>
      rw [Record.withDefault] at read
      split at read
      · exact returns.list.reads read
      · cases read

/-- A map is written where it is not empty. -/
theorem Returns.nonEmptyDict (returns : Returns item write) {d : Dict α}
    (read : r.withDefault name (Decode.dict item) .empty = some d)
    (field : r'.field? name = if (d.mapValues fun _ x => write x).isEmpty then none
      else some (.ofDict (d.mapValues fun _ x => write x))) :
    r'.withDefault name (Decode.dict item) .empty = some d := by
  rw [Record.withDefault, field]
  by_cases empty : d.entries = []
  · have none : d = .empty := Dict.ext empty
    subst none
    rfl
  · have some : (d.mapValues fun _ x => write x).isEmpty = false := by
      simpa [Dict.mapValues, Dict.isEmpty, Entries.mapValues] using empty
    rw [Record.withDefault] at read
    rw [some]
    split at read
    · exact returns.dict.reads read
    · cases read
      exact absurd rfl empty

/-- A field with a default that is written all the same. -/
theorem withDefault_of_field {value default : α} {written : Json}
    (field : r.field? name = some written) (reads : item written = some value) :
    r.withDefault name item default = some value := by
  rw [Record.withDefault, field]
  exact reads

end Fields

end Json.Decode

end ApiForge
