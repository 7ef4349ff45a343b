import ApiForge.Bundle
import ApiForge.Operations.GroupContext
import ApiForge.Proofs.Context
/-
# ApiForge.Proofs.Separators -- flags that tell the last of a list from the others

A template that writes a list has to know where something comes between two items.  Three
passes put flags for that into a list: one into every item but the last, as a field of the item
(`markHasMore`), one likewise, as a vendor extension of the model in it
(`Bundle.markMoreModels`), and one into the last item alone, as a vendor extension
(`changeLast`).  Where the items had no such flag before, the flags tell the place of an item in
the list and nothing else has changed (`Marked`, `tells_changeEach`).
-/

namespace ApiForge

set_option autoImplicit false

namespace Json

variable {j value : Json} {name : String}

/-! ## Fields and vendor extensions -/

/-- The value without the field of that name. -/
def without (j : Json) (name : String) : Json :=
  match j with
  | .obj fields => .obj (Entries.erase fields name)
  | other => other

/-- What the vendor extension of that name says. -/
def extension? (j : Json) (name : String) : Option Json :=
  (j.field? Key.vendorExtensions).bind (·.field? name)

/-- The value without the vendor extension of that name. -/
def withoutExtension (j : Json) (name : String) : Json :=
  j.modifyField Key.vendorExtensions (·.without name)

theorem modifyField_of_field? (stands : j.field? name = some value) (f : Json → Json) :
    j.modifyField name f = j.setField name (f value) := by
  simp only [modifyField, stands]

/-- An object with its fields in order. -/
def IsRecord (j : Json) : Prop := ∃ d : Dict Json, j = ofDict d

theorem isRecord_ofDict (d : Dict Json) : (ofDict d).IsRecord := ⟨d, rfl⟩

theorem isRecord_object (fields : List (String × Json)) : (object fields).IsRecord :=
  ⟨.ofList fields, rfl⟩

theorem IsRecord.setField_eq_self (record : j.IsRecord) (stands : j.field? name = some value) :
    j.setField name value = j := by
  obtain ⟨d, rfl⟩ := record
  exact congrArg obj (d.sorted.insert_eq stands)

theorem extension?_withoutExtension_of_ne (j : Json) {other : String} (ne : other ≠ name) :
    (j.withoutExtension name).extension? other = j.extension? other := by
  have without (v : Json) : (v.without name).field? other = v.field? other := by
    cases v with
    | obj fields => exact (Entries.get?_erase fields name other).trans (if_neg ne)
    | _ => rfl
  rw [extension?, withoutExtension, field?_modifyField, if_pos rfl, extension?]
  cases j.field? Key.vendorExtensions with
  | none => rfl
  | some v => exact without v

end Json

theorem setVendorExtension_eq {j extensions : Json} (record : extensions.IsRecord)
    (stands : j.field? Key.vendorExtensions = some extensions) (name : String) (value : Json) :
    setVendorExtension j name value =
      j.setField Key.vendorExtensions (extensions.setField name value) := by
  obtain ⟨d, rfl⟩ := record
  rw [setVendorExtension, stands]
  rfl

/-! ## Marks -/

/-- The one value is the other with a flag.  It is read where it was put and nowhere else, and
taken away it leaves the value as it was. -/
structure Marked (read : Json → Option Json) (clear : Json → Json) (flag j marked : Json) :
    Prop where
  unsaid : read j = none
  said : read marked = some flag
  kept : clear j = j
  cleared : clear marked = j

section Marking

variable {read : Json → Option Json} {clear : Json → Json} {flag j value marked : Json}
  {name : String}

/-- A field is a flag where there was none of its name. -/
theorem marked_setField (record : j.IsRecord) (absent : j.field? name = none) (flag : Json) :
    Marked (·.field? name) (·.without name) flag j (j.setField name flag) := by
  obtain ⟨d, rfl⟩ := record
  exact {
    unsaid := absent
    said := Dict.get?_insert_self d name flag
    kept := congrArg Json.obj (Entries.erase_eq_self absent)
    cleared := congrArg Json.obj (Entries.erase_insert absent flag) }

/-- A flag in a field is a flag of the whole. -/
theorem Marked.inField (mark : Marked read clear flag value marked) (record : j.IsRecord)
    (stands : j.field? name = some value) :
    Marked (fun j => (j.field? name).bind read) (·.modifyField name clear) flag j
      (j.setField name marked) where
  unsaid := by rw [stands, Option.bind_some, mark.unsaid]
  said := by rw [Json.field?_setField stands, Option.bind_some, mark.said]
  kept := by
    rw [Json.modifyField_of_field? stands, mark.kept, record.setField_eq_self stands]
  cleared := by
    rw [Json.modifyField_of_field? (Json.field?_setField stands marked), Json.setField_setField,
      mark.cleared, record.setField_eq_self stands]

/-- A vendor extension is a flag where there was none of its name. -/
theorem marked_setVendorExtension {extensions : Dict Json} (record : j.IsRecord)
    (stands : j.field? Key.vendorExtensions = some (.ofDict extensions))
    (absent : extensions.get? name = none) (flag : Json) :
    Marked (·.extension? name) (·.withoutExtension name) flag j
      (setVendorExtension j name flag) := by
  have inside : (Json.ofDict extensions).IsRecord := Json.isRecord_ofDict extensions
  rw [setVendorExtension_eq inside stands]
  exact (marked_setField inside absent flag).inField record stands

end Marking

/-! ## Lists -/

/-- Every item but the last says the one thing, and the last says the other. -/
def Tells (read : Json → Option Json) (before last : Option Json) (items : List Json) : Prop :=
  ∀ i j, items[i]? = some j → read j = if i + 1 < items.length then before else last

/-- Change the last item of a list in one way and all others in another. -/
def changeEach (before last : Json → Json) : List Json → List Json
  | [] => []
  | [j] => [last j]
  | j :: rest => before j :: changeEach before last rest

theorem markHasMore_eq (items : List Json) :
    markHasMore items = changeEach (·.setField Key.hasMore (.bool true)) id items := by
  induction items using markHasMore.induct with
  | case1 => rfl
  | case2 last => rfl
  | case3 j rest more ih => simp only [markHasMore, changeEach, ih]

theorem Bundle.markMoreModels_eq (items : List Json) : Bundle.markMoreModels items = changeEach
    (·.modifyField Key.model (setVendorExtension · Key.moreModelsExtension (.bool true))) id
    items := by
  induction items using Bundle.markMoreModels.induct with
  | case1 => rfl
  | case2 last => rfl
  | case3 j rest more ih => simp only [Bundle.markMoreModels, changeEach, ih]

theorem changeLast_eq (f : Json → Json) (items : List Json) :
    changeLast f items = changeEach id f items := by
  induction items using changeLast.induct with
  | case1 => rfl
  | case2 last => rfl
  | case3 j rest more ih => simp only [changeLast, changeEach, ih, id]

section Telling

variable {read : Json → Option Json} {clear before last : Json → Json}
  {flagBefore flagLast : Option Json} {items : List Json}

theorem tells_cons {j next : Json} {rest : List Json} (first : read j = flagBefore)
    (later : Tells read flagBefore flagLast (next :: rest)) :
    Tells read flagBefore flagLast (j :: next :: rest) := by
  rintro (_ | i) found here
  · cases here
    simpa using first
  · simpa using later i found here

/-- **Flags tell the place of an item, and nothing else changes.** -/
theorem tells_changeEach
    (saidBefore : ∀ j ∈ items, read (before j) = flagBefore ∧ clear (before j) = j)
    (saidLast : ∀ j ∈ items, read (last j) = flagLast ∧ clear (last j) = j) :
    Tells read flagBefore flagLast (changeEach before last items) ∧
      (changeEach before last items).map clear = items := by
  induction items using changeEach.induct with
  | case1 => exact ⟨fun _ _ here => (nomatch here), rfl⟩
  | case2 j =>
      obtain ⟨said, cleared⟩ := saidLast j List.mem_cons_self
      refine ⟨?_, congrArg ([·]) cleared⟩
      rintro (_ | i) found here
      · cases here
        exact said
      · cases here
  | case3 j rest more ih =>
      obtain ⟨said, cleared⟩ := saidBefore j List.mem_cons_self
      obtain ⟨later, whole⟩ := ih (fun k mem => saidBefore k (List.mem_cons_of_mem _ mem))
        fun k mem => saidLast k (List.mem_cons_of_mem _ mem)
      obtain ⟨next, others, rfl⟩ := List.exists_cons_of_ne_nil more
      refine ⟨?_, by rw [changeEach, List.map_cons, cleared, whole]; exact more⟩
      rw [changeEach]
      · cases others with
        | nil => exact tells_cons said later
        | cons => exact tells_cons said later
      · exact more

variable {flag : Json} {f : Json → Json} (marked : ∀ j ∈ items, Marked read clear flag j (f j))
include marked

theorem tells_before : Tells read (some flag) none (changeEach f id items) ∧
    (changeEach f id items).map clear = items :=
  tells_changeEach (fun j mem => ⟨(marked j mem).said, (marked j mem).cleared⟩)
    fun j mem => ⟨(marked j mem).unsaid, (marked j mem).kept⟩

theorem tells_last : Tells read none (some flag) (changeEach id f items) ∧
    (changeEach id f items).map clear = items :=
  tells_changeEach (fun j mem => ⟨(marked j mem).unsaid, (marked j mem).kept⟩)
    fun j mem => ⟨(marked j mem).said, (marked j mem).cleared⟩

end Telling

end ApiForge
