import ApiForge.Description.Normalize
import ApiForge.Proofs.Context
import ApiForge.Proofs.Path
import Mathlib.Data.List.Forall2
/-
# ApiForge.Proofs.Description.Straight -- what straightening makes of a document

Straightening goes over the path items of a document once (`document_eq`) and touches nothing
else (`keepsOutside_document`).  Its first step leaves names only that it leaves as they are, so
that it changes nothing when it is done again, whatever the document looks like
(`normalizeVerbs_normalizeVerbs`).  Both steps together are done once and for all if no shared
parameter is a reference itself (`document_document`).

As long as the names of a path item differ in more than the case of letters, the first step does
to each field on its own what becomes of it (`get?_foldl_normalizeField`), although it takes
fields out and puts them in again on the way.  The second step therefore finds every operation
under its verb, in whatever letters it was written (`followsReferences_document`).
-/

namespace ApiForge

set_option autoImplicit false

open ApiForge.Text

/-! ## Path items of a document -/

namespace Normalize

theorem field?_mapPathItems_of_ne (f : Json → Json) (j : Json) {name : String}
    (other : name ≠ "paths") : (mapPathItems f j).field? name = j.field? name := by
  rw [mapPathItems]
  split
  · exact j.field?_setField_of_ne _ other.symm
  · rfl

theorem field?_paths_mapPathItems {f : Json → Json} {j : Json} {items : List (String × Json)}
    (stands : j.field? "paths" = some (.obj items)) :
    (mapPathItems f j).field? "paths"
      = some (.obj (Entries.mapValues (fun _ item => f item) items)) := by
  rw [mapPathItems, stands]
  exact Json.field?_setField stands _

theorem mapPathItems_of_shapeless {f : Json → Json} {j : Json}
    (shapeless : ∀ items, j.field? "paths" ≠ some (.obj items)) : mapPathItems f j = j := by
  rw [mapPathItems]
  split
  · rename_i items stands
    exact absurd stands (shapeless items)
  · rfl

/-- Two steps over the path items are one. -/
theorem mapPathItems_mapPathItems (f g : Json → Json) (j : Json) :
    mapPathItems g (mapPathItems f j) = mapPathItems (g ∘ f) j := by
  by_cases shape : ∃ items, j.field? "paths" = some (.obj items)
  · obtain ⟨items, stands⟩ := shape
    rw [mapPathItems, field?_paths_mapPathItems stands]
    simp only [mapPathItems, stands, Json.setField_setField]
    simp [Entries.mapValues, Function.comp_def]
  · have shapeless := not_exists.1 shape
    rw [mapPathItems_of_shapeless shapeless, mapPathItems_of_shapeless shapeless,
      mapPathItems_of_shapeless shapeless]

theorem sharedParameters_mapPathItems (f : Json → Json) (j : Json) :
    sharedParameters (mapPathItems f j) = sharedParameters j := by
  rw [sharedParameters, field?_mapPathItems_of_ne f j (by decide), ← sharedParameters]

/-- What straightening does to one path item. -/
def straightenItem (shared : List (String × Json)) (item : Json) : Json :=
  if shared.isEmpty then normalizeItem item else inlineInItem shared (normalizeItem item)

theorem document_eq (j : Json) :
    document j = mapPathItems (straightenItem (sharedParameters j)) j := by
  rw [document, inlineSharedParameters, normalizeVerbs, sharedParameters_mapPathItems]
  split
  · rename_i none
    rw [none]
    rfl
  · rename_i some
    have nonempty : (sharedParameters j).isEmpty = false := List.isEmpty_eq_false_iff.2 some
    rw [mapPathItems_mapPathItems]
    refine congrArg (mapPathItems · j) (funext fun item => ?_)
    rw [straightenItem, nonempty]
    rfl

theorem sharedParameters_document (j : Json) :
    sharedParameters (document j) = sharedParameters j := by
  rw [document_eq, sharedParameters_mapPathItems]

/-! ## Names of fields -/

theorem asciiLowerText_of_isName {name : String} (verb : Verb.isName name = true) :
    asciiLowerText name = name := by
  obtain ⟨v, -, same⟩ := List.any_eq_true.1 verb
  rw [← of_decide_eq_true same]
  exact (by decide : ∀ v ∈ Verb.all, asciiLowerText v.name = v.name) v v.mem_all

theorem ne_parameters_of_isName {name : String} (verb : Verb.isName name = true) :
    name ≠ "parameters" := by
  rintro rfl
  exact absurd verb (by decide)

theorem isKept_of_verb {name : String} (verb : Verb.isName (asciiLowerText name) = true) :
    isKept name = true := by
  simp [isKept, verb]

/-- The name that a field has afterwards. -/
def settledName (name : String) : String :=
  if Verb.isName (asciiLowerText name) then asciiLowerText name else name

theorem asciiLowerText_settledName (name : String) :
    asciiLowerText (settledName name) = asciiLowerText name := by
  rw [settledName]
  split
  · rename_i verb
    exact asciiLowerText_of_isName verb
  · rfl

theorem settledName_of_still {name : String}
    (still : ¬ (asciiLowerText name ≠ name ∧ Verb.isName (asciiLowerText name) = true)) :
    settledName name = name := by
  rw [settledName]
  split
  · rename_i verb
    exact Classical.not_not.1 fun moved => still ⟨moved, verb⟩
  · rfl

/-- Names that a path item keeps as they are. -/
def IsSettled (name : String) : Prop := isKept name = true ∧ settledName name = name

instance (name : String) : Decidable (IsSettled name) := inferInstanceAs (Decidable (_ ∧ _))

theorem isSettled_of_isName {name : String} (verb : Verb.isName name = true) :
    IsSettled name := by
  have lower := asciiLowerText_of_isName verb
  exact ⟨isKept_of_verb (by rwa [lower]), by simp [settledName, lower]⟩

theorem normalizeField_of_settled (fields : List (String × Json)) {name : String}
    (settled : IsSettled name) : normalizeField fields name = fields := by
  rw [normalizeField, if_pos settled.1]
  refine if_neg fun moved => moved.1 ?_
  have same := settled.2
  rwa [settledName, if_pos moved.2] at same

/-- A path item with settled names only is left as it is. -/
theorem normalizeItem_of_settled {fields : List (String × Json)}
    (settled : ∀ e ∈ fields, IsSettled e.1) : normalizeItem (.obj fields) = .obj fields := by
  have run (names : List String) (each : ∀ name ∈ names, IsSettled name) :
      names.foldl normalizeField fields = fields := by
    induction names with
    | nil => rfl
    | cons name rest ih =>
        rw [List.foldl_cons, normalizeField_of_settled fields (each name List.mem_cons_self)]
        exact ih fun other mem => each other (List.mem_cons_of_mem _ mem)
  exact congrArg Json.obj (run _ (List.forall_mem_map.2 settled))

/-- Treating a name settles it, and brings in none that is not settled. -/
theorem isSettled_of_mem_normalizeField {fields : List (String × Json)} {name : String}
    {e : String × Json} (mem : e ∈ normalizeField fields name) :
    IsSettled e.1 ∨ (e ∈ fields ∧ e.1 ≠ name) := by
  have erased {es : List (String × Json)} (inside : e ∈ Entries.erase es name) :
      e ∈ es ∧ e.1 ≠ name := by
    simpa [Entries.erase] using inside
  rw [normalizeField] at mem
  split at mem
  · rename_i kept
    split at mem
    · rename_i moved
      split at mem
      · rcases Entries.mem_insert mem with rfl | inside
        · exact .inl (isSettled_of_isName moved.2)
        · exact .inr (erased inside)
      · rename_i absent
        exact .inr ⟨mem, Entries.ne_of_get?_eq_none absent e mem⟩
    · rename_i still
      by_cases same : e.1 = name
      · exact .inl (same ▸ ⟨kept, settledName_of_still still⟩)
      · exact .inr ⟨mem, same⟩
  · exact .inr (erased mem)

/-- **A path item that was normalized has settled names only.** -/
theorem isSettled_of_mem_foldl {names : List String} {fields : List (String × Json)}
    (covered : ∀ e ∈ fields, IsSettled e.1 ∨ e.1 ∈ names) :
    ∀ e ∈ names.foldl normalizeField fields, IsSettled e.1 := by
  induction names generalizing fields with
  | nil => exact fun e mem => (covered e mem).resolve_right List.not_mem_nil
  | cons name rest ih =>
      refine ih fun e mem => ?_
      rcases isSettled_of_mem_normalizeField mem with settled | ⟨inside, other⟩
      · exact .inl settled
      · exact (covered e inside).imp id fun listed => (List.mem_cons.1 listed).resolve_left other

/-- Normalizing a path item again changes nothing. -/
theorem normalizeItem_normalizeItem (item : Json) :
    normalizeItem (normalizeItem item) = normalizeItem item := by
  cases item with
  | obj fields =>
      refine normalizeItem_of_settled (isSettled_of_mem_foldl fun e mem => .inr ?_)
      exact List.mem_map_of_mem mem
  | _ => rfl

/-- **Normalizing verbs again changes nothing.** -/
theorem normalizeVerbs_normalizeVerbs (j : Json) :
    normalizeVerbs (normalizeVerbs j) = normalizeVerbs j := by
  rw [normalizeVerbs, normalizeVerbs, mapPathItems_mapPathItems]
  exact congrArg (mapPathItems · j) (funext normalizeItem_normalizeItem)

/-! ## References to shared parameters -/

/-- No shared parameter is a reference itself. -/
def AreOwn (shared : List (String × Json)) : Prop := ∀ e ∈ shared, e.2.field? "$ref" = none

instance (shared : List (String × Json)) : Decidable (AreOwn shared) :=
  inferInstanceAs (Decidable (∀ e ∈ shared, e.2.field? "$ref" = none))

/-- **A parameter refers to the shared parameter whose name follows the common front.** -/
theorem referredParameter?_eq_some_iff {shared : List (String × Json)} {p target : Json} :
    referredParameter? shared p = some target ↔ ∃ name,
      p.field? "$ref" = some (.str (parameterReference ++ name)) ∧
        Entries.get? shared name = some target := by
  rw [referredParameter?]
  split
  · rename_i r stands
    rw [stands, Option.bind_eq_some_iff]
    simp only [stripHead?_eq_some_iff, Option.some.injEq, Json.str.injEq]
  · rename_i other
    exact iff_of_false (by simp) fun ⟨name, stands, _⟩ => other _ stands

section Inlining

variable {shared : List (String × Json)}

theorem referredParameter?_of_own {p : Json} (own : p.field? "$ref" = none) :
    referredParameter? shared p = none := by
  rw [referredParameter?, own]

/-- Nothing refers to a shared parameter where there is none. -/
theorem inlineParameters_nil : inlineParameters [] = id := by
  funext value
  cases value with
  | arr items =>
      have none (p : Json) : referredParameter? [] p = none := by
        rw [Option.eq_none_iff_forall_ne_some]
        intro target refers
        obtain ⟨name, -, found⟩ := referredParameter?_eq_some_iff.1 refers
        cases found
      simp [inlineParameters, none]
  | _ => rfl

theorem inlineInField_nil {name : String} (plain : name ∈ plainNames) :
    inlineInField [] name = id := by
  have noVerb : Verb.isName name = false :=
    (by decide : ∀ n ∈ plainNames, Verb.isName n = false) name plain
  funext value
  rw [inlineInField, noVerb, inlineParameters_nil]
  split <;> rfl

theorem inlineParameters_inlineParameters (own : AreOwn shared) (value : Json) :
    inlineParameters shared (inlineParameters shared value) = inlineParameters shared value := by
  cases value with
  | arr items =>
      simp only [inlineParameters, List.map_map]
      refine congrArg Json.arr (List.map_congr_left fun p _ => ?_)
      rw [Function.comp_apply]
      cases refers : referredParameter? shared p with
      | none => rw [Option.getD_none, refers, Option.getD_none]
      | some target =>
          obtain ⟨name, -, found⟩ := referredParameter?_eq_some_iff.1 refers
          have final : referredParameter? shared target = none :=
            referredParameter?_of_own (own _ (Entries.mem_of_get? found))
          rw [Option.getD_some, final, Option.getD_none]
  | _ => rfl

theorem inlineInField_inlineInField (own : AreOwn shared) (name : String) (value : Json) :
    inlineInField shared name (inlineInField shared name value)
      = inlineInField shared name value := by
  have again : inlineParameters shared ∘ inlineParameters shared = inlineParameters shared :=
    funext (inlineParameters_inlineParameters own)
  by_cases list : name = "parameters"
  · simp only [inlineInField, if_pos list, inlineParameters_inlineParameters own]
  · by_cases verb : Verb.isName name = true
    · simp only [inlineInField, if_neg list, if_pos verb, Json.modifyField_modifyField, again]
    · simp only [inlineInField, if_neg list, if_neg verb]

theorem inlineInItem_inlineInItem (own : AreOwn shared) (item : Json) :
    inlineInItem shared (inlineInItem shared item) = inlineInItem shared item := by
  cases item with
  | obj fields =>
      simp only [inlineInItem, Entries.mapValues, List.map_map]
      refine congrArg Json.obj (List.map_congr_left fun e _ => ?_)
      simp only [Function.comp_apply, inlineInField_inlineInField own]
  | _ => rfl

/-- Parameters that are put in place leave the names of a path item as they are. -/
theorem normalizeItem_inlineInItem (item : Json) :
    normalizeItem (inlineInItem shared (normalizeItem item))
      = inlineInItem shared (normalizeItem item) := by
  cases item with
  | obj fields =>
      refine normalizeItem_of_settled (List.forall_mem_map.2 ?_)
      exact isSettled_of_mem_foldl fun e mem => .inr (List.mem_map_of_mem mem)
  | _ => rfl

theorem straightenItem_straightenItem (own : AreOwn shared) (item : Json) :
    straightenItem shared (straightenItem shared item) = straightenItem shared item := by
  simp only [straightenItem]
  split
  · exact normalizeItem_normalizeItem item
  · rw [normalizeItem_inlineInItem, inlineInItem_inlineInItem own]

/-- **A document without references among its shared parameters is straight once it was
straightened.** -/
theorem document_document {j : Json} (own : AreOwn (sharedParameters j)) :
    document (document j) = document j := by
  rw [document_eq (document j), sharedParameters_document, document_eq j,
    mapPathItems_mapPathItems]
  exact congrArg (mapPathItems · j) (funext (straightenItem_straightenItem own))

end Inlining

/-! ## What has become of a field -/

/-- The names of the fields differ in more than the case of letters. -/
def Apart (fields : List (String × Json)) : Prop :=
  (fields.map fun e => asciiLowerText e.1).Nodup

instance (fields : List (String × Json)) : Decidable (Apart fields) :=
  inferInstanceAs (Decidable (List.Nodup _))

/-- What becomes of one field of a path item. -/
def settledField (e : String × Json) : Option (String × Json) :=
  if isKept e.1 then some (settledName e.1, e.2) else none

section Fields

variable {done rest : List (String × Json)} {e : String × Json}

theorem Apart.get?_eq_none (apart : Apart (done ++ e :: rest)) {name : String}
    (same : asciiLowerText name = asciiLowerText e.1) :
    Entries.get? done name = none ∧ Entries.get? rest name = none := by
  rw [Apart, List.map_append, List.map_cons, List.nodup_append, List.nodup_cons] at apart
  obtain ⟨-, ⟨behind, -⟩, before⟩ := apart
  constructor
  · refine Entries.get?_eq_none_of_forall_ne fun other mem found => ?_
    refine before (asciiLowerText other.1) (List.mem_map_of_mem mem) _ List.mem_cons_self ?_
    rw [found, same]
  · refine Entries.get?_eq_none_of_forall_ne fun other mem found => behind ?_
    rw [← same, ← found]
    exact List.mem_map_of_mem mem

/-- A field that becomes what it becomes stays apart from the others. -/
theorem Apart.settled (apart : Apart (done ++ e :: rest)) :
    Apart (done ++ (settledField e).toList ++ rest) := by
  rw [Apart, List.map_append, List.map_cons] at apart
  rw [Apart, List.append_assoc, List.map_append, List.map_append, settledField]
  split
  · rw [Option.toList_some, List.map_singleton, asciiLowerText_settledName]
    exact apart
  · exact apart.sublist (List.Sublist.append_left (List.sublist_cons_self _ _) _)

/-- Treating one name does to its field what becomes of it, and nothing to the others. -/
theorem get?_normalizeField {fields : List (String × Json)} (apart : Apart (done ++ e :: rest))
    (same : ∀ name, Entries.get? fields name = Entries.get? (done ++ e :: rest) name)
    (name : String) : Entries.get? (normalizeField fields e.1) name
      = Entries.get? (done ++ (settledField e).toList ++ rest) name := by
  obtain ⟨k, value⟩ := e
  have alone : Entries.get? done k = none ∧ Entries.get? rest k = none := apart.get?_eq_none rfl
  have stands : Entries.get? fields k = some value := by
    rw [same, Entries.get?_append, alone.1, Option.none_or, Entries.get?, if_pos rfl]
  have elsewhere (ne : name ≠ k) : Entries.get? fields name = Entries.get? (done ++ rest) name := by
    rw [same, Entries.get?_append, Entries.get?_append, Entries.get?, if_neg ne.symm]
  have erased : Entries.get? (Entries.erase fields k) name = Entries.get? (done ++ rest) name := by
    rw [Entries.get?_erase]
    split
    · rename_i here
      rw [here, Entries.get?_append, alone.1, alone.2]
      rfl
    · rename_i ne
      exact elsewhere ne
  rw [normalizeField, settledField]
  split
  · split
    · -- a verb in other letters goes to its name in lower case, where nothing else stands
      rename_i moved
      have lower : settledName k = asciiLowerText k := if_pos moved.2
      have free := apart.get?_eq_none (asciiLowerText_of_isName moved.2)
      rw [stands]
      simp only [lower, Option.toList_some, List.append_assoc, List.singleton_append]
      rw [Entries.get?_insert, erased, Entries.get?_append, Entries.get?_append, Entries.get?]
      split
      · rename_i here
        rw [← here, free.1, Option.none_or]
      · rfl
    · rename_i still
      rw [settledName_of_still still, same]
      simp
  · simpa using erased

theorem filterMap_cons_eq_append {α β : Type} (f : α → Option β) (a : α) (l : List α) :
    (a :: l).filterMap f = (f a).toList ++ l.filterMap f := by
  rw [List.filterMap_cons]
  cases f a <;> rfl

/-- **Treating all names does to each field what becomes of it.** -/
theorem get?_foldl_normalizeField {fields : List (String × Json)} (apart : Apart (done ++ rest))
    (same : ∀ name, Entries.get? fields name = Entries.get? (done ++ rest) name)
    (name : String) : Entries.get? ((rest.map Prod.fst).foldl normalizeField fields) name
      = Entries.get? (done ++ rest.filterMap settledField) name := by
  induction rest generalizing done fields with
  | nil => exact same name
  | cons e rest ih =>
      rw [List.map_cons, List.foldl_cons, filterMap_cons_eq_append, ← List.append_assoc]
      exact ih apart.settled (get?_normalizeField apart same)

end Fields

section Items

variable {fields shared : List (String × Json)}

theorem Apart.nodup (apart : Apart fields) : (fields.map Prod.fst).Nodup :=
  List.pairwise_map.2 ((List.pairwise_map.1 apart).imp fun ne same => ne (congrArg _ same))

/-- Among entries of different names every one is found. -/
theorem Apart.get?_of_mem (apart : Apart fields) {e : String × Json} (mem : e ∈ fields) :
    Entries.get? fields e.1 = some e.2 := by
  rw [← Entries.get?_ofList_of_nodup apart.nodup, Entries.get?_ofList_of_mem mem apart.nodup]

theorem Apart.filterMap {f : String × Json → Option (String × Json)}
    (keeps : ∀ e e', f e = some e' → asciiLowerText e'.1 = asciiLowerText e.1)
    (apart : Apart fields) : Apart (fields.filterMap f) := by
  refine List.Nodup.sublist ?_ apart
  induction fields with
  | nil => exact List.Sublist.slnil
  | cons e rest ih =>
      have tail := ih apart.of_cons
      rw [List.filterMap_cons]
      split
      · exact tail.cons _
      · rename_i e' made
        rw [List.map_cons, List.map_cons, keeps e e' made]
        exact tail.cons_cons _

theorem asciiLowerText_settledField {e e' : String × Json} (settled : settledField e = some e') :
    asciiLowerText e'.1 = asciiLowerText e.1 := by
  rw [settledField] at settled
  split at settled
  · cases settled
    exact asciiLowerText_settledName e.1
  · cases settled

theorem exists_straightenItem_obj (shared fields : List (String × Json)) :
    ∃ treated, straightenItem shared (.obj fields) = .obj treated := by
  rw [straightenItem]
  split
  · exact ⟨_, rfl⟩
  · exact ⟨_, rfl⟩

/-- The fields of a path item after both steps. -/
theorem field?_straightenItem (apart : Apart fields) (name : String) :
    (straightenItem shared (.obj fields)).field? name =
      (Entries.get? (fields.filterMap settledField) name).map fun value =>
        if shared.isEmpty then value else inlineInField shared name value := by
  have normal : Entries.get? ((fields.map Prod.fst).foldl normalizeField fields) name
      = Entries.get? (fields.filterMap settledField) name :=
    @get?_foldl_normalizeField [] fields fields apart (fun _ => rfl) name
  rw [straightenItem]
  split
  · rw [show (normalizeItem (.obj fields)).field? name = _ from normal]
    simp
  · exact (Entries.get?_mapValues _ _ name).trans (congrArg _ normal)

/-- An operation stands under its verb in lower case, with its references replaced. -/
theorem field?_straightenItem_of_verb (apart : Apart fields) {key : String} {operation : Json}
    (mem : (key, operation) ∈ fields) (verb : Verb.isName (asciiLowerText key) = true) :
    (straightenItem shared (.obj fields)).field? (asciiLowerText key)
      = some (if shared.isEmpty then operation
          else operation.modifyField "parameters" (inlineParameters shared)) := by
  have moved : settledField (key, operation) = some (asciiLowerText key, operation) := by
    simp only [settledField, isKept_of_verb verb, settledName, verb, if_true]
  have apartToo : Apart (fields.filterMap settledField) :=
    apart.filterMap fun _ _ => asciiLowerText_settledField
  have stands := apartToo.get?_of_mem (List.mem_filterMap.2 ⟨_, mem, moved⟩)
  rw [field?_straightenItem apart, stands, Option.map_some, inlineInField,
    if_neg (ne_parameters_of_isName verb), if_pos verb]

end Items

/-! ## What a document keeps -/

/-- One document is the other but for what stands in path items that are objects. -/
structure KeepsOutside (j j' : Json) : Prop where
  others : ∀ name, name ≠ "paths" → j'.field? name = j.field? name
  shapeless : (∀ items, j.field? "paths" ≠ some (.obj items)) → j' = j
  items : ∀ items, j.field? "paths" = some (.obj items) → ∃ items',
    j'.field? "paths" = some (.obj items') ∧
      List.Forall₂ (fun e e' => e'.1 = e.1 ∧ ((∀ fields, e.2 ≠ .obj fields) → e'.2 = e.2))
        items items'

theorem straightenItem_of_shapeless (shared : List (String × Json)) {item : Json}
    (shapeless : ∀ fields, item ≠ .obj fields) : straightenItem shared item = item := by
  rw [straightenItem]
  cases item with
  | obj fields => exact absurd rfl (shapeless fields)
  | _ => split <;> rfl

theorem keepsOutside_document (j : Json) : KeepsOutside j (document j) := by
  rw [document_eq]
  refine ⟨fun name => field?_mapPathItems_of_ne _ j, mapPathItems_of_shapeless,
    fun items stands => ⟨_, field?_paths_mapPathItems stands, ?_⟩⟩
  rw [Entries.mapValues, List.forall₂_map_right_iff, List.forall₂_same]
  exact fun e _ => ⟨rfl, straightenItem_of_shapeless _⟩

/-- The path items of a document. -/
def pathItems (j : Json) : List (String × Json) := ((j.field? "paths").bind (·.asFields?)).getD []

theorem pathItems_eq {j : Json} {items : List (String × Json)}
    (stands : j.field? "paths" = some (.obj items)) : pathItems j = items := by
  rw [pathItems, stands]
  rfl

/-- No path item has names that differ in the case of letters only. -/
def ItemsApart (j : Json) : Prop := ∀ e ∈ pathItems j, ∀ fields ∈ e.2.asFields?, Apart fields

instance (j : Json) : Decidable (ItemsApart j) :=
  inferInstanceAs (Decidable (∀ e ∈ pathItems j, ∀ fields ∈ e.2.asFields?, Apart fields))

/-- Under each verb, in whatever letters it was written, the parameters of a list that refer to
shared ones are replaced by these. -/
def FollowsReferences (j j' : Json) : Prop :=
  ∀ items, j.field? "paths" = some (.obj items) → ∃ items',
    j'.field? "paths" = some (.obj items') ∧ ∀ path fields, (path, Json.obj fields) ∈ items →
      ∃ fields', (path, Json.obj fields') ∈ items' ∧ ∀ key operation parameters,
        (key, operation) ∈ fields → Verb.isName (asciiLowerText key) = true →
        operation.field? "parameters" = some (.arr parameters) →
        ((Entries.get? fields' (asciiLowerText key)).bind (·.field? "parameters"))
          = some (.arr (parameters.map fun p =>
              (referredParameter? (sharedParameters j) p).getD p))

theorem followsReferences_document {j : Json} (apart : ItemsApart j) :
    FollowsReferences j (document j) := by
  rw [document_eq]
  intro items stands
  refine ⟨_, field?_paths_mapPathItems stands, fun path fields listed => ?_⟩
  obtain ⟨fields', treated⟩ := exists_straightenItem_obj (sharedParameters j) fields
  refine ⟨fields', List.mem_map.2 ⟨_, listed, congrArg (Prod.mk path) treated⟩, ?_⟩
  intro key operation parameters mem verb list
  have field :
      (straightenItem (sharedParameters j) (.obj fields)).field? (asciiLowerText key) = _ :=
    field?_straightenItem_of_verb (apart _ (pathItems_eq stands ▸ listed) fields rfl) mem verb
  rw [treated, Json.field?] at field
  rw [field, Option.bind_some]
  split
  · rename_i none
    rw [List.isEmpty_iff.1 none, list]
    have same := congrFun inlineParameters_nil (.arr parameters)
    exact congrArg some same.symm
  · rw [Json.field?_modifyField, if_pos rfl, list]
    rfl

end Normalize

end ApiForge
