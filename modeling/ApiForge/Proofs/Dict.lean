import ApiForge.Dict
/-
# ApiForge.Proofs.Dict -- looking things up in maps

What a lookup gives after an insertion (`get?_insert`), after one map went into another
(`get?_extend`) and after sorting a list (`get?_ofList`).  A map is nothing but its
lookups: `ext_get?`.  A sorted list is left alone where it has the value that is put in
(`Entries.Sorted.insert_eq`), and what was put under a new name can be taken out again
(`Entries.erase_insert`).
-/

namespace ApiForge

set_option autoImplicit false

universe u v

namespace Entries

variable {α : Type u}

theorem get?_insert (es : List (String × α)) (name other : String) (value : α) :
    get? (insert es name value) other = if name = other then some value else get? es other := by
  induction es with
  | nil => simp [insert, get?]
  | cons head rest ih =>
      obtain ⟨k, v⟩ := head
      simp only [insert]
      split
      · simp only [get?]
      · split
        · rename_i same
          subst same
          simp only [get?]
          split <;> rfl
        · rename_i ne
          simp only [get?, ih]
          by_cases hit : name = other
          · subst hit
            simp [Ne.symm ne]
          · simp [hit]

/-- Of two values that are put under one name the second stays. -/
theorem insert_insert (es : List (String × α)) (name : String) (first second : α) :
    insert (insert es name first) name second = insert es name second := by
  induction es with
  | nil => simp [insert]
  | cons e rest ih =>
      obtain ⟨k, v⟩ := e
      by_cases before : name < k
      · simp [insert, before]
      · by_cases same : name = k
        · simp [insert, same]
        · simp [insert, before, same, ih]

theorem mem_of_get? {es : List (String × α)} {name : String} {value : α}
    (found : get? es name = some value) : (name, value) ∈ es := by
  induction es with
  | nil => simp [get?] at found
  | cons head rest ih =>
      obtain ⟨k, v⟩ := head
      simp only [get?] at found
      split at found
      · rename_i same
        cases same
        cases found
        exact List.mem_cons_self
      · exact List.mem_cons_of_mem _ (ih found)

/-- In a sorted list no entry hides another. -/
theorem Sorted.get?_of_mem {es : List (String × α)} (sorted : Sorted es) {e : String × α}
    (mem : e ∈ es) : get? es e.1 = some e.2 := by
  induction es with
  | nil => cases mem
  | cons head rest ih =>
      have tail := List.pairwise_cons.1 sorted
      rcases List.mem_cons.1 mem with rfl | later
      · simp [get?]
      · have ne : head.1 ≠ e.1 := fun same =>
          absurd (tail.1 e later) (same ▸ String.lt_irrefl _)
        obtain ⟨k, v⟩ := head
        simp only [get?]
        rw [if_neg ne]
        exact ih tail.2 later

theorem Sorted.mem_iff_get? {es : List (String × α)} (sorted : Sorted es) {e : String × α} :
    e ∈ es ↔ get? es e.1 = some e.2 :=
  ⟨sorted.get?_of_mem, mem_of_get?⟩

theorem get?_eq_none_of_forall_ne {es : List (String × α)} {name : String}
    (absent : ∀ e ∈ es, e.1 ≠ name) : get? es name = none := by
  cases found : get? es name with
  | none => rfl
  | some value => exact absurd rfl (absent _ (mem_of_get? found))

theorem ne_of_get?_eq_none {es : List (String × α)} {name : String}
    (absent : get? es name = none) : ∀ e ∈ es, e.1 ≠ name := by
  induction es with
  | nil => exact fun e mem => absurd mem List.not_mem_nil
  | cons head rest ih =>
      rw [get?] at absent
      split at absent
      · cases absent
      · rename_i other
        exact List.forall_mem_cons.2 ⟨other, ih absent⟩

theorem get?_append (xs ys : List (String × α)) (name : String) :
    get? (xs ++ ys) name = (get? xs name).or (get? ys name) := by
  induction xs with
  | nil => rfl
  | cons head rest ih =>
      obtain ⟨k, v⟩ := head
      simp only [List.cons_append, get?]
      split
      · rfl
      · exact ih

/-- Of the entries with one name the last one counts. -/
theorem get?_ofList (es : List (String × α)) (name : String) :
    get? (ofList es) name = get? es.reverse name := by
  have grow : ∀ (rest acc : List (String × α)),
      get? (rest.foldl (fun acc e => insert acc e.1 e.2) acc) name
        = (get? rest.reverse name).or (get? acc name) := by
    intro rest
    induction rest with
    | nil => exact fun _ => rfl
    | cons e rest ih =>
        intro acc
        rw [List.foldl_cons, ih, get?_insert, List.reverse_cons, get?_append]
        cases get? rest.reverse name with
        | some value => rfl
        | none =>
            simp only [Option.none_or, get?]
            split <;> rfl
  rw [ofList, grow es []]
  exact Option.or_none

/-- Among entries of different names every one counts. -/
theorem get?_ofList_of_mem {es : List (String × α)} {e : String × α} (mem : e ∈ es)
    (distinct : (es.map Prod.fst).Nodup) : get? (ofList es) e.1 = some e.2 := by
  rw [get?_ofList]
  have apart : (es.reverse.map Prod.fst).Nodup := by
    rw [List.map_reverse]
    exact List.pairwise_reverse.2 (distinct.imp Ne.symm)
  replace mem := List.mem_reverse.2 mem
  generalize es.reverse = back at apart mem
  induction back with
  | nil => cases mem
  | cons head rest ih =>
      have tail := List.nodup_cons.1 apart
      rcases List.mem_cons.1 mem with rfl | later
      · simp [get?]
      · have ne : head.1 ≠ e.1 := fun same =>
          tail.1 (same ▸ List.mem_map_of_mem later)
        obtain ⟨k, v⟩ := head
        simp only [get?]
        rw [if_neg ne]
        exact ih tail.2 later

/-- Sorting entries of different names moves no value. -/
theorem get?_ofList_of_nodup {es : List (String × α)} (distinct : (es.map Prod.fst).Nodup)
    (name : String) : get? (ofList es) name = get? es name := by
  cases found : get? es name with
  | some value => exact get?_ofList_of_mem (mem_of_get? found) distinct
  | none =>
      rw [get?_ofList]
      refine get?_eq_none_of_forall_ne fun e mem => ?_
      exact ne_of_get?_eq_none found e (List.mem_reverse.1 mem)

theorem get?_filter_fst (keep : String → Bool) (es : List (String × α)) (name : String) :
    get? (es.filter fun e => keep e.1) name = if keep name then get? es name else none := by
  induction es with
  | nil => simp [get?]
  | cons e rest ih =>
      obtain ⟨k, v⟩ := e
      simp only [List.filter_cons]
      by_cases here : k = name
      · subst here
        cases kept : keep k <;> simp [get?, ih, kept]
      · cases kept : keep k <;> simp [get?, ih, here]

theorem get?_erase (es : List (String × α)) (name other : String) :
    get? (erase es name) other = if other = name then none else get? es other := by
  rw [erase, get?_filter_fst fun k => decide (k ≠ name)]
  by_cases same : other = name <;> simp [same]

/-- A name that is not asked for may be given any value. -/
theorem filter_insert (keep : String → Bool) {name : String} (dropped : keep name = false)
    (es : List (String × α)) (value : α) :
    (insert es name value).filter (fun e => keep e.1) = es.filter fun e => keep e.1 := by
  induction es with
  | nil => simp [insert, dropped]
  | cons e rest ih =>
      obtain ⟨k, v⟩ := e
      simp only [insert]
      split
      · simp [dropped]
      · split
        · rename_i same
          simp [← same, dropped]
        · rw [List.filter_cons, List.filter_cons, ih]

theorem erase_eq_self {es : List (String × α)} {name : String} (absent : get? es name = none) :
    erase es name = es :=
  List.filter_eq_self.2 fun e mem => decide_eq_true (ne_of_get?_eq_none absent e mem)

/-- What is put in can be taken out again. -/
theorem erase_insert {es : List (String × α)} {name : String} (absent : get? es name = none)
    (value : α) : erase (insert es name value) name = es := by
  rw [erase, filter_insert (fun k => decide (k ≠ name)) (by simp)]
  exact erase_eq_self absent

theorem get?_mapValues {β : Type v} (f : String → α → β) (es : List (String × α)) (name : String) :
    get? (mapValues f es) name = (get? es name).map (f name) := by
  induction es with
  | nil => rfl
  | cons e rest ih =>
      obtain ⟨k, v⟩ := e
      simp only [mapValues, List.map_cons, get?] at ih ⊢
      split
      · rename_i same
        rw [same, Option.map_some]
      · exact ih

theorem mapValues?_congr {β : Type v} {γ : Type u} {f g : String → α → γ} {decode : γ → Option β}
    {es : List (String × α)} (same : ∀ e ∈ es, decode (f e.1 e.2) = decode (g e.1 e.2)) :
    mapValues? decode (mapValues f es) = mapValues? decode (mapValues g es) := by
  induction es with
  | nil => rfl
  | cons e rest ih =>
      have tail := ih fun e mem => same e (List.mem_cons_of_mem _ mem)
      simp only [mapValues, List.map_cons, mapValues?] at tail ⊢
      rw [same e List.mem_cons_self, tail]

/-- Two sorted lists with the same members are the same list. -/
theorem Sorted.eq_of_mem_iff {xs ys : List (String × α)} (hx : Sorted xs) (hy : Sorted ys)
    (same : ∀ e, e ∈ xs ↔ e ∈ ys) : xs = ys := by
  induction xs generalizing ys with
  | nil =>
      cases ys with
      | nil => rfl
      | cons y ys => exact absurd ((same y).2 List.mem_cons_self) (List.not_mem_nil)
  | cons x xs ih =>
      cases ys with
      | nil => exact absurd ((same x).1 List.mem_cons_self) (List.not_mem_nil)
      | cons y ys =>
          have tx := List.pairwise_cons.1 hx
          have ty := List.pairwise_cons.1 hy
          have heads : x = y := by
            rcases List.mem_cons.1 ((same x).1 List.mem_cons_self) with h | xInTail
            · exact h
            rcases List.mem_cons.1 ((same y).2 List.mem_cons_self) with h | yInTail
            · exact h.symm
            exact absurd (String.lt_trans (tx.1 y yInTail) (ty.1 x xInTail)) (String.lt_irrefl _)
          subst heads
          have tails : ∀ e, e ∈ xs ↔ e ∈ ys := by
            intro e
            constructor
            · intro mem
              rcases List.mem_cons.1 ((same e).1 (List.mem_cons_of_mem _ mem)) with rfl | h
              · exact absurd (tx.1 _ mem) (String.lt_irrefl _)
              · exact h
            · intro mem
              rcases List.mem_cons.1 ((same e).2 (List.mem_cons_of_mem _ mem)) with rfl | h
              · exact absurd (ty.1 _ mem) (String.lt_irrefl _)
              · exact h
          rw [ih tx.2 ty.2 tails]

theorem get?_reverse_append (xs ys : List (String × α)) (name : String) :
    get? (xs ++ ys).reverse name = (get? ys.reverse name).or (get? xs.reverse name) := by
  rw [List.reverse_append, get?_append]

theorem mem_of_mem_ofList {es : List (String × α)} {e : String × α} (mem : e ∈ ofList es) :
    e ∈ es := by
  have found := (Sorted.ofList es).get?_of_mem mem
  rw [get?_ofList] at found
  exact List.mem_reverse.1 (mem_of_get? found)

/-- Sorting what is sorted changes nothing. -/
theorem Sorted.ofList_eq {es : List (String × α)} (sorted : Sorted es) :
    Entries.ofList es = es := by
  refine (Sorted.ofList es).eq_of_mem_iff sorted fun e => ?_
  have distinct : (es.map Prod.fst).Nodup := by
    refine (sorted_iff_map_fst.1 sorted).imp ?_
    rintro name _ less rfl
    exact String.lt_irrefl name less
  exact ⟨mem_of_mem_ofList, fun mem => mem_of_get? (get?_ofList_of_mem mem distinct)⟩

theorem Sorted.get?_reverse {es : List (String × α)} (sorted : Sorted es) (name : String) :
    get? es.reverse name = get? es name := by
  rw [← get?_ofList, sorted.ofList_eq]

/-- A sorted list does not change when a value that it has is put into it again. -/
theorem Sorted.insert_eq {es : List (String × α)} (sorted : Sorted es) {name : String}
    {value : α} (stands : get? es name = some value) : Entries.insert es name value = es := by
  have lookups (other : String) : get? (Entries.insert es name value) other = get? es other := by
    rw [get?_insert]
    split
    · rename_i same
      rw [← same, stands]
    · rfl
  refine (sorted.insert name value).eq_of_mem_iff sorted fun e => ?_
  rw [(sorted.insert name value).mem_iff_get?, sorted.mem_iff_get?, lookups]

end Entries

namespace Dict

variable {α : Type u}

@[simp] theorem get?_empty (name : String) : (empty : Dict α).get? name = none := rfl

theorem get?_insert (d : Dict α) (name other : String) (value : α) :
    (d.insert name value).get? other = if name = other then some value else d.get? other :=
  Entries.get?_insert d.entries name other value

@[simp] theorem get?_insert_self (d : Dict α) (name : String) (value : α) :
    (d.insert name value).get? name = some value := by
  rw [get?_insert, if_pos rfl]

theorem get?_insert_of_ne (d : Dict α) {name other : String} (value : α) (ne : name ≠ other) :
    (d.insert name value).get? other = d.get? other := by
  rw [get?_insert, if_neg ne]

theorem mem_entries_iff {d : Dict α} {e : String × α} :
    e ∈ d.entries ↔ d.get? e.1 = some e.2 :=
  d.sorted.mem_iff_get?

/-- **A map is nothing but its lookups.** -/
theorem ext_get? {a b : Dict α} (same : ∀ name, a.get? name = b.get? name) : a = b := by
  apply Dict.ext
  apply a.sorted.eq_of_mem_iff b.sorted
  intro e
  rw [mem_entries_iff, mem_entries_iff, same]

/-- Of the entries that go into a map under one name the last one counts. -/
theorem get?_foldl_insert (es : List (String × α)) (d : Dict α) (name : String) :
    (es.foldl (fun acc e => acc.insert e.1 e.2) d).get? name =
      (Entries.get? es.reverse name).or (d.get? name) := by
  induction es generalizing d with
  | nil => rfl
  | cons e rest ih =>
      rw [List.foldl_cons, ih, get?_insert, List.reverse_cons, Entries.get?_append,
        Option.or_assoc]
      simp only [Entries.get?]
      split <;> rfl

theorem ofList_entries (d : Dict α) : ofList d.entries = d := Dict.ext d.sorted.ofList_eq

theorem get?_entries_reverse (d : Dict α) (name : String) :
    Entries.get? d.entries.reverse name = d.get? name :=
  d.sorted.get?_reverse name

theorem get?_extend (d other : Dict α) (name : String) :
    (d.extend other).get? name = (other.get? name).or (d.get? name) := by
  rw [extend, get?_foldl_insert, get?_entries_reverse]

theorem get?_mapValues {β : Type v} (f : String → α → β) (d : Dict α) (name : String) :
    (d.mapValues f).get? name = (d.get? name).map (f name) :=
  Entries.get?_mapValues f d.entries name

theorem keys_mapValues {β : Type v} (f : String → α → β) (d : Dict α) :
    (d.mapValues f).keys = d.keys := by
  simp [keys, mapValues, Entries.mapValues]

theorem nodup_keys (d : Dict α) : d.keys.Nodup :=
  (Entries.sorted_iff_map_fst.1 d.sorted).imp fun less => String.ne_of_lt less

/-- A name that is not asked for may be put in. -/
theorem filter_keys_insert (keep : String → Bool) {name : String} (dropped : keep name = false)
    (d : Dict α) (value : α) : (d.insert name value).keys.filter keep = d.keys.filter keep := by
  rw [keys, keys, List.filter_map, List.filter_map]
  exact congrArg _ (Entries.filter_insert keep dropped d.entries value)

theorem get?_modify (d : Dict α) (name other : String) (f : α → α) :
    (d.modify name f).get? other =
      if name = other then (d.get? other).map f else d.get? other := by
  simp only [modify]
  split
  · rename_i v found
    rw [get?_insert]
    split
    · rename_i same
      rw [← same, found]
      rfl
    · rfl
  · rename_i absent
    split
    · rename_i same
      rw [← same, absent]
      rfl
    · rfl

theorem get?_ofList (es : List (String × α)) (name : String) :
    (ofList es).get? name = Entries.get? es.reverse name :=
  Entries.get?_ofList es name

/-- Among entries of different names every one counts. -/
theorem get?_ofList_of_mem {es : List (String × α)} {e : String × α} (mem : e ∈ es)
    (distinct : (es.map Prod.fst).Nodup) : (ofList es).get? e.1 = some e.2 :=
  Entries.get?_ofList_of_mem mem distinct

/-- The map of a list has no entries but those of the list. -/
theorem mem_of_mem_ofList {es : List (String × α)} {e : String × α}
    (mem : e ∈ (ofList es).entries) : e ∈ es :=
  Entries.mem_of_mem_ofList mem

/-- A name that no entry of a list has leads nowhere in the map of the list. -/
theorem get?_ofList_eq_none {es : List (String × α)} {name : String}
    (absent : ∀ e ∈ es, e.1 ≠ name) : (ofList es).get? name = none := by
  rw [get?_ofList]
  exact Entries.get?_eq_none_of_forall_ne fun e mem => absent e (List.mem_reverse.1 mem)

theorem get?_ofList_of_notMem {es : List (String × α)} {names : List String} {name : String}
    (known : ∀ e ∈ es, e.1 ∈ names) (foreign : name ∉ names) : (ofList es).get? name = none :=
  get?_ofList_eq_none fun e mem same => foreign (same ▸ known e mem)

end Dict

end ApiForge
