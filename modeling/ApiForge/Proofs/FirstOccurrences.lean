import ApiForge.Parameters
import ApiForge.Security
import Mathlib.Data.List.Nodup
/-
# ApiForge.Proofs.FirstOccurrences -- what is left of a list in which keys come again

An operation inherits the parameters of its path as requirements mention schemes: of the
elements with one key the first one counts, and only if its key is not known from elsewhere.
`newByKey` says so place by place.  Going through the list from the front, with the keys that
were met so far, comes to the same (`newByKey_cons`), which is how `newParameters` and
`firstMentions` find the elements (`newParameters_eq_newByKey`, `firstMentions_eq_newByKey`).
-/

namespace ApiForge

set_option autoImplicit false

universe u v

section NewByKey

variable {α : Type u} {κ : Type v} [DecidableEq κ]

/-- The elements of a list whose key is not known and has not come up before their place. -/
def newByKey (key : α → κ) (known : List κ) (list : List α) : List α :=
  (list.zipIdx.filter fun e =>
    decide (key e.1 ∉ known ∧ key e.1 ∉ (list.take e.2).map key)).map Prod.fst

variable {key : α → κ} {known known' : List κ} {k : κ}

theorem newByKey_nil : newByKey key known [] = [] := rfl

/-- What is known matters only for the keys of the list. -/
theorem newByKey_congr {list : List α} (same : ∀ a ∈ list, key a ∈ known ↔ key a ∈ known') :
    newByKey key known list = newByKey key known' list := by
  refine congrArg (List.map Prod.fst) (List.filter_congr fun e mem => ?_)
  simp only [same e.1 (List.fst_mem_of_mem_zipIdx mem)]

/-- Behind an element its key is known. -/
theorem newByKey_cons (a : α) (list : List α) : newByKey key known (a :: list) =
    if key a ∈ known then newByKey key known list else a :: newByKey key (key a :: known) list := by
  have later : (((list.zipIdx 1).filter fun e =>
        decide (key e.1 ∉ known ∧ key e.1 ∉ ((a :: list).take e.2).map key)).map Prod.fst)
      = newByKey key (key a :: known) list := by
    rw [newByKey, List.zipIdx_succ, List.filter_map, List.map_map]
    refine congrArg (List.map Prod.fst) (List.filter_congr fun e _ => ?_)
    simp only [Function.comp_apply, List.take_succ_cons, List.map_cons, List.mem_cons, not_or,
      decide_eq_decide]
    tauto
  rw [newByKey, List.zipIdx_cons, List.filter_cons]
  split
  · rename_i new
    have unknown : key a ∉ known := (of_decide_eq_true new).1
    rw [if_neg unknown, List.map_cons, later]
  · rename_i old
    have met : key a ∈ known := by simpa using old
    rw [if_pos met, later]
    exact newByKey_congr fun b _ =>
      List.mem_cons.trans (or_iff_right_of_imp fun same => same ▸ met)

theorem newByKey_cons_of_mem {a : α} (met : key a ∈ known) (list : List α) :
    newByKey key known (a :: list) = newByKey key known list := by
  rw [newByKey_cons, if_pos met]

theorem newByKey_cons_of_notMem {a : α} (new : key a ∉ known) (list : List α) :
    newByKey key known (a :: list) = a :: newByKey key (key a :: known) list := by
  rw [newByKey_cons, if_neg new]

/-- Going through a list with the keys that are known: the first element has a known key, or its
key is known behind it. -/
@[elab_as_elim]
theorem newByKey_induction (key : α → κ) {motive : List κ → List α → Prop}
    (nil : ∀ known, motive known [])
    (met : ∀ known a rest, key a ∈ known → motive known rest → motive known (a :: rest))
    (new : ∀ known a rest, key a ∉ known → motive (key a :: known) rest → motive known (a :: rest))
    (known : List κ) (list : List α) : motive known list := by
  induction list generalizing known with
  | nil => exact nil known
  | cons a rest ih =>
      by_cases here : key a ∈ known
      · exact met known a rest here (ih known)
      · exact new known a rest here (ih (key a :: known))

/-- The keys that are left are those that are not known, whatever comes again. -/
theorem mem_map_newByKey_iff {list : List α} :
    k ∈ (newByKey key known list).map key ↔ k ∉ known ∧ k ∈ list.map key := by
  induction known, list using newByKey_induction key with
  | nil => simp [newByKey_nil]
  | met known a rest met ih =>
      rw [newByKey_cons_of_mem met, ih, List.map_cons, List.mem_cons]
      refine and_congr_right fun new => (or_iff_right ?_).symm
      rintro rfl
      exact new met
  | new known a rest new ih =>
      rw [newByKey_cons_of_notMem new, List.map_cons, List.mem_cons, ih, List.map_cons,
        List.mem_cons, List.mem_cons]
      by_cases here : k = key a
      · subst here
        simp [new]
      · simp [here]

/-- **No key is left twice.** -/
theorem nodup_map_newByKey (list : List α) : ((newByKey key known list).map key).Nodup := by
  induction known, list using newByKey_induction key with
  | nil => exact List.nodup_nil
  | met known a rest met ih =>
      rw [newByKey_cons_of_mem met]
      exact ih
  | new known a rest new ih =>
      rw [newByKey_cons_of_notMem new, List.map_cons, List.nodup_cons]
      exact ⟨fun again => (mem_map_newByKey_iff.1 again).1 List.mem_cons_self, ih⟩

/-- Nothing is left exactly where every key is known. -/
theorem newByKey_eq_nil_iff {list : List α} :
    newByKey key known list = [] ↔ ∀ k ∈ list.map key, k ∈ known := by
  rw [← List.map_eq_nil_iff (f := key), List.eq_nil_iff_forall_not_mem]
  simp only [mem_map_newByKey_iff, not_and]
  exact forall_congr' fun k => ⟨fun h mem => Decidable.not_not.1 fun new => h new mem,
    fun h new mem => new (h mem)⟩

/-- Behind a list its keys are known. -/
theorem newByKey_append (list more : List α) : newByKey key known (list ++ more) =
    newByKey key known list ++ newByKey key (list.map key ++ known) more := by
  induction known, list using newByKey_induction key with
  | nil => rfl
  | met known a rest met ih =>
      rw [List.cons_append, newByKey_cons_of_mem met, newByKey_cons_of_mem met, ih]
      refine congrArg (newByKey key known rest ++ ·) (newByKey_congr fun b _ => ?_)
      by_cases here : key b = key a
      · simp [here, met]
      · simp [here]
  | new known a rest new ih =>
      rw [List.cons_append, newByKey_cons_of_notMem new, newByKey_cons_of_notMem new, ih,
        List.cons_append]
      refine congrArg (a :: newByKey key (key a :: known) rest ++ ·) (newByKey_congr fun b _ => ?_)
      simp [or_left_comm]

/-- **What is left under a key is its first element.** -/
theorem find?_newByKey (unknown : k ∉ known) (list : List α) :
    (newByKey key known list).find? (fun a => decide (key a = k)) =
      list.find? fun a => decide (key a = k) := by
  induction known, list using newByKey_induction key with
  | nil => rfl
  | met known a rest met ih =>
      have ne : key a ≠ k := fun same => unknown (same ▸ met)
      rw [newByKey_cons_of_mem met, ih unknown, List.find?_cons_of_neg (by simpa using ne)]
  | new known a rest new ih =>
      rw [newByKey_cons_of_notMem new]
      by_cases here : key a = k
      · rw [List.find?_cons_of_pos (by simpa using here),
          List.find?_cons_of_pos (by simpa using here)]
      · rw [List.find?_cons_of_neg (by simpa using here), ih (by simp [unknown, Ne.symm here]),
          List.find?_cons_of_neg (by simpa using here)]

/-- Choosing among the keys before or after comes to the same. -/
theorem filter_newByKey (keep : κ → Bool) (list : List α) :
    (newByKey key known list).filter (fun a => keep (key a)) =
      newByKey key known (list.filter fun a => keep (key a)) := by
  induction known, list using newByKey_induction key with
  | nil => rfl
  | met known a rest met ih =>
      rw [newByKey_cons_of_mem met, ih, List.filter_cons]
      split
      · exact (newByKey_cons_of_mem met _).symm
      · rfl
  | new known a rest new ih =>
      rw [newByKey_cons_of_notMem new, List.filter_cons, List.filter_cons, ih]
      split
      · exact (newByKey_cons_of_notMem new _).symm
      · rename_i dropped
        -- the key that was met is not among those that are chosen
        refine newByKey_congr fun b mem => ?_
        have ne : key b ≠ key a := by
          intro same
          have kept := (List.mem_filter.1 mem).2
          rw [same] at kept
          exact dropped kept
        simp [ne]

end NewByKey

theorem newParameters_eq_newByKey (seen : List ParameterId) (list : List Parameter) :
    newParameters seen list = newByKey Parameter.id seen list := by
  induction list generalizing seen with
  | nil => rfl
  | cons p rest ih => simp only [newParameters, newByKey_cons, List.contains_iff_mem, ih]

theorem firstMentions_eq_newByKey (seen names : List String) :
    firstMentions seen names = newByKey id seen names := by
  induction names generalizing seen with
  | nil => rfl
  | cons name rest ih => simp only [firstMentions, newByKey_cons, List.contains_iff_mem, ih, id]

end ApiForge
