/-
# ApiForge.NameSet -- sets of names, kept in name order

Allow-lists, import lists and reference lists are sets whose members come out in
name order.  A `NameSet` is a strictly increasing list, so a set has one
representation and two sets with the same members are the same value.
-/

namespace ApiForge

set_option autoImplicit false

/-- A set of names, in increasing order. -/
structure NameSet where
  names : List String
  sorted : names.Pairwise (· < ·)
deriving DecidableEq

namespace NameSet

/-- Put a name into an increasing list, unless it is there. -/
def insertName (names : List String) (name : String) : List String :=
  match names with
  | [] => [name]
  | n :: rest =>
    if name < n then name :: n :: rest
    else if name = n then n :: rest
    else n :: insertName rest name

theorem mem_insertName {names : List String} {name x : String} :
    x ∈ insertName names name ↔ x = name ∨ x ∈ names := by
  induction names with
  | nil => simp [insertName]
  | cons n rest ih =>
    simp only [insertName]
    split
    · simp
    · split
      · rename_i same; subst same; simp
      · simp only [List.mem_cons, ih]; grind

theorem pairwise_insertName {names : List String} (sorted : names.Pairwise (· < ·))
    (name : String) : (insertName names name).Pairwise (· < ·) := by
  induction names with
  | nil => simp [insertName]
  | cons n rest ih =>
    have tail := List.pairwise_cons.1 sorted
    simp only [insertName]
    split
    · rename_i before
      refine List.pairwise_cons.2 ⟨fun x mem => ?_, sorted⟩
      rcases List.mem_cons.1 mem with h | h
      · exact h ▸ before
      · exact String.lt_trans before (tail.1 x h)
    · split
      · exact sorted
      · rename_i notBefore ne
        refine List.pairwise_cons.2 ⟨fun x mem => ?_, ih tail.2⟩
        rcases mem_insertName.1 mem with h | h
        · subst h
          rcases Std.Trichotomous.rel_or_eq_or_rel_swap
            (r := fun a b : String => a < b) (a := x) (b := n) with h | h | h
          · exact absurd h notBefore
          · exact absurd h ne
          · exact h
        · exact tail.1 x h

def empty : NameSet := ⟨[], List.Pairwise.nil⟩

instance : Inhabited NameSet := ⟨empty⟩

def insert (s : NameSet) (name : String) : NameSet :=
  ⟨insertName s.names name, pairwise_insertName s.sorted name⟩

def erase (s : NameSet) (name : String) : NameSet :=
  ⟨s.names.filter fun n => decide (n ≠ name), List.Pairwise.filter _ s.sorted⟩

def ofList (names : List String) : NameSet := names.foldl insert empty

def isEmpty (s : NameSet) : Bool := s.names.isEmpty

def contains (s : NameSet) (name : String) : Bool := s.names.contains name

instance : Membership String NameSet := ⟨fun s name => name ∈ s.names⟩

@[simp] theorem mem_insert {s : NameSet} {name x : String} :
    x ∈ s.insert name ↔ x = name ∨ x ∈ s := mem_insertName

theorem mem_foldl_insert {names : List String} {s : NameSet} {x : String} :
    x ∈ names.foldl insert s ↔ x ∈ names ∨ x ∈ s := by
  induction names generalizing s with
  | nil => simp
  | cons n rest ih => simp only [List.foldl_cons, ih, mem_insert, List.mem_cons]; grind

@[simp] theorem not_mem_empty {x : String} : ¬ x ∈ empty := List.not_mem_nil

@[simp] theorem mem_ofList {names : List String} {x : String} :
    x ∈ ofList names ↔ x ∈ names := by simp [ofList, mem_foldl_insert]

@[simp] theorem mem_erase {s : NameSet} {name x : String} :
    x ∈ s.erase name ↔ x ≠ name ∧ x ∈ s := by
  show x ∈ s.names.filter _ ↔ x ≠ name ∧ x ∈ s.names
  rw [List.mem_filter, decide_eq_true_eq, and_comm]

@[simp] theorem contains_iff {s : NameSet} {x : String} : s.contains x = true ↔ x ∈ s := by
  simp [contains, Membership.mem]

/-- **A set is nothing but its members.** -/
theorem ext_mem {s t : NameSet} (same : ∀ x, x ∈ s ↔ x ∈ t) : s = t := by
  have distinct (u : NameSet) : u.names.Nodup :=
    u.sorted.imp fun less => String.ne_of_lt less
  have perm : s.names.Perm t.names :=
    (List.perm_ext_iff_of_nodup (distinct s) (distinct t)).2 same
  have names : s.names = t.names :=
    perm.eq_of_pairwise (fun _ _ _ _ less more => absurd more (String.lt_asymm less))
      s.sorted t.sorted
  cases s
  cases t
  cases names
  rfl

end NameSet

end ApiForge
