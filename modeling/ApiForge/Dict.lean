/-
# ApiForge.Dict -- maps from names to values, kept in name order

Descriptions, contexts and manifests are full of maps whose iteration order a
reader of the output can see.  The order is always that of the names, compared
code point by code point, so it belongs to the type: a `Dict` is a list of
entries whose names strictly increase.  No name occurs twice, and two maps with
the same entries are the same value.

`Entries` holds the operations on the bare list, which nested data (the fields
of a JSON object) needs because a recursive type cannot carry the proof.
-/

namespace ApiForge

set_option autoImplicit false

universe u v

/-! ## Entry lists -/

namespace Entries

variable {α : Type u} {β : Type v}

/-- Names strictly increase along the list. -/
def Sorted (es : List (String × α)) : Prop :=
  es.Pairwise fun a b => a.1 < b.1

/-- The value under `name`, if there is one. -/
def get? (es : List (String × α)) (name : String) : Option α :=
  match es with
  | [] => none
  | (k, v) :: rest => if k = name then some v else get? rest name

/-- Put `value` under `name`: in place of the entry of that name, or in order. -/
def insert (es : List (String × α)) (name : String) (value : α) : List (String × α) :=
  match es with
  | [] => [(name, value)]
  | (k, v) :: rest =>
    if name < k then (name, value) :: (k, v) :: rest
    else if name = k then (name, value) :: rest
    else (k, v) :: insert rest name value

/-- Leave out the entry under `name`. -/
def erase (es : List (String × α)) (name : String) : List (String × α) :=
  es.filter fun e => decide (e.1 ≠ name)

/-- Sort entries that come in any order; of two with one name the later stays. -/
def ofList (es : List (String × α)) : List (String × α) :=
  es.foldl (fun acc e => insert acc e.1 e.2) []

/-- Apply `f` to every value. -/
def mapValues (f : String → α → β) (es : List (String × α)) : List (String × β) :=
  es.map fun e => (e.1, f e.1 e.2)

/-- Decode every value, or nothing if one of them does not decode. -/
def mapValues? (f : α → Option β) : List (String × α) → Option (List (String × β))
  | [] => some []
  | (k, v) :: rest =>
    match f v, mapValues? f rest with
    | some w, some ws => some ((k, w) :: ws)
    | _, _ => none

theorem sorted_nil : Sorted ([] : List (String × α)) := List.Pairwise.nil

theorem mem_insert {es : List (String × α)} {name : String} {value : α} {e : String × α}
    (mem : e ∈ insert es name value) : e = (name, value) ∨ e ∈ es := by
  induction es with
  | nil => simpa [insert] using mem
  | cons head rest ih =>
    obtain ⟨k, v⟩ := head
    simp only [insert] at mem
    split at mem
    · simpa using mem
    · split at mem
      · rcases List.mem_cons.1 mem with h | h
        · exact Or.inl h
        · exact Or.inr (List.mem_cons_of_mem _ h)
      · rcases List.mem_cons.1 mem with h | h
        · exact Or.inr (h ▸ List.mem_cons_self)
        · exact (ih h).imp id (List.mem_cons_of_mem _)

theorem lt_of_not_lt_of_ne {a b : String} (notLt : ¬ a < b) (ne : a ≠ b) : b < a := by
  rcases Std.Trichotomous.rel_or_eq_or_rel_swap (r := fun x y : String => x < y) (a := a) (b := b)
    with h | h | h
  · exact absurd h notLt
  · exact absurd h ne
  · exact h

theorem Sorted.insert {es : List (String × α)} (sorted : Sorted es) (name : String) (value : α) :
    Sorted (Entries.insert es name value) := by
  induction es with
  | nil => exact List.pairwise_singleton _ _
  | cons head rest ih =>
    obtain ⟨k, v⟩ := head
    have tail := List.pairwise_cons.1 sorted
    simp only [Entries.insert]
    split
    · rename_i before
      refine List.pairwise_cons.2 ⟨fun e mem => ?_, sorted⟩
      rcases List.mem_cons.1 mem with h | h
      · exact h ▸ before
      · exact String.lt_trans before (tail.1 e h)
    · split
      · rename_i same
        exact List.pairwise_cons.2 ⟨fun e mem => same ▸ tail.1 e mem, tail.2⟩
      · rename_i notBefore ne
        refine List.pairwise_cons.2 ⟨fun e mem => ?_, ih tail.2⟩
        rcases mem_insert mem with h | h
        · exact h ▸ lt_of_not_lt_of_ne notBefore ne
        · exact tail.1 e h

theorem Sorted.erase {es : List (String × α)} (sorted : Sorted es) (name : String) :
    Sorted (Entries.erase es name) :=
  List.Pairwise.filter _ sorted

theorem Sorted.ofList (es : List (String × α)) : Sorted (Entries.ofList es) := by
  have grow : ∀ (rest acc : List (String × α)), Sorted acc →
      Sorted (rest.foldl (fun acc e => Entries.insert acc e.1 e.2) acc) := by
    intro rest
    induction rest with
    | nil => exact fun _ h => h
    | cons e rest ih => exact fun acc h => ih _ (Sorted.insert h e.1 e.2)
  exact grow es [] sorted_nil

theorem Sorted.mapValues {es : List (String × α)} (sorted : Sorted es) (f : String → α → β) :
    Sorted (Entries.mapValues f es) :=
  List.pairwise_map.2 (List.Pairwise.imp (fun h => h) sorted)

theorem sorted_iff_map_fst {es : List (String × α)} :
    Sorted es ↔ (es.map Prod.fst).Pairwise (· < ·) := by
  rw [List.pairwise_map]; rfl

end Entries

/-! ## Maps -/

/-- A map from names to values, in name order. -/
structure Dict (α : Type u) where
  entries : List (String × α)
  sorted : Entries.Sorted entries

namespace Dict

variable {α : Type u} {β : Type v}

instance [DecidableEq α] : DecidableEq (Dict α) := fun a b =>
  match a, b with
  | ⟨x, _⟩, ⟨y, _⟩ =>
    if h : x = y then isTrue (by subst h; rfl) else isFalse fun e => h (Dict.mk.inj e)

def empty : Dict α := ⟨[], Entries.sorted_nil⟩

instance : Inhabited (Dict α) := ⟨empty⟩

def isEmpty (d : Dict α) : Bool := d.entries.isEmpty

def size (d : Dict α) : Nat := d.entries.length

def get? (d : Dict α) (name : String) : Option α := Entries.get? d.entries name

def contains (d : Dict α) (name : String) : Bool := (d.get? name).isSome

def insert (d : Dict α) (name : String) (value : α) : Dict α :=
  ⟨Entries.insert d.entries name value, d.sorted.insert name value⟩

def erase (d : Dict α) (name : String) : Dict α :=
  ⟨Entries.erase d.entries name, d.sorted.erase name⟩

/-- Sorts entries that come in any order; of two with one name the later stays. -/
def ofList (es : List (String × α)) : Dict α :=
  ⟨Entries.ofList es, Entries.Sorted.ofList es⟩

def keys (d : Dict α) : List String := d.entries.map Prod.fst

def values (d : Dict α) : List α := d.entries.map Prod.snd

/-- Every entry of `other` goes into `d`, in place of one of the same name. -/
def extend (d other : Dict α) : Dict α :=
  other.entries.foldl (fun acc e => acc.insert e.1 e.2) d

def mapValues (f : String → α → β) (d : Dict α) : Dict β :=
  ⟨Entries.mapValues f d.entries, d.sorted.mapValues f⟩

/-- Replace the value under `name` by its image, if there is one. -/
def modify (d : Dict α) (name : String) (f : α → α) : Dict α :=
  match d.get? name with
  | some v => d.insert name (f v)
  | none => d

def filter (keep : String → α → Bool) (d : Dict α) : Dict α :=
  ⟨d.entries.filter fun e => keep e.1 e.2, List.Pairwise.filter _ d.sorted⟩

theorem ext {a b : Dict α} (same : a.entries = b.entries) : a = b := by
  cases a; cases b; cases same; rfl

end Dict

end ApiForge
