import ApiForge.Proofs.Dict
import ApiForge.Proofs.Path
import Mathlib.Data.List.Basic
/-
# ApiForge.Proofs.Text.Slots -- texts with places for variables

A text with slots `{name}` is read from left to right into characters and slots of the names that
are known (`parts`), and `substitute` puts the texts of all variables into their slots at once.

Putting the variables in one after the other comes to the same as long as no name holds a brace
and the finished text spells no slot of a variable (`foldl_replaceAll_eq_substitute`).  A text that
comes in for one variable is looked through for the slots of the next ones, so without the
second condition the order of the variables matters.
-/

namespace ApiForge

set_option autoImplicit false

namespace Text

/-! ## Slots -/

/-- The slot for a variable. -/
def slot (name : String) : List Char := '{' :: (name.toList ++ ['}'])

/-- A character of a text, or the slot of a variable. -/
inductive Part where
  | letter (c : Char)
  | slot (name : String)
deriving DecidableEq

/-- The first of the names whose slot the text starts with, and what follows the slot. -/
def slotAt? (names : List String) (s : List Char) : Option (String × List Char) :=
  names.findSome? fun name => (afterHead? (slot name) s).map fun rest => (name, rest)

theorem slotAt?_eq_some {names : List String} {s rest : List Char} {name : String}
    (found : slotAt? names s = some (name, rest)) : name ∈ names ∧ s = slot name ++ rest := by
  obtain ⟨n, mem, starts⟩ := List.exists_of_findSome?_eq_some found
  obtain ⟨_, after, same⟩ := Option.map_eq_some_iff.1 starts
  cases same
  exact ⟨mem, afterHead?_eq_some_iff.1 after⟩

/-- The parts of a text from left to right, with the slots of the names. -/
def parts (names : List String) : List Char → List Part
  | [] => []
  | c :: cs =>
    match _found : slotAt? names (c :: cs) with
    | some (name, rest) => .slot name :: parts names rest
    | none => .letter c :: parts names cs
  termination_by s => s.length
  decreasing_by
    · have whole := congrArg List.length (slotAt?_eq_some _found).2
      simp only [slot, List.length_append, List.length_cons] at *
      omega
    · simp

theorem parts_of_found {names : List String} {s rest : List Char} {name : String}
    (found : slotAt? names s = some (name, rest)) :
    parts names s = .slot name :: parts names rest := by
  cases s with
  | nil => cases (slotAt?_eq_some found).2
  | cons c cs =>
      rw [parts]
      split <;> rename_i found'
      · cases found.symm.trans found'
        rfl
      · cases found.symm.trans found'

theorem parts_of_not_found {names : List String} {c : Char} {cs : List Char}
    (none : slotAt? names (c :: cs) = none) :
    parts names (c :: cs) = .letter c :: parts names cs := by
  rw [parts]
  split <;> rename_i found
  · cases none.symm.trans found
  · rfl

/-- The text of parts, with `value` in the slots. -/
def write (value : String → List Char) (ps : List Part) : List Char :=
  ps.flatMap fun
    | .letter c => [c]
    | .slot name => value name

/-- The text of a variable, or its slot where it is not known. -/
def valueOf (vars : List (String × String)) (name : String) : List Char :=
  ((Entries.get? vars name).map String.toList).getD (slot name)

/-- Put the texts of all variables into their slots at once, without looking into what was
put in. -/
def substitute (vars : List (String × String)) (s : List Char) : List Char :=
  write (valueOf vars) (parts (vars.map Prod.fst) s)

section Write

variable (value : String → List Char)

@[simp] theorem write_nil : write value [] = [] := rfl

@[simp] theorem write_letter (c : Char) (ps : List Part) :
    write value (.letter c :: ps) = c :: write value ps := rfl

@[simp] theorem write_slot (name : String) (ps : List Part) :
    write value (.slot name :: ps) = value name ++ write value ps := rfl

theorem write_append (ps qs : List Part) :
    write value (ps ++ qs) = write value ps ++ write value qs :=
  List.flatMap_append

theorem write_letters (s : List Char) : write value (s.map .letter) = s := by
  induction s with
  | nil => rfl
  | cons c s ih => rw [List.map_cons, write_letter, ih]

end Write

theorem exists_valueOf_eq {vars : List (String × String)} {name : String}
    (mem : name ∈ vars.map Prod.fst) : ∃ v ∈ vars, valueOf vars name = v.2.toList := by
  rw [valueOf]
  cases found : Entries.get? vars name with
  | some text => exact ⟨_, Entries.mem_of_get? found, rfl⟩
  | none =>
      obtain ⟨v, among, is⟩ := List.mem_map.1 mem
      exact absurd is (Entries.ne_of_get?_eq_none found v among)

/-- Reading loses nothing. -/
theorem write_slot_parts (names : List String) (s : List Char) :
    write slot (parts names s) = s := by
  fun_induction parts names s with
  | case1 => rfl
  | case2 c cs name rest found ih => rw [write_slot, ih, (slotAt?_eq_some found).2]
  | case3 c cs _ ih => rw [write_letter, ih]

theorem mem_of_slot_mem_parts {names : List String} {s : List Char} {name : String}
    (mem : .slot name ∈ parts names s) : name ∈ names := by
  fun_induction parts names s with
  | case1 => cases mem
  | case2 c cs other rest found ih =>
      obtain same | later := List.mem_cons.1 mem
      · cases same
        exact (slotAt?_eq_some found).1
      · exact ih later
  | case3 c cs _ ih =>
      obtain same | later := List.mem_cons.1 mem
      · cases same
      · exact ih later

/-! ## Slots that can be told apart -/

/-- A name without braces. -/
structure BraceFree (name : String) : Prop where
  opening : '{' ∉ name.toList
  closing : '}' ∉ name.toList

instance (name : String) : Decidable (BraceFree name) :=
  decidable_of_iff ('{' ∉ name.toList ∧ '}' ∉ name.toList)
    ⟨fun h => ⟨h.1, h.2⟩, fun h => ⟨h.opening, h.closing⟩⟩

theorem slot_append_inj {m n : String} (hm : BraceFree m) (hn : BraceFree n) {s t : List Char}
    (same : slot m ++ s = slot n ++ t) : m = n ∧ s = t := by
  have cut {k : String} (free : BraceFree k) (rest : List Char) :
      (splitAt (· = '}') (slot k ++ rest)).head? = some ('{' :: k.toList) := by
    have clean : ∀ c ∈ '{' :: k.toList, decide (c = '}') = false := by
      refine List.forall_mem_cons.2 ⟨rfl, fun c mem => decide_eq_false ?_⟩
      rintro rfl
      exact free.closing mem
    have closes : decide ('}' = '}') = true := rfl
    have shape : slot k ++ rest = ('{' :: k.toList) ++ '}' :: rest := by simp [slot]
    rw [shape, splitAt_append_sep closes _ _ clean, List.head?_cons]
  have names := cut hm s
  rw [same, cut hn t, Option.some.injEq, List.cons.injEq, String.toList_inj] at names
  obtain rfl := names.2
  exact ⟨rfl, List.append_cancel_left same⟩

theorem slotAt?_slot_append {names : List String} (free : ∀ n ∈ names, BraceFree n)
    {name : String} (mem : name ∈ names) (s : List Char) :
    slotAt? names (slot name ++ s) = some (name, s) := by
  cases found : slotAt? names (slot name ++ s) with
  | none =>
      have absent := List.findSome?_eq_none_iff.1 found name mem
      rw [afterHead?_eq_some_iff.2 rfl] at absent
      cases absent
  | some first =>
      obtain ⟨among, whole⟩ := slotAt?_eq_some found
      obtain ⟨same, rest⟩ := slot_append_inj (free _ mem) (free _ among) whole
      rw [same, rest]

/-- Text without an opening brace does not reach into a slot, so it stays in place when slots are
filled. -/
theorem prefix_write {body : List Char} (plain : '{' ∉ body) {ps : List Part}
    (starts : body <+: write slot ps) (value : String → List Char) : body <+: write value ps := by
  induction ps generalizing body with
  | nil => exact starts
  | cons p ps ih =>
      cases body with
      | nil => exact List.nil_prefix
      | cons b body =>
          cases p with
          | letter c =>
              rw [write_letter, List.cons_prefix_cons] at *
              exact ⟨starts.1, ih (fun mem => plain (List.mem_cons_of_mem _ mem)) starts.2⟩
          | slot name =>
              rw [write_slot, slot, List.cons_append, List.cons_prefix_cons] at starts
              exact absurd (starts.1 ▸ List.mem_cons_self) plain

/-- Where a slot starts with a character of a text, the filled text has it too. -/
theorem slot_infix_write_of_letter {m : String} (free : BraceFree m) {c : Char} {ps : List Part}
    {rest : List Char} (starts : afterHead? (slot m) (c :: write slot ps) = some rest)
    (value : String → List Char) : slot m <:+: write value (.letter c :: ps) := by
  have plain : '{' ∉ m.toList ++ ['}'] := by simp [free.opening]
  have whole := afterHead?_eq_some_iff.1 starts
  rw [slot, List.cons_append, List.cons.injEq] at whole
  have body := prefix_write plain ⟨rest, whole.2.symm⟩ value
  rw [write_letter, whole.1]
  exact (List.cons_prefix_cons.2 ⟨rfl, body⟩).isInfix

theorem slot_infix_write_cons {m : String} {value : String → List Char} {ps : List Part}
    (inside : slot m <:+: write value ps) (p : Part) : slot m <:+: write value (p :: ps) := by
  cases p with
  | letter c => exact inside.trans (List.suffix_cons _ _).isInfix
  | slot name => exact inside.trans (List.suffix_append _ _).isInfix

/-! ## One variable after the other -/

/-- Put a text into the slots of one variable. -/
def put (name : String) (image : List Char) (ps : List Part) : List Part :=
  ps.flatMap fun
    | .letter c => [.letter c]
    | .slot other => if other = name then image.map .letter else [.slot other]

/-- The slots of parts have names without braces. -/
def SlotsFree (ps : List Part) : Prop := ∀ name, .slot name ∈ ps → BraceFree name

theorem SlotsFree.put {ps : List Part} (free : SlotsFree ps) (name : String)
    (image : List Char) : SlotsFree (put name image ps) := by
  intro other mem
  obtain ⟨p, among, stems⟩ := List.mem_flatMap.1 mem
  cases p with
  | letter c => simp at stems
  | slot n =>
      simp only at stems
      split at stems
      · simp at stems
      · cases List.mem_singleton.1 stems
        exact free _ among

theorem write_put (vars : List (String × String)) (v : String × String) (ps : List Part) :
    write (valueOf vars) (put v.1 v.2.toList ps) = write (valueOf (v :: vars)) ps := by
  induction ps with
  | nil => rfl
  | cons p ps ih =>
      rw [put, List.flatMap_cons, write_append, ← put, ih]
      cases p with
      | letter c => rfl
      | slot name =>
          rw [write_slot]
          refine congrArg (· ++ _) ?_
          by_cases same : name = v.1
          · simp only [same, if_true, write_letters]
            simp [valueOf, Entries.get?]
          · simp [same, valueOf, Entries.get?, Ne.symm same]

/-- No slot starts behind the opening brace of another slot. -/
theorem replaceAll_slot_append {m n : String} (hm : BraceFree m) (hn : BraceFree n) (ne : n ≠ m)
    (image s : List Char) :
    replaceAll (slot m) image (slot n ++ s) = slot n ++ replaceAll (slot m) image s := by
  have skips (u : List Char) (plain : '{' ∉ u) :
      replaceAll (slot m) image (u ++ s) = u ++ replaceAll (slot m) image s := by
    induction u with
    | nil => rfl
    | cons c u ih =>
        have ne : '{' ≠ c := fun is => plain (is ▸ List.mem_cons_self)
        have none : afterHead? (slot m) (c :: (u ++ s)) = none := by simp [slot, afterHead?, ne]
        have tail := ih fun mem => plain (List.mem_cons_of_mem _ mem)
        exact (replaceAll_of_not_found none).trans (congrArg (List.cons c) tail)
  have none : afterHead? (slot m) ('{' :: (n.toList ++ ['}'] ++ s)) = none := by
    refine Option.eq_none_iff_forall_ne_some.2 fun rest starts => ne ?_
    exact (slot_append_inj hn hm (afterHead?_eq_some_iff.1 starts)).1
  calc replaceAll (slot m) image (slot n ++ s)
      = '{' :: replaceAll (slot m) image (n.toList ++ ['}'] ++ s) := replaceAll_of_not_found none
    _ = slot n ++ replaceAll (slot m) image s := by
        rw [skips _ (by simp [hn.opening])]
        rfl

/-- **Replacing the slots of a variable puts its text in**, where the text spells no slot of the
variable besides. -/
theorem replaceAll_write {m : String} (hm : BraceFree m) (image : List Char) {ps : List Part}
    (free : SlotsFree ps) {value : String → List Char} (clear : ¬ slot m <:+: write value ps) :
    replaceAll (slot m) image (write slot ps) = write slot (put m image ps) := by
  induction ps with
  | nil => exact replaceAll_nil
  | cons p ps ih =>
      have tail := ih (fun n mem => free n (List.mem_cons_of_mem _ mem))
        fun inside => clear (slot_infix_write_cons inside p)
      rw [put, List.flatMap_cons, write_append, ← put, ← tail]
      cases p with
      | letter c =>
          have none : afterHead? (slot m) (c :: write slot ps) = none := by
            refine Option.eq_none_iff_forall_ne_some.2 fun rest starts => clear ?_
            exact slot_infix_write_of_letter hm starts value
          exact replaceAll_of_not_found none
      | slot n =>
          rw [write_slot]
          by_cases same : n = m
          · simp only [same, if_true, write_letters]
            exact replaceAll_of_found (afterHead?_eq_some_iff.2 rfl)
          · simp only [same, if_false]
            rw [replaceAll_slot_append hm (free n List.mem_cons_self) same]
            simp

/-- **Variables may be put in one after the other** where no name holds a brace and the finished
text spells no slot. -/
theorem foldl_replaceAll_write {vars : List (String × String)} {ps : List Part}
    (names : ∀ v ∈ vars, BraceFree v.1) (free : SlotsFree ps)
    (clear : ∀ v ∈ vars, ¬ slot v.1 <:+: write (valueOf vars) ps) :
    vars.foldl (fun s v => replaceAll (slot v.1) v.2.toList s) (write slot ps) =
      write (valueOf vars) ps := by
  induction vars generalizing ps with
  | nil => rfl
  | cons v vars ih =>
      have ⟨first, others⟩ := List.forall_mem_cons.1 names
      have ⟨firstClear, othersClear⟩ := List.forall_mem_cons.1 clear
      rw [List.foldl_cons, replaceAll_write first _ free firstClear, ← write_put]
      refine ih others (free.put _ _) fun w mem => ?_
      rw [write_put]
      exact othersClear w mem

theorem slotsFree_parts {names : List String} (free : ∀ n ∈ names, BraceFree n) (s : List Char) :
    SlotsFree (parts names s) :=
  fun n mem => free n (mem_of_slot_mem_parts mem)

theorem foldl_replaceAll_eq_substitute {vars : List (String × String)} {s : List Char}
    (names : ∀ v ∈ vars, BraceFree v.1)
    (clear : ∀ v ∈ vars, ¬ slot v.1 <:+: substitute vars s) :
    vars.foldl (fun s v => replaceAll (slot v.1) v.2.toList s) s = substitute vars s := by
  have free := slotsFree_parts (List.forall_mem_map.2 names) s
  have same := foldl_replaceAll_write names free clear
  rwa [write_slot_parts] at same

/-! ## Other names for the variables -/

/-- A part with another name for its variable. -/
def Part.rename (rename : String → String) : Part → Part
  | .letter c => .letter c
  | .slot name => .slot (rename name)

/-- A text with other names in the slots of `names`. -/
def renameSlots (rename : String → String) (names : List String) (s : List Char) : List Char :=
  write slot ((parts names s).map (Part.rename rename))

theorem write_congr {f g : String → List Char} {ps : List Part}
    (same : ∀ name, .slot name ∈ ps → f name = g name) : write f ps = write g ps := by
  refine List.flatMap_congr fun p mem => ?_
  cases p with
  | letter c => rfl
  | slot name => exact same name mem

theorem write_map_rename (value : String → List Char) (rename : String → String)
    (ps : List Part) : write value (ps.map (Part.rename rename)) =
      write (fun name => value (rename name)) ps := by
  rw [write, List.flatMap_map]
  refine List.flatMap_congr fun p _ => ?_
  cases p <;> rfl

/-- **Parts are read as they were written** if no name holds a brace and the characters between
the slots spell no further slot. -/
theorem parts_write_slot {names : List String} (free : ∀ n ∈ names, BraceFree n) {ps : List Part}
    (known : ∀ n, .slot n ∈ ps → n ∈ names) {value : String → List Char}
    (clear : ∀ n ∈ names, ¬ slot n <:+: write value ps) : parts names (write slot ps) = ps := by
  induction ps with
  | nil => rw [write_nil, parts]
  | cons p ps ih =>
      have tail := ih (fun n mem => known n (List.mem_cons_of_mem _ mem))
        fun n mem inside => clear n mem (slot_infix_write_cons inside p)
      cases p with
      | letter c =>
          have none : slotAt? names (c :: write slot ps) = none := by
            refine Option.eq_none_iff_forall_ne_some.2 fun (n, rest) found => ?_
            obtain ⟨mem, starts⟩ := slotAt?_eq_some found
            exact clear n mem (slot_infix_write_of_letter (free n mem)
              (afterHead?_eq_some_iff.2 starts) value)
          rw [write_letter, parts_of_not_found none, tail]
      | slot name =>
          have found := slotAt?_slot_append free (known name List.mem_cons_self) (write slot ps)
          rw [write_slot, parts_of_found found, tail]

theorem substitute_renameSlots {vars vars' : List (String × String)} {rename : String → String}
    {s : List Char} (free : ∀ v ∈ vars', BraceFree v.1)
    (known : ∀ n ∈ vars.map Prod.fst, rename n ∈ vars'.map Prod.fst)
    (same : ∀ n ∈ vars.map Prod.fst, valueOf vars' (rename n) = valueOf vars n)
    (clear : ∀ v ∈ vars', ¬ slot v.1 <:+: substitute vars s) :
    substitute vars' (renameSlots rename (vars.map Prod.fst) s) = substitute vars s := by
  have filled : write (valueOf vars')
      ((parts (vars.map Prod.fst) s).map (Part.rename rename)) = substitute vars s := by
    rw [write_map_rename]
    exact write_congr fun n mem => same n (mem_of_slot_mem_parts mem)
  have read : parts (vars'.map Prod.fst) (renameSlots rename (vars.map Prod.fst) s) =
      (parts (vars.map Prod.fst) s).map (Part.rename rename) := by
    refine parts_write_slot (List.forall_mem_map.2 free) (fun n mem => ?_)
      (List.forall_mem_map.2 fun v mem => filled.symm ▸ clear v mem)
    obtain ⟨p, among, is⟩ := List.mem_map.1 mem
    cases p with
    | letter c => cases is
    | slot m =>
        cases is
        exact known m (mem_of_slot_mem_parts among)
  rw [substitute, read, filled]

end Text

end ApiForge
