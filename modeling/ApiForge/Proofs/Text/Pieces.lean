import ApiForge.Text.Pieces
import Mathlib.Data.List.TakeWhile
/-
# ApiForge.Proofs.Text.Pieces -- where a text is cut, and what trimming leaves

A text is cut at its first separator (`cutAt_eq_some_iff`), and not at all where it has none
(`cutAt_eq_none_iff`).  Trimming leaves nothing of blanks alone (`trim_eq_nil_iff`), takes
nothing but blanks (`mem_trim`), and does not see blanks that are put around a text
(`trim_append_blanks`).
-/

namespace ApiForge.Text

set_option autoImplicit false

section Cutting

variable {sep : Char → Bool} {s before after : List Char}

theorem cutAt_eq_none_iff : cutAt sep s = none ↔ ∀ c ∈ s, sep c = false := by
  induction s with
  | nil => simp [cutAt]
  | cons c rest ih =>
      rw [cutAt, List.forall_mem_cons, ← ih]
      cases sep c <;> simp

theorem cutAt_append {c : Char} (clean : ∀ c ∈ before, sep c = false) (here : sep c = true)
    (after : List Char) : cutAt sep (before ++ c :: after) = some (before, after) := by
  induction before with
  | nil => simp [cutAt, here]
  | cons d rest ih =>
      obtain ⟨first, later⟩ := List.forall_mem_cons.1 clean
      simp [cutAt, first, ih later]

/-- The cut is at the first separator. -/
theorem cutAt_eq_some_iff : cutAt sep s = some (before, after) ↔
    ∃ c, sep c = true ∧ s = before ++ c :: after ∧ ∀ d ∈ before, sep d = false := by
  constructor
  · intro cut
    induction s generalizing before with
    | nil => cases cut
    | cons c rest ih =>
        rw [cutAt] at cut
        split at cut
        · rename_i here
          cases cut
          exact ⟨c, here, rfl, fun _ mem => nomatch mem⟩
        · rename_i other
          obtain ⟨⟨front, back⟩, found, same⟩ := Option.map_eq_some_iff.1 cut
          cases same
          obtain ⟨d, here, split, clean⟩ := ih found
          refine ⟨d, here, by rw [split]; rfl, List.forall_mem_cons.2 ⟨?_, clean⟩⟩
          simpa using other
  · rintro ⟨c, here, rfl, clean⟩
    exact cutAt_append clean here after

end Cutting

/-- Trimming leaves nothing where there is nothing but blanks. -/
theorem trim_eq_nil_iff {s : List Char} : trim s = [] ↔ ∀ c ∈ s, isBlank c = true := by
  rw [trim, trimEnd, trimStart, List.reverse_eq_nil_iff, List.dropWhile_eq_nil_iff]
  simp only [List.mem_reverse]
  constructor
  · intro blank
    rw [← s.takeWhile_append_dropWhile (p := isBlank)]
    exact List.forall_mem_append.2 ⟨fun c mem => List.mem_takeWhile_imp mem, blank⟩
  · exact fun blank c mem => blank c ((List.dropWhile_suffix _).subset mem)

theorem mem_dropWhile {drop : Char → Bool} {s : List Char} {c : Char} (mem : c ∈ s)
    (stays : drop c = false) : c ∈ s.dropWhile drop := by
  rw [← s.takeWhile_append_dropWhile (p := drop), List.mem_append] at mem
  rcases mem with front | back
  · rw [List.mem_takeWhile_imp front] at stays
    cases stays
  · exact back

/-- Trimming takes nothing but blanks. -/
theorem mem_trim {s : List Char} {c : Char} (mem : c ∈ s) (visible : isBlank c = false) :
    c ∈ trim s :=
  List.mem_reverse.2 (mem_dropWhile (List.mem_reverse.2 (mem_dropWhile mem visible)) visible)

/-- Blanks around a text make no difference to what trimming leaves of it. -/
theorem trim_append_blanks {before after : List Char} (front : ∀ c ∈ before, isBlank c = true)
    (back : ∀ c ∈ after, isBlank c = true) (s : List Char) :
    trim (before ++ s ++ after) = trim s := by
  have start : trimStart isBlank (before ++ s ++ after) = trimStart isBlank (s ++ after) := by
    rw [trimStart, trimStart, List.append_assoc, List.dropWhile_append_of_pos front]
  have finish (t : List Char) : trimEnd isBlank (t ++ after) = trimEnd isBlank t := by
    rw [trimEnd, trimEnd, List.reverse_append,
      List.dropWhile_append_of_pos fun c mem => back c (List.mem_reverse.1 mem)]
  rw [trim, trim, start, trimStart, trimStart, List.dropWhile_append]
  split
  · rename_i blank
    -- nothing is left either way
    rw [List.isEmpty_iff.1 blank, List.dropWhile_eq_nil_iff.2 back]
  · exact finish _

end ApiForge.Text
