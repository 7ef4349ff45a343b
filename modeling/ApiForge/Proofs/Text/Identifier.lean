import ApiForge.Proofs.Naming
/-
# ApiForge.Proofs.Text.Identifier -- what is an identifier and what is made one

`toIdentifier` makes an identifier of every text (`isIdentifier_toIdentifier`) and leaves those
alone that are identifiers already, and no others (`toIdentifier_eq_self_iff`).  Whatever may
stand in an identifier may stand behind one (`IsIdentifier.append`), so a number behind an
underscore may (`isIdentifier_append_number`).
-/

namespace ApiForge.Text

set_option autoImplicit false

/-! ## Making identifiers -/

theorem isIdentifier_cons_iff {c : Char} {rest : List Char} : IsIdentifier (c :: rest) ↔
    isAsciiDigit c = false ∧ ∀ d ∈ c :: rest, isIdentifierChar d = true := by
  constructor
  · rintro ⟨-, chars, front⟩
    exact ⟨front c rfl, chars⟩
  · rintro ⟨front, chars⟩
    refine ⟨List.cons_ne_nil _ _, chars, fun d same => ?_⟩
    cases same
    exact front

/-- **Whatever a text consists of, an identifier is made of it.** -/
theorem isIdentifier_toIdentifier (s : String) : IsIdentifier (toIdentifier s).toList := by
  have chars : ∀ c ∈ (toIdentifier s).toList, isIdentifierChar c = true :=
    fun _ mem => isIdentifierChar_of_mem_toIdentifier mem
  rw [toIdentifier, String.toList_ofList, toIdentifierChars] at chars ⊢
  split
  · decide
  · rename_i c rest masked
    rw [masked] at chars
    simp only at chars ⊢
    split at chars
    · rename_i digit
      rw [if_pos digit]
      exact isIdentifier_cons_iff.2 ⟨by decide, chars⟩
    · rename_i other
      rw [if_neg other]
      exact isIdentifier_cons_iff.2 ⟨by simpa using other, chars⟩

theorem toIdentifier_of_isIdentifier {s : String} (ok : IsIdentifier s.toList) :
    toIdentifier s = s := by
  have kept : (s.toList.map fun c => if isIdentifierChar c then c else '_') = s.toList := by
    refine (List.map_congr_left fun c mem => ?_).trans (List.map_id _)
    exact if_pos (ok.2.1 c mem)
  rw [← String.toList_inj, toIdentifier, String.toList_ofList, toIdentifierChars, kept]
  cases chars : s.toList with
  | nil => exact absurd chars ok.1
  | cons c rest =>
      rw [chars, isIdentifier_cons_iff] at ok
      simp only
      rw [if_neg (by simp [ok.1])]

/-- **What is an identifier stays as it is, and nothing else does.** -/
theorem toIdentifier_eq_self_iff {s : String} : toIdentifier s = s ↔ IsIdentifier s.toList :=
  ⟨fun same => same ▸ isIdentifier_toIdentifier s, toIdentifier_of_isIdentifier⟩

theorem toIdentifier_toIdentifier (s : String) : toIdentifier (toIdentifier s) = toIdentifier s :=
  toIdentifier_of_isIdentifier (isIdentifier_toIdentifier s)

/-! ## What stands behind an identifier -/

theorem IsIdentifier.append {s t : List Char} (first : IsIdentifier s)
    (chars : ∀ c ∈ t, isIdentifierChar c = true) : IsIdentifier (s ++ t) := by
  cases s with
  | nil => exact absurd rfl first.1
  | cons c rest =>
      rw [isIdentifier_cons_iff] at first
      exact isIdentifier_cons_iff.2 ⟨first.1, List.forall_mem_append.2 ⟨first.2, chars⟩⟩

/-- An identifier with a number behind it is an identifier. -/
theorem isIdentifier_append_number {name : String} (first : IsIdentifier name.toList) (n : Nat) :
    IsIdentifier (name ++ "_" ++ toString n).toList := by
  have digits : ∀ c ∈ (toString n).toList, isIdentifierChar c = true := by
    intro c mem
    rw [Nat.toString_eq_repr, Nat.toList_repr] at mem
    simp [isIdentifierChar, isAsciiDigit_of_mem_toDigits mem]
  have underscore : ∀ c ∈ ['_'], isIdentifierChar c = true := by simp [isIdentifierChar]
  rw [String.toList_append, String.toList_append]
  exact (first.append underscore).append digits

end ApiForge.Text
