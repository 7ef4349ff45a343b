import ApiForge.Proofs.FirstOccurrences
/-
# ApiForge.Proofs.Parameters -- what an operation inherits from its path

An operation keeps its own parameters as they are and takes over, in the order of the path, the
first declaration of every further identity (`mergeParameters_eq`).  A declaration of the
operation is therefore never hidden by one of the path (`find?_mergeParameters`), no identity
comes in twice (`count_mergeParameters`), and what was inherited is not inherited again
(`mergeParameters_mergeParameters`).
-/

namespace ApiForge

set_option autoImplicit false

/-- What tells the parameters of a list apart, in their order. -/
def identities (parameters : List Parameter) : List ParameterId := parameters.map Parameter.id

/-- The parameters of a path of which an operation has none of its own, each identity where it
is declared first. -/
def inheritedParameters (own : Option (List Parameter)) (path : List Parameter) :
    List Parameter :=
  newByKey Parameter.id (identities (own.getD [])) path

section Merging

variable {own : Option (List Parameter)} {path : List Parameter} {i : ParameterId}

/-- **The parameters of an operation come first, and behind them those that it inherits.** -/
theorem mergeParameters_eq (own : Option (List Parameter)) (path : List Parameter) :
    mergeParameters own path = own.getD [] ++ inheritedParameters own path := by
  rw [mergeParameters, newParameters_eq_newByKey, inheritedParameters, identities]

theorem identities_mergeParameters : identities (mergeParameters own path) =
    identities (own.getD []) ++ identities (inheritedParameters own path) := by
  rw [mergeParameters_eq, identities, List.map_append]
  rfl

/-- An identity is inherited where the path declares it and the operation does not. -/
theorem mem_identities_inheritedParameters_iff : i ∈ identities (inheritedParameters own path) ↔
    i ∉ identities (own.getD []) ∧ i ∈ identities path :=
  mem_map_newByKey_iff

theorem nodup_inheritedParameters : (identities (inheritedParameters own path)).Nodup :=
  nodup_map_newByKey path

theorem mem_identities_mergeParameters_iff : i ∈ identities (mergeParameters own path) ↔
    i ∈ identities (own.getD []) ∨ i ∈ identities path := by
  rw [identities_mergeParameters, List.mem_append, mem_identities_inheritedParameters_iff]
  by_cases mine : i ∈ identities (own.getD []) <;> simp [mine]

/-- What the operation declares stands for an identity, and only without it the first
declaration of the path does. -/
theorem find?_mergeParameters (i : ParameterId) :
    (mergeParameters own path).find? (fun p => decide (p.id = i)) =
      ((own.getD []).find? fun p => decide (p.id = i)).or
        (path.find? fun p => decide (p.id = i)) := by
  rw [mergeParameters_eq, List.find?_append]
  cases mine : (own.getD []).find? fun p => decide (p.id = i) with
  | some p => rfl
  | none =>
      have absent : i ∉ identities (own.getD []) := by
        intro mem
        obtain ⟨p, declared, is⟩ := List.mem_map.1 mem
        exact List.find?_eq_none.1 mine p declared (decide_eq_true is)
      exact congrArg _ (find?_newByKey absent path)

/-- The operation declares an identity as often as before, and one that is inherited comes in
once. -/
theorem count_mergeParameters (i : ParameterId) :
    (identities (mergeParameters own path)).count i =
      if i ∈ identities (own.getD []) then (identities (own.getD [])).count i
      else if i ∈ identities path then 1 else 0 := by
  rw [identities_mergeParameters, List.count_append, nodup_inheritedParameters.count]
  simp only [mem_identities_inheritedParameters_iff]
  by_cases mine : i ∈ identities (own.getD [])
  · simp [mine]
  · simp [mine, List.count_eq_zero_of_not_mem mine]

/-- Inheriting brings no identity in twice. -/
theorem nodup_mergeParameters_iff : (identities (mergeParameters own path)).Nodup ↔
    (identities (own.getD [])).Nodup := by
  rw [identities_mergeParameters, List.nodup_append]
  refine ⟨fun whole => whole.1, fun distinct => ⟨distinct, nodup_inheritedParameters, ?_⟩⟩
  rintro i mine _ inherited rfl
  exact (mem_identities_inheritedParameters_iff.1 inherited).1 mine

/-- Once everything is inherited there is nothing left to inherit. -/
theorem mergeParameters_mergeParameters :
    mergeParameters (some (mergeParameters own path)) path = mergeParameters own path := by
  have nothing : inheritedParameters (some (mergeParameters own path)) path = [] :=
    newByKey_eq_nil_iff.2 fun i mem => mem_identities_mergeParameters_iff.2 (.inr mem)
  rw [mergeParameters_eq (some _), nothing, Option.getD_some, List.append_nil]

end Merging

/-- **What an operation inherits from its path.**  Its own list stays as it is, and behind it
come, in the order of the path, the first declarations of the identities that it does not have.
So every identity of either list is there and stands for what the operation declares, if it
declares it; no inherited identity comes twice, and none comes twice at all unless the operation
declares one twice; and inheriting from the same path again changes nothing. -/
theorem mergeParameters_inherits (own : Option (List Parameter)) (path : List Parameter) :
    (∃ inherited, mergeParameters own path = own.getD [] ++ inherited ∧
      inherited = newByKey Parameter.id (identities (own.getD [])) path ∧
      (identities inherited).Nodup ∧
      ∀ i ∈ identities inherited, i ∉ identities (own.getD [])) ∧
    (∀ i, i ∈ identities (mergeParameters own path) ↔
      i ∈ identities (own.getD []) ∨ i ∈ identities path) ∧
    (∀ i, (mergeParameters own path).find? (fun p => decide (p.id = i)) =
      ((own.getD []).find? fun p => decide (p.id = i)).or
        (path.find? fun p => decide (p.id = i))) ∧
    (∀ i, (identities (mergeParameters own path)).count i =
      if i ∈ identities (own.getD []) then (identities (own.getD [])).count i
      else if i ∈ identities path then 1 else 0) ∧
    ((identities (mergeParameters own path)).Nodup ↔ (identities (own.getD [])).Nodup) ∧
    mergeParameters (some (mergeParameters own path)) path = mergeParameters own path :=
  ⟨⟨_, mergeParameters_eq own path, rfl, nodup_inheritedParameters,
      fun _ mem => (mem_identities_inheritedParameters_iff.1 mem).1⟩,
    fun _ => mem_identities_mergeParameters_iff, find?_mergeParameters, count_mergeParameters,
    nodup_mergeParameters_iff, mergeParameters_mergeParameters⟩

end ApiForge
