import ApiForge.Proofs.Dict
import ApiForge.Proofs.FirstOccurrences
import Mathlib.Data.List.Perm.Subperm
/-
# ApiForge.Proofs.Security -- what requirements come to

Of the names that requirements mention, those that are declared count, each where it is mentioned
first (`names_authMethodsFor`).  An operation goes by its own requirements where they mention a
declared name, and by those of the whole API where they do not (`names_resolveAuth`).  Only the
first mentions count, so scopes, names that are not declared and names that come again change
nothing (`IdleChange.firstDeclared_eq`).

An operation that asks for an empty list is the exception.  It asks for nothing, and it leaves
that to the API again once the list holds a requirement, though the requirement mention nothing
(`empty_requirement_ends_opt_out`).
-/

namespace ApiForge

set_option autoImplicit false

variable {requirements more : List SecurityRequirement} {schemes : Dict SecurityScheme}
  {own whole : Option (List SecurityRequirement)} {name : String} {m : AuthMethod}

/-! ## Names that are mentioned -/

/-- Some requirement names a declared scheme. -/
def NamesScheme (requirements : List SecurityRequirement) (schemes : Dict SecurityScheme) : Prop :=
  ∃ requirement ∈ requirements, ∃ name,
    (Dict.get? requirement name).isSome ∧ (schemes.get? name).isSome

theorem mem_mentionedSchemes_iff : name ∈ mentionedSchemes requirements ↔
    ∃ requirement ∈ requirements, (Dict.get? requirement name).isSome := by
  simp only [mentionedSchemes, Dict.keys, List.mem_flatMap, List.mem_map, Prod.exists,
    exists_and_right, exists_eq_right, Dict.mem_entries_iff, Option.isSome_iff_exists]

/-- The declared names that requirements mention, in order and with repetitions. -/
def declaredMentions (schemes : Dict SecurityScheme) (requirements : List SecurityRequirement) :
    List String :=
  (mentionedSchemes requirements).filter schemes.contains

/-- The declared names that requirements mention, each where it is mentioned first. -/
def firstDeclared (schemes : Dict SecurityScheme) (requirements : List SecurityRequirement) :
    List String :=
  newByKey id [] (declaredMentions schemes requirements)

theorem declaredMentions_append : declaredMentions schemes (requirements ++ more) =
    declaredMentions schemes requirements ++ declaredMentions schemes more := by
  simp only [declaredMentions, mentionedSchemes, List.flatMap_append, List.filter_append]

theorem declaredMentions_cons (r : SecurityRequirement) :
    declaredMentions schemes (r :: requirements) =
      (Dict.keys r).filter schemes.contains ++ declaredMentions schemes requirements := by
  simp only [declaredMentions, mentionedSchemes, List.flatMap_cons, List.filter_append]

theorem mem_firstDeclared_iff : name ∈ firstDeclared schemes requirements ↔
    name ∈ mentionedSchemes requirements ∧ schemes.contains name = true := by
  have left := @mem_map_newByKey_iff _ _ _ id [] name (declaredMentions schemes requirements)
  rw [List.map_id, List.map_id] at left
  rw [firstDeclared, left, declaredMentions, List.mem_filter]
  exact and_iff_right List.not_mem_nil

theorem nodup_firstDeclared : (firstDeclared schemes requirements).Nodup := by
  rw [← List.map_id (firstDeclared schemes requirements)]
  exact nodup_map_newByKey _

theorem firstDeclared_ne_nil_iff :
    firstDeclared schemes requirements ≠ [] ↔ NamesScheme requirements schemes := by
  constructor
  · intro some
    obtain ⟨name, first⟩ := List.exists_mem_of_ne_nil _ some
    obtain ⟨mentioned, scheme⟩ := mem_firstDeclared_iff.1 first
    obtain ⟨requirement, mem, names⟩ := mem_mentionedSchemes_iff.1 mentioned
    exact ⟨requirement, mem, name, names, scheme⟩
  · rintro ⟨requirement, mem, name, names, scheme⟩
    have mentioned := mem_mentionedSchemes_iff.2 ⟨requirement, mem, names⟩
    exact List.ne_nil_of_mem (mem_firstDeclared_iff.2 ⟨mentioned, scheme⟩)

/-! ## What requirements come to -/

theorem authMethod?_eq_some_iff :
    authMethod? schemes name = some m ↔ m.name = name ∧ schemes.get? name = some m.scheme := by
  obtain ⟨called, scheme⟩ := m
  simp only [authMethod?, Option.map_eq_some_iff, AuthMethod.mk.injEq]
  constructor
  · rintro ⟨_, declared, rfl, rfl⟩
    exact ⟨rfl, declared⟩
  · rintro ⟨rfl, declared⟩
    exact ⟨scheme, declared, rfl, rfl⟩

/-- Requirements come to the declared schemes of their first mentions. -/
theorem authMethodsFor_eq : authMethodsFor requirements schemes =
    (firstDeclared schemes requirements).filterMap (authMethod? schemes) := by
  have declared (name : String) : (if schemes.contains name = true then authMethod? schemes name
      else none) = authMethod? schemes name := by
    rw [authMethod?, Dict.contains]
    cases schemes.get? name <;> rfl
  have first : (newByKey id [] (mentionedSchemes requirements)).filter schemes.contains =
      newByKey id [] ((mentionedSchemes requirements).filter schemes.contains) :=
    filter_newByKey schemes.contains _
  rw [firstDeclared, declaredMentions, ← first, authMethodsFor, firstMentions_eq_newByKey,
    List.filterMap_filter]
  simp only [declared]

theorem names_authMethodsFor : (authMethodsFor requirements schemes).map AuthMethod.name =
    firstDeclared schemes requirements := by
  rw [authMethodsFor_eq, List.map_filterMap]
  conv => rhs; rw [← List.filterMap_some (l := firstDeclared schemes requirements)]
  refine List.filterMap_congr fun name mem => ?_
  obtain ⟨scheme, declared⟩ := Option.isSome_iff_exists.1 (mem_firstDeclared_iff.1 mem).2
  rw [authMethod?, declared]
  rfl

theorem declared_of_mem_authMethodsFor (mem : m ∈ authMethodsFor requirements schemes) :
    schemes.get? m.name = some m.scheme := by
  rw [authMethodsFor_eq, List.mem_filterMap] at mem
  obtain ⟨name, -, made⟩ := mem
  obtain ⟨rfl, declared⟩ := authMethod?_eq_some_iff.1 made
  exact declared

theorem firstDeclared_eq_nil_iff :
    firstDeclared schemes requirements = [] ↔ authMethodsFor requirements schemes = [] := by
  rw [← names_authMethodsFor, List.map_eq_nil_iff]

/-- Requirements come to something where they name a declared scheme. -/
theorem authMethodsFor_ne_nil_iff :
    authMethodsFor requirements schemes ≠ [] ↔ NamesScheme requirements schemes := by
  rw [← firstDeclared_ne_nil_iff, ne_eq, ne_eq, firstDeclared_eq_nil_iff]

/-! ## What an operation asks for -/

/-- What an operation asks for itself comes first, unless that is nothing. -/
theorem resolveAuth_of_ne (asks : own ≠ some []) : resolveAuth own whole schemes =
    if authMethodsFor (own.getD []) schemes = [] then authMethodsFor (whole.getD []) schemes
    else authMethodsFor (own.getD []) schemes := by
  rcases own with _ | _ | ⟨first, rest⟩
  · simp only [resolveAuth]
    cases authMethodsFor (Option.getD none []) schemes <;> rfl
  · exact absurd rfl asks
  · simp only [resolveAuth]
    cases authMethodsFor (Option.getD (some (first :: rest)) []) schemes <;> rfl

/-- **What an operation asks for.**  One that asks for an empty list asks for nothing;
otherwise a declared scheme that is named for the operation or for the whole API is enough. -/
theorem resolveAuth_ne_nil_iff : resolveAuth own whole schemes ≠ [] ↔
    own ≠ some [] ∧ (NamesScheme (own.getD []) schemes ∨ NamesScheme (whole.getD []) schemes) := by
  by_cases empty : own = some []
  · simp [resolveAuth, empty]
  rw [resolveAuth_of_ne empty, ← authMethodsFor_ne_nil_iff, ← authMethodsFor_ne_nil_iff]
  by_cases none : authMethodsFor (own.getD []) schemes = []
  · simp [none, empty]
  · simp [none, empty]

/-- Whatever an operation asks for is what some requirements come to. -/
theorem exists_resolveAuth_eq (own whole : Option (List SecurityRequirement))
    (schemes : Dict SecurityScheme) :
    ∃ requirements, resolveAuth own whole schemes = authMethodsFor requirements schemes := by
  by_cases empty : own = some []
  · exact ⟨[], by rw [empty]; rfl⟩
  rw [resolveAuth_of_ne empty]
  split
  · exact ⟨_, rfl⟩
  · exact ⟨_, rfl⟩

theorem nodup_names_resolveAuth : ((resolveAuth own whole schemes).map AuthMethod.name).Nodup := by
  obtain ⟨requirements, same⟩ := exists_resolveAuth_eq own whole schemes
  rw [same, names_authMethodsFor]
  exact nodup_firstDeclared

theorem declared_of_mem_resolveAuth (mem : m ∈ resolveAuth own whole schemes) :
    schemes.get? m.name = some m.scheme := by
  obtain ⟨requirements, same⟩ := exists_resolveAuth_eq own whole schemes
  rw [same] at mem
  exact declared_of_mem_authMethodsFor mem

theorem mem_allAuthMethods_iff :
    m ∈ allAuthMethods schemes ↔ schemes.get? m.name = some m.scheme := by
  rw [allAuthMethods, List.mem_map]
  constructor
  · rintro ⟨e, mem, rfl⟩
    exact Dict.mem_entries_iff.1 mem
  · exact fun declared => ⟨(m.name, m.scheme), Dict.mem_entries_iff.2 declared, rfl⟩

/-- What an operation asks for is a part of what is declared. -/
theorem subperm_resolveAuth : (resolveAuth own whole schemes).Subperm (allAuthMethods schemes) :=
  List.subperm_of_subset nodup_names_resolveAuth.of_map fun _ mem =>
    mem_allAuthMethods_iff.2 (declared_of_mem_resolveAuth mem)

/-- **The names that an operation goes by.** -/
theorem names_resolveAuth : (resolveAuth own whole schemes).map AuthMethod.name =
    if own = some [] then []
    else if firstDeclared schemes (own.getD []) = [] then firstDeclared schemes (whole.getD [])
    else firstDeclared schemes (own.getD []) := by
  by_cases empty : own = some []
  · rw [if_pos empty, empty]
    rfl
  rw [if_neg empty, resolveAuth_of_ne empty]
  by_cases none : authMethodsFor (own.getD []) schemes = []
  · rw [if_pos none, if_pos (firstDeclared_eq_nil_iff.2 none), names_authMethodsFor]
  · rw [if_neg none, if_neg (mt firstDeclared_eq_nil_iff.1 none), names_authMethodsFor]

/-! ## Changes that do not matter -/

/-- One change to requirements that leaves the first mentions of declared names alone. -/
inductive IdleChange (schemes : Dict SecurityScheme) :
    List SecurityRequirement → List SecurityRequirement → Prop where
  /-- A requirement asks for other scopes. -/
  | rescoped (front back : List SecurityRequirement) (r : SecurityRequirement)
      (scopes : String → List String → List String) :
      IdleChange schemes (front ++ r :: back) (front ++ Dict.mapValues scopes r :: back)
  /-- A requirement mentions one more name, which is not declared. -/
  | mentioned (front back : List SecurityRequirement) (r : SecurityRequirement) (name : String)
      (scopes : List String) : schemes.contains name = false →
      IdleChange schemes (front ++ r :: back) (front ++ Dict.insert r name scopes :: back)
  /-- A requirement comes in that mentions no declared name. -/
  | inserted (front back : List SecurityRequirement) (r : SecurityRequirement) :
      (∀ name ∈ Dict.keys r, schemes.contains name = false) →
      IdleChange schemes (front ++ back) (front ++ r :: back)
  /-- Requirements come last that mention only names which are mentioned already. -/
  | appended (requirements more : List SecurityRequirement) :
      (∀ name ∈ mentionedSchemes more, name ∈ mentionedSchemes requirements) →
      IdleChange schemes requirements (requirements ++ more)

/-- **First mentions stay the same.** -/
theorem IdleChange.firstDeclared_eq {changed : List SecurityRequirement}
    (change : IdleChange schemes requirements changed) :
    firstDeclared schemes changed = firstDeclared schemes requirements := by
  cases change with
  | rescoped front back r scopes =>
      simp only [firstDeclared, declaredMentions_append, declaredMentions_cons, Dict.keys_mapValues]
  | mentioned front back r name scopes undeclared =>
      simp only [firstDeclared, declaredMentions_append, declaredMentions_cons,
        Dict.filter_keys_insert _ undeclared]
  | inserted front back r undeclared =>
      have none : (Dict.keys r).filter schemes.contains = [] :=
        List.filter_eq_nil_iff.2 fun name mem => by simp [undeclared name mem]
      simp only [firstDeclared, declaredMentions_append, declaredMentions_cons, none,
        List.nil_append]
  | appended _ more known =>
      have nothing : newByKey id ((declaredMentions schemes requirements).map id ++ [])
          (declaredMentions schemes more) = [] := by
        refine newByKey_eq_nil_iff.2 fun name mem => ?_
        simp only [List.map_id, List.append_nil, declaredMentions, List.mem_filter] at mem ⊢
        exact ⟨known name mem.1, mem.2⟩
      rw [firstDeclared, declaredMentions_append, newByKey_append, nothing, List.append_nil,
        firstDeclared]

theorem IdleChange.authMethodsFor_eq {changed : List SecurityRequirement}
    (change : IdleChange schemes requirements changed) :
    authMethodsFor changed schemes = authMethodsFor requirements schemes := by
  rw [ApiForge.authMethodsFor_eq, ApiForge.authMethodsFor_eq, change.firstDeclared_eq]

theorem IdleChange.ne_nil {changed : List SecurityRequirement}
    (change : IdleChange schemes requirements changed) (some : requirements ≠ []) :
    changed ≠ [] := by
  cases change with
  | appended _ more known => simp [some]
  | _ => simp

/-- **How the authentication of an operation is resolved.**  The methods have different names,
each with the scheme that is declared under it, and are so a part of all that is declared.  They
are the declared names that the requirements of the operation mention, in the order of first
mention, or those of the whole API where there are none; an operation that asks for an empty list
has none.  Changes that leave the first mentions alone change nothing, in the requirements of the
API or in those of an operation that has some. -/
theorem resolveAuth_by_first_mention (own whole : Option (List SecurityRequirement))
    (schemes : Dict SecurityScheme) :
    ((resolveAuth own whole schemes).map AuthMethod.name).Nodup ∧
    (∀ m ∈ resolveAuth own whole schemes, schemes.get? m.name = some m.scheme) ∧
    (resolveAuth own whole schemes).Subperm (allAuthMethods schemes) ∧
    (resolveAuth own whole schemes).map AuthMethod.name =
      (if own = some [] then []
      else if firstDeclared schemes (own.getD []) = [] then firstDeclared schemes (whole.getD [])
      else firstDeclared schemes (own.getD [])) ∧
    (∀ requirements changed, own = some requirements → requirements ≠ [] →
      IdleChange schemes requirements changed →
      resolveAuth (some changed) whole schemes = resolveAuth own whole schemes) ∧
    (∀ requirements changed, whole = some requirements →
      IdleChange schemes requirements changed →
      resolveAuth own (some changed) schemes = resolveAuth own whole schemes) ∧
    (resolveAuth own whole schemes = [] ↔ own = some [] ∨
      ¬ NamesScheme (own.getD []) schemes ∧ ¬ NamesScheme (whole.getD []) schemes) := by
  refine ⟨nodup_names_resolveAuth, fun _ => declared_of_mem_resolveAuth, subperm_resolveAuth,
    names_resolveAuth, ?_, ?_, ?_⟩
  · rintro requirements changed rfl some change
    have asks : Option.some requirements ≠ Option.some [] := fun same => some (Option.some.inj same)
    have asksToo : Option.some changed ≠ Option.some [] :=
      fun same => change.ne_nil some (Option.some.inj same)
    rw [resolveAuth_of_ne asks, resolveAuth_of_ne asksToo, Option.getD_some, Option.getD_some,
      change.authMethodsFor_eq]
  · rintro requirements changed rfl change
    by_cases empty : own = some []
    · rw [empty]
      rfl
    · rw [resolveAuth_of_ne empty, resolveAuth_of_ne empty, Option.getD_some, Option.getD_some,
        change.authMethodsFor_eq]
  · rw [← not_iff_not, ← ne_eq, resolveAuth_ne_nil_iff, not_or, not_and_or, not_not, not_not]

/-- Schemes with a bearer token. -/
def bearerSchemes : Dict SecurityScheme := .ofList [("bearer", .http "bearer" none none)]

/-- **A requirement that mentions nothing does matter in an empty list**: the operation that asked
for no authentication goes by the requirements of the API again. -/
theorem empty_requirement_ends_opt_out :
    (∀ name ∈ mentionedSchemes [.empty], name ∈ mentionedSchemes []) ∧
      (resolveAuth (some []) (some [.ofList [("bearer", [])]]) bearerSchemes).map AuthMethod.name
        = [] ∧
      (resolveAuth (some ([] ++ [.empty])) (some [.ofList [("bearer", [])]]) bearerSchemes).map
        AuthMethod.name = ["bearer"] :=
  ⟨fun _ mem => mem, rfl, by decide +kernel⟩

end ApiForge
