import ApiForge.Proofs.Operations.Groups
import ApiForge.Proofs.Security
/-
# ApiForge.Proofs.Operations.Auth -- when an operation is marked as protected

An operation is protected where it does not ask for an empty list and its own requirements, or
those of the whole API, name a declared scheme (`resolveAuth_ne_nil_iff`).  The flag and the
vendor extension of an operation in a group say just that
(`OperationGroups.ofDescription_flags`).  The methods that it carries are those that the backend
leaves of what is asked for, and the backend may leave none.  Then the operation is marked and
carries nothing (`OperationGroups.marked_without_methods`): the mark is set before the backend
is asked, while the run as a whole asks it first (`RunInfo.authEntries`).
-/

namespace ApiForge

set_option autoImplicit false

/-- The operation asks for authentication, or the API does on its behalf. -/
def Description.Protects (d : Description) (operation : Operation) : Prop :=
  operation.security ≠ some [] ∧ (NamesScheme (operation.security.getD []) d.securitySchemes ∨
    NamesScheme (d.security.getD []) d.securitySchemes)

/-! ## Backends -/

/-- What the backend projects says nothing about authentication. -/
def Projector.Silent (p : Projector) : Prop :=
  ∀ path method operation description projected,
    p.ofOperation path method operation description = .ok projected →
    projected.authMethods = [] ∧ projected.hasAuthMethods = false ∧
      projected.extensions.get? Key.authMethodsExtension = none

/-- Groups hold what is put into them and nothing else. -/
def Projector.Stores (p : Projector) : Prop :=
  ∀ tag o groups key, ∀ held ∈ (Dict.get? (p.addToGroup tag o groups) key).getD [],
    held = o ∨ ∃ other, held ∈ (Dict.get? groups other).getD []

namespace OperationProjection

variable {o : OperationProjection}

theorem secured_cons (backend : Backend) (method : AuthMethod) (methods : List AuthMethod) :
    o.secured backend (method :: methods) =
      { o.setExtension Key.authMethodsExtension (.bool true) with
        authMethods := backend.projector.ofSecurity (method :: methods)
        hasAuthMethods := true } := rfl

/-- A projection that says nothing of authentication is marked where something is asked for,
and carries what the backend leaves of it. -/
theorem secured_flags (backend : Backend) (methods : List AuthMethod)
    (silent : o.authMethods = [] ∧ o.hasAuthMethods = false ∧
      o.extensions.get? Key.authMethodsExtension = none) :
    ((o.secured backend methods).hasAuthMethods = true ↔ methods ≠ []) ∧
      ((o.secured backend methods).extensions.get? Key.authMethodsExtension = some (.bool true) ↔
        methods ≠ []) ∧
      (o.secured backend methods).authMethods
        = if methods = [] then [] else backend.projector.ofSecurity methods := by
  obtain ⟨none, unset, absent⟩ := silent
  cases methods with
  | nil => simp [secured, none, unset, absent]
  | cons method rest =>
      rw [secured_cons]
      simp [setExtension]

end OperationProjection

namespace OperationGroups

variable {backend : Backend} {d : Description}

/-- Every operation of every group has a property. -/
def Forall (P : OperationProjection → Prop) (groups : OperationGroups) : Prop :=
  ∀ key, ∀ o ∈ (Dict.get? groups key).getD [], P o

theorem stores_of_appends (appends : Appends backend) : backend.projector.Stores := by
  intro tag o groups key held mem
  rw [appends, get?_add] at mem
  split at mem
  · rw [Option.getD_some, List.mem_append, List.mem_singleton] at mem
    exact mem.symm.imp id fun there => ⟨key, there⟩
  · exact .inr ⟨key, mem⟩

section Filling

variable {P : OperationProjection → Prop} (stores : backend.projector.Stores)
include stores

theorem forall_addUnder {groups next : OperationGroups} {placed : PlacedOperation × Tag}
    (all : groups.Forall P) (new : ∀ o, placed.1.project backend d = .ok o → P o)
    (done : PlacedOperation.addUnder backend d groups placed = .ok next) : next.Forall P := by
  obtain ⟨o, projected, rfl⟩ := addUnder_eq_ok_iff.1 done
  intro key held mem
  rcases stores _ _ _ _ held mem with rfl | ⟨other, there⟩
  · exact new held projected
  · exact all other held there

/-- **What every projection has holds of every operation of the groups that are filled.** -/
theorem forall_foldlM_addUnder {list : List (PlacedOperation × Tag)}
    {groups filled : OperationGroups} (all : groups.Forall P)
    (new : ∀ placed ∈ list, ∀ o, placed.1.project backend d = .ok o → P o)
    (done : list.foldlM (PlacedOperation.addUnder backend d) groups = .ok filled) :
    filled.Forall P := by
  induction list generalizing groups with
  | nil =>
      cases done
      exact all
  | cons placed rest ih =>
      rw [List.foldlM_cons, bind_eq_ok_iff] at done
      obtain ⟨next, first, later⟩ := done
      exact ih (forall_addUnder stores all (new placed List.mem_cons_self) first)
        (fun p mem => new p (List.mem_cons_of_mem _ mem)) later

/-- Every operation of a group is what became of a declared one. -/
theorem projects_of_mem {groups : OperationGroups} (done : ofDescription backend d = .ok groups) :
    groups.Forall fun o => ∃ path verb, d.Projects backend path verb o := by
  refine forall_foldlM_addUnder stores (fun _ _ mem => absurd mem List.not_mem_nil) ?_ done
  rintro ⟨placed, tag⟩ mem o projected
  obtain ⟨found, inAll, inTags⟩ := List.mem_flatMap.1 mem
  obtain ⟨_, -, same⟩ := List.mem_map.1 inTags
  cases same
  exact ⟨_, _, PlacedOperation.projects_of_project inAll projected⟩

/-- **An operation is marked, by the flag and by the extension alike, exactly where something
is asked for, and it carries what the backend leaves of that.**  Mark and methods agree exactly
where the backend leaves something. -/
theorem ofDescription_flags (silent : backend.projector.Silent) {groups : OperationGroups}
    (done : ofDescription backend d = .ok groups) {key : String}
    {group : List OperationProjection} (found : Dict.get? groups key = some group)
    {o : OperationProjection} (mem : o ∈ group) :
    ∃ path verb item operation asked, d.Declares path verb item operation ∧
      asked = resolveAuth operation.security d.security d.securitySchemes ∧
      (o.hasAuthMethods = true ↔ d.Protects operation) ∧
      (o.extensions.get? Key.authMethodsExtension = some (.bool true) ↔
        o.hasAuthMethods = true) ∧
      o.authMethods = (if o.hasAuthMethods then backend.projector.ofSecurity asked else []) ∧
      ((o.hasAuthMethods = true ↔ o.authMethods ≠ []) ↔
        (o.hasAuthMethods = true → backend.projector.ofSecurity asked ≠ [])) := by
  obtain ⟨path, verb, item, operation, projected, tags, declared, ok, -, rfl⟩ :=
    projects_of_mem stores done key o (by rw [found]; exact mem)
  refine ⟨path, verb, item, operation, _, declared, rfl, ?_⟩
  rw [Description.Protects, ← resolveAuth_ne_nil_iff]
  generalize resolveAuth operation.security d.security d.securitySchemes = asked
  have unset := silent _ _ _ _ _ ok
  obtain ⟨flag, extension, methods⟩ := OperationProjection.secured_flags
    (o := { projected with tags := tags }) backend asked unset
  generalize ({ projected with tags := tags } : OperationProjection).secured backend asked = o
    at flag extension methods
  by_cases nothing : asked = []
  · have unmarked : o.hasAuthMethods = false := by simpa [nothing] using flag
    simp [unmarked, nothing, extension, methods]
  · have marked : o.hasAuthMethods = true := flag.2 nothing
    simp [marked, nothing, extension, methods]

end Filling

/-- An API that asks for a bearer token everywhere. -/
def guardedPaths : Description :=
  { Description.empty with
    components := some ⟨.empty, .ofList [("bearer", .http "bearer" none none)], .empty⟩
    security := some [.ofList [("bearer", [])]]
    paths := some (.ofList [("/pets", { (default : PathItem) with
      get := some { (default : Operation) with tags := some ["pets"] } })]) }

/-- A backend that keeps nothing of an operation but its method and its path. -/
def bareBackend (ofSecurity : List AuthMethod → List AuthMethod) : Backend :=
  { plainBackend with
    projector := { plainBackend.projector with
      ofOperation := fun path method _ _ => .ok (.named method path "operation")
      ofSecurity := ofSecurity } }

theorem silent_bareBackend (ofSecurity : List AuthMethod → List AuthMethod) :
    (bareBackend ofSecurity).projector.Silent := by
  intro path method _ _ projected ok
  cases ok
  exact ⟨rfl, rfl, rfl⟩

theorem ofDescription_flags_guarded : (bareBackend id).projector.Stores ∧
    (bareBackend id).projector.Silent ∧
    ∃ groups, ofDescription (bareBackend id) guardedPaths = .ok groups ∧
      ∃ group, Dict.get? groups "Pets" = some group ∧ ∃ o ∈ group,
        ∃ path verb item operation, guardedPaths.Declares path verb item operation ∧
          (o.hasAuthMethods = true ↔ guardedPaths.Protects operation) := by
  have found : ((ofDescription (bareBackend id) guardedPaths).toOption.bind fun groups =>
      (Dict.get? groups "Pets").bind List.head?).isSome = true := by decide +kernel
  obtain ⟨o, found⟩ := Option.isSome_iff_exists.1 found
  obtain ⟨groups, made, found⟩ := Option.bind_eq_some_iff.1 found
  obtain ⟨group, found, first⟩ := Option.bind_eq_some_iff.1 found
  have done := eq_ok_of_toOption made
  have stores : (bareBackend id).projector.Stores := stores_of_appends fun _ _ _ => rfl
  have mem := List.mem_of_head? first
  obtain ⟨path, verb, item, operation, -, declared, -, flag, -⟩ :=
    ofDescription_flags stores (silent_bareBackend id) done found mem
  exact ⟨stores, silent_bareBackend id, groups, done, group, found, o, mem,
    path, verb, item, operation, declared, flag⟩

/-- **Where the backend leaves no method, the operation is marked all the same**: the flag and
the extension are set, and there is nothing to go through. -/
theorem marked_without_methods : (bareBackend fun _ => []).projector.Silent ∧
    ((ofDescription (bareBackend fun _ => []) guardedPaths).toOption.bind fun groups =>
      (Dict.get? groups "Pets").map fun group => group.map fun o =>
        (o.hasAuthMethods, isSetFlag (o.extensions.get? Key.authMethodsExtension),
          o.authMethods.map AuthMethod.name))
      = some [(true, true, [])] :=
  ⟨silent_bareBackend _, by decide +kernel⟩

end OperationGroups

end ApiForge
