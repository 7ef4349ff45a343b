import ApiForge.Bundle
import ApiForge.Proofs.Operations.GroupContext
import ApiForge.Proofs.Properties
/-
# ApiForge.Proofs.Bundle -- what the bundle of a run holds

Properties come first in a bundle, so nothing that it has to hold can be taken away
(`Bundle.missing_eq_nil`).  What the run says to groups of operations it says to the bundle
as well, only that the run comes before the properties in the bundle and after them in a group
(`Bundle.get?_draft_shared`, `GroupContext.get?_of_build_shared`).
-/

namespace ApiForge

set_option autoImplicit false

namespace Bundle

variable {backend : Backend} {description : Description} {models operations : List Json}
  {run : RunInfo} {bundle : Context}

theorem build_eq_ok_iff (plain : backend.hooks = .none) :
    build backend description models operations run = .ok bundle ↔
      bundle = draft description models operations run := by
  rw [build, plain]
  exact ⟨fun ok => (Except.ok.inj ok).symm, fun same => congrArg _ same.symm⟩

theorem get?_docs {name : String} (foreign : name ≠ Key.externalDocs) :
    (Dict.ofList (optionalField Key.externalDocs
      (description.externalDocs.map ExternalDocs.toJson))).get? name = none := by
  refine Dict.get?_ofList_eq_none ?_
  rw [forall_mem_optionalField]
  intro _ _
  exact foreign.symm

/-- The names of what properties may not replace. -/
def ownNames : List String :=
  [Key.apiPackage, Key.apiInfo, Key.openApi, Key.basePath, Key.basePathWithoutHost, Key.scheme,
    Key.host, Key.contextPath, Key.models, Key.hasModel, Key.apiFolder, Key.modelPackage]

theorem map_fst_ownFields :
    (ownFields description models operations run).map Prod.fst = ownNames := rfl

/-- Only entries for security and for documentation come after those of the bundle itself. -/
theorem get?_draft {name : String} (foreign : name ∉ RunInfo.securityNames)
    (notDocs : name ≠ Key.externalDocs) :
    (draft description models operations run).get? name =
      ((Dict.ofList (ownFields description models operations run)).get? name).or
        (run.properties.get? name) := by
  simp only [draft, Dict.get?_extend, get?_docs notDocs, run.get?_authEntries_eq_none foreign,
    Option.none_or]

/-- What properties may not replace stands in the bundle as it is. -/
theorem get?_draft_of_mem {e : String × Json}
    (mem : e ∈ ownFields description models operations run) :
    (draft description models operations run).get? e.1 = some e.2 := by
  have apart : ∀ name ∈ ownNames, name ∉ RunInfo.securityNames ∧ name ≠ Key.externalDocs := by
    decide
  have distinct : ((ownFields description models operations run).map Prod.fst).Nodup := by
    rw [map_fst_ownFields]
    decide
  have known : e.1 ∈ ownNames := by
    rw [← @map_fst_ownFields description models operations run]
    exact List.mem_map_of_mem mem
  rw [get?_draft (apart _ known).1 (apart _ known).2, Dict.get?_ofList_of_mem mem distinct]
  rfl

/-- The groups of operations stand in the bundle in their order. -/
theorem lookup_draft_apis :
    (draft description models operations run).lookup "apiInfo.apis" = some (.arr operations) := by
  have two : Text.splitString (· = '.') "apiInfo.apis" = [Key.apiInfo, Key.apis] := by
    decide
  have stands : (draft description models operations run).get? Key.apiInfo
      = some (.obj [(Key.apis, .arr operations)]) :=
    get?_draft_of_mem (e := (Key.apiInfo, _)) (List.mem_of_getElem? (i := 1) rfl)
  rw [Context.lookup_dotted two, stands, Option.bind_some]
  simp [Json.field?, Entries.get?]

/-- The entries of models stand in the bundle in their order. -/
theorem get?_draft_models : (draft description models operations run).get? Key.models
    = some (.arr (markMoreModels models)) :=
  get?_draft_of_mem (e := (Key.models, _)) (List.mem_of_getElem? (i := 8) rfl)

/-- **A bundle lacks nothing that it has to hold, whatever the properties are.** -/
theorem missing_eq_nil : (draft description models operations run).missing Key.ofBundle = [] := by
  rw [Context.missing_eq_nil_iff]
  have names : ∀ key ∈ Key.ofBundle, key = "apiInfo.apis" ∨
      (key ∈ ownNames ∧ Text.splitString (· = '.') key = [key]) := by
    decide
  intro name mem
  rcases names name mem with rfl | ⟨known, alone⟩
  · rw [lookup_draft_apis]
    rfl
  · rw [Context.lookup_plain alone]
    rw [← @map_fst_ownFields description models operations run] at known
    obtain ⟨e, own, rfl⟩ := List.mem_map.1 known
    rw [get?_draft_of_mem own]
    rfl

/-! ## What groups are told as well -/

/-- What a run says to the groups of operations and to the bundle, besides whether there are
models. -/
def sharedNames : List String :=
  [Key.basePath, Key.basePathWithoutHost, Key.contextPath, Key.modelPackage, Key.authMethods,
    Key.hasAuthMethods]

/-- The entries for security stand in neither list of what a run says. -/
theorem get?_draft_security (tag : String) {name : String}
    (mem : name ∈ RunInfo.securityNames) :
    (draft description models operations run).get? name =
      ((GroupContext.runEntries tag run).get? name).or (run.properties.get? name) := by
  have apart : ∀ key ∈ RunInfo.securityNames, key ≠ Key.externalDocs ∧ key ∉ ownNames ∧
      key ∉ GroupContext.runNames := by decide
  obtain ⟨notDocs, notOwn, notSaid⟩ := apart name mem
  have own : (Dict.ofList (ownFields description models operations run)).get? name = none := by
    refine Dict.get?_ofList_of_notMem (fun e inOwn => ?_) notOwn
    rw [← @map_fst_ownFields description models operations run]
    exact List.mem_map_of_mem inOwn
  rw [GroupContext.get?_runEntries_of_notMem notSaid]
  simp only [draft, Dict.get?_extend, get?_docs notDocs, own, Option.none_or]

/-- What the run says comes before the properties in the bundle. -/
theorem get?_draft_shared (tag : String) {name : String} (mem : name ∈ sharedNames) :
    (draft description models operations run).get? name =
      ((GroupContext.runEntries tag run).get? name).or (run.properties.get? name) := by
  have said : ∀ e ∈ ownFields description models operations run,
      (GroupContext.runEntries tag run).get? e.1 = some e.2 →
      (draft description models operations run).get? e.1 =
        ((GroupContext.runEntries tag run).get? e.1).or (run.properties.get? e.1) := by
    intro e own same
    rw [get?_draft_of_mem own, same]
    rfl
  simp only [sharedNames, List.mem_cons, List.not_mem_nil, or_false] at mem
  rcases mem with rfl | rfl | rfl | rfl | security
  · exact said (Key.basePath, _) (List.mem_of_getElem? (i := 3) rfl)
      (GroupContext.get?_runEntries (List.mem_of_getElem? (i := 0) rfl))
  · exact said (Key.basePathWithoutHost, _) (List.mem_of_getElem? (i := 4) rfl)
      (GroupContext.get?_runEntries (List.mem_of_getElem? (i := 1) rfl))
  · exact said (Key.contextPath, _) (List.mem_of_getElem? (i := 7) rfl)
      (GroupContext.get?_runEntries (List.mem_of_getElem? (i := 2) rfl))
  · exact said (Key.modelPackage, _) (List.mem_of_getElem? (i := 11) rfl)
      (GroupContext.get?_runEntries (List.mem_of_getElem? (i := 4) rfl))
  · exact get?_draft_security tag (by simpa [RunInfo.securityNames] using security)

end Bundle

namespace GroupContext

variable {backend : Backend} {tag : String} {operations : List OperationProjection}
  {models : List Json} {run : RunInfo} {context : Context}

/-- What the run says comes after the properties in the context of a group. -/
theorem get?_of_build_shared (plain : backend.hooks = .none)
    (built : build backend tag operations models run = .ok context) {name : String}
    (mem : name ∈ Bundle.sharedNames) :
    context.get? name = (run.properties.get? name).or ((runEntries tag run).get? name) := by
  have apart : ∀ key ∈ Bundle.sharedNames, key ∉ fixedNames ∧
      key ∉ draftNames := by decide
  rw [get?_of_build plain built, get?_fixedEntries_eq_none (apart name mem).1,
    get?_markLastOperation_draft (apart name mem).2, Option.none_or, Option.or_none]

/-- **A group and the bundle of one run say the same about the run, unless a property says
something else: then the group says what the property says.** -/
theorem get?_of_build_eq_bundle {description : Description} {listed contexts : List Json}
    (plain : backend.hooks = .none)
    (built : build backend tag operations models run = .ok context) {name : String}
    (mem : name ∈ Bundle.sharedNames) :
    context.get? name = (run.properties.get? name).or
      ((Bundle.draft description listed contexts run).get? name) := by
  rw [get?_of_build_shared plain built mem, Bundle.get?_draft_shared tag mem]
  cases run.properties.get? name with
  | none => rw [Option.or_none]
  | some value => rfl

end GroupContext

end ApiForge
