import ApiForge.Operations.GroupContext
import ApiForge.Proofs.Context
import ApiForge.Proofs.Except
/-
# ApiForge.Proofs.Operations.GroupContext -- what the context of a group holds

Four layers lie over each other: what the group is made from, what the run says, the
properties, and what properties may not replace (`GroupContext.get?_of_build`).  The models
of a run show in one entry alone (`GroupContext.get?_of_build_of_ne`).  No property takes
anything away that the context has to hold, but for the operations, which a property of that
name replaces as a whole (`GroupContext.mem_missing_iff`).
-/

namespace ApiForge

set_option autoImplicit false

namespace Key

/-- What the entry for the operations of a group holds. -/
def ofOperations : List String := [classname, pathPrefix, operation]

end Key

namespace RunInfo

/-- The names of the entries for security. -/
def securityNames : List String := [Key.authMethods, Key.hasAuthMethods]

theorem get?_authEntries_eq_none (run : RunInfo) {name : String}
    (foreign : name ∉ securityNames) : run.authEntries.get? name = none := by
  rw [authEntries]
  split
  · rfl
  · refine Dict.get?_ofList_of_notMem (fun e mem => ?_) foreign
    exact List.mem_map_of_mem (f := Prod.fst) mem

end RunInfo

namespace GroupContext

variable {backend : Backend} {tag : String} {operations : List OperationProjection}
  {models : List Json} {run : RunInfo} {context : Context}

/-! ## The layers -/

/-- What the run says about its places and its packages. -/
def runFields (tag : String) (run : RunInfo) : List (String × Json) :=
  [(Key.basePath, .str run.server.basePath),
    (Key.basePathWithoutHost, .str run.server.basePathWithoutHost),
    (Key.contextPath, .str run.server.contextPath), (Key.baseName, .str tag),
    (Key.modelPackage, .str run.modelPackage)]

theorem runEntries_eq :
    runEntries tag run = run.authEntries.extend (.ofList (runFields tag run)) := rfl

def runNames : List String :=
  [Key.basePath, Key.basePathWithoutHost, Key.contextPath, Key.baseName, Key.modelPackage]

theorem map_fst_runFields : (runFields tag run).map Prod.fst = runNames := rfl

theorem get?_runEntries {e : String × Json} (mem : e ∈ runFields tag run) :
    (runEntries tag run).get? e.1 = some e.2 := by
  have distinct : ((runFields tag run).map Prod.fst).Nodup := by
    rw [map_fst_runFields]
    decide
  rw [runEntries_eq, Dict.get?_extend, Dict.get?_ofList_of_mem mem distinct]
  rfl

theorem isSome_runEntries {name : String} (mem : name ∈ runNames) :
    ((runEntries tag run).get? name).isSome := by
  rw [← @map_fst_runFields tag run] at mem
  obtain ⟨e, known, rfl⟩ := List.mem_map.1 mem
  rw [get?_runEntries known]
  rfl

/-- Everything else that the run says is about security. -/
theorem get?_runEntries_of_notMem {name : String} (foreign : name ∉ runNames) :
    (runEntries tag run).get? name = run.authEntries.get? name := by
  rw [runEntries_eq, Dict.get?_extend, Dict.get?_ofList_of_notMem (fun e mem => ?_) foreign,
    Option.none_or]
  rw [← @map_fst_runFields tag run]
  exact List.mem_map_of_mem mem

/-- The names of the entries that properties may not replace. -/
def fixedNames : List String :=
  [Key.classname, Key.classVarName, Key.importPath, Key.classFilename, Key.vendorExtensions,
    Key.sortParamsByRequiredFlag, Key.hasModel]

theorem get?_fixedEntries_eq_none {name : String} (foreign : name ∉ fixedNames) :
    (fixedEntries backend tag models run).get? name = none := by
  refine Dict.get?_ofList_of_notMem ?_ foreign
  simp only [List.forall_mem_append]
  refine ⟨⟨by simp [fixedNames], ?_⟩, by simp [fixedNames]⟩
  split
  · exact fun _ mem => absurd mem List.not_mem_nil
  · simp [fixedNames]

theorem get?_fixedEntries_hasModel :
    (fixedEntries backend tag models run).get? Key.hasModel = some (.bool !models.isEmpty) := by
  simp [fixedEntries, Dict.get?_ofList, Entries.get?]

theorem get?_fixedEntries_classname :
    (fixedEntries backend tag models run).get? Key.classname
      = some (.str (backend.naming.apiName tag)) := by
  rw [fixedEntries, Dict.get?_ofList]
  split <;> simp [Entries.get?, Key.hasModel, Key.sortParamsByRequiredFlag, Key.classFilename,
    Key.importPath, Key.classVarName, Key.classname, Key.vendorExtensions]

theorem get?_fixedEntries_vendorExtensions :
    (fixedEntries backend tag models run).get? Key.vendorExtensions
      = if run.vendorExtensions.isEmpty then none else some (.ofDict run.vendorExtensions) := by
  rw [fixedEntries, Dict.get?_ofList]
  split <;> simp [Entries.get?, Key.hasModel, Key.sortParamsByRequiredFlag, Key.classFilename,
    Key.importPath, Key.classVarName, Key.classname, Key.vendorExtensions]

/-- The models show in one entry alone. -/
theorem get?_fixedEntries_of_ne (models' : List Json) {name : String} (ne : name ≠ Key.hasModel) :
    (fixedEntries backend tag models run).get? name
      = (fixedEntries backend tag models' run).get? name := by
  simp [fixedEntries, Dict.get?_ofList, Entries.get?, ne.symm]

/-- **What stands under a name in the context of a group.** -/
theorem get?_of_build (plain : backend.hooks = .none)
    (built : build backend tag operations models run = .ok context) (name : String) :
    context.get? name = ((fixedEntries backend tag models run).get? name).or
      ((run.properties.get? name).or (((runEntries tag run).get? name).or
        ((markLastOperation (draft backend tag operations run)).get? name))) := by
  obtain ⟨first, done, built⟩ := bind_eq_ok_iff.1 built
  obtain ⟨second, doneToo, built⟩ := bind_eq_ok_iff.1 built
  rw [plain] at done doneToo
  cases done
  cases doneToo
  cases built
  simp only [Dict.get?_extend]

/-- **The models of a run show in one entry alone.** -/
theorem get?_of_build_of_ne {models' : List Json} {context' : Context}
    (plain : backend.hooks = .none)
    (built : build backend tag operations models run = .ok context)
    (built' : build backend tag operations models' run = .ok context') {name : String}
    (ne : name ≠ Key.hasModel) : context.get? name = context'.get? name := by
  rw [get?_of_build plain built, get?_of_build plain built',
    get?_fixedEntries_of_ne models' ne]

/-- The context says whether there are models. -/
theorem get?_of_build_hasModel (plain : backend.hooks = .none)
    (built : build backend tag operations models run = .ok context) :
    context.get? Key.hasModel = some (.bool !models.isEmpty) := by
  rw [get?_of_build plain built, get?_fixedEntries_hasModel]
  rfl

/-! ## What a context has to hold -/

theorem get?_markLastOperation (c : Context) {name : String} (ne : name ≠ Key.operations) :
    (markLastOperation c).get? name = c.get? name := by
  rw [markLastOperation, Dict.get?_modify, if_neg ne.symm]

/-- The names of what a group is made from. -/
def draftNames : List String := [Key.operations, Key.package, Key.hasImport, Key.imports]

theorem get?_markLastOperation_draft {name : String} (foreign : name ∉ draftNames) :
    (markLastOperation (draft backend tag operations run)).get? name = none := by
  have ne : name ≠ Key.operations := fun same => foreign (same ▸ List.mem_cons_self)
  rw [get?_markLastOperation _ ne, draft]
  refine Dict.get?_ofList_of_notMem (fun e mem => ?_) foreign
  exact List.mem_map_of_mem (f := Prod.fst) mem

/-- The entry for the operations holds its parts before properties come. -/
theorem operations_of_draft : ∃ entry,
    (markLastOperation (draft backend tag operations run)).get? Key.operations = some entry ∧
      ∀ part ∈ Key.ofOperations, (entry.field? part).isSome := by
  rw [markLastOperation, Dict.get?_modify, if_pos rfl]
  simp only [draft, Dict.get?_ofList]
  refine ⟨_, rfl, ?_⟩
  intro part mem
  rw [Json.field?_modifyField]
  simp only [Key.ofOperations, List.mem_cons, List.not_mem_nil, or_false] at mem
  rcases mem with rfl | rfl | rfl <;>
    simp [Json.field?_object, Entries.get?, Key.classname, Key.pathPrefix, Key.operation]

theorem isSome_draft {name : String} (mem : name ∈ [Key.imports, Key.hasImport]) :
    ((markLastOperation (draft backend tag operations run)).get? name).isSome := by
  simp only [List.mem_cons, List.not_mem_nil, or_false] at mem
  rcases mem with rfl | rfl
  · rw [get?_markLastOperation _ (by decide), draft, Dict.get?_ofList]
    simp [Entries.get?]
  · rw [get?_markLastOperation _ (by decide), draft, Dict.get?_ofList]
    simp [Entries.get?, Key.hasImport, Key.imports]

/-- The names without a dot that the context has to hold. -/
def plainNames : List String :=
  [Key.classname, Key.hasModel] ++ runNames ++ [Key.imports, Key.hasImport]

/-- No property takes away a name without a dot that the context has to hold. -/
theorem isSome_of_build (plain : backend.hooks = .none)
    (built : build backend tag operations models run = .ok context) {name : String}
    (mem : name ∈ plainNames) : (context.get? name).isSome := by
  rw [get?_of_build plain built]
  simp only [Option.isSome_or, Bool.or_eq_true]
  simp only [plainNames, List.mem_append] at mem
  rcases mem with (fixed | said) | drafted
  · left
    simp only [List.mem_cons, List.not_mem_nil, or_false] at fixed
    rcases fixed with rfl | rfl
    · rw [get?_fixedEntries_classname]
      rfl
    · rw [get?_fixedEntries_hasModel]
      rfl
  · exact Or.inr (Or.inr (Or.inl (isSome_runEntries said)))
  · exact Or.inr (Or.inr (Or.inr (isSome_draft drafted)))

/-- What is neither fixed nor said by the run comes from the group, unless a property takes its
place. -/
theorem get?_of_build_of_notMem (plain : backend.hooks = .none)
    (built : build backend tag operations models run = .ok context) {name : String}
    (foreign : name ∉ fixedNames ++ runNames ++ RunInfo.securityNames) :
    context.get? name = (run.properties.get? name).or
      ((markLastOperation (draft backend tag operations run)).get? name) := by
  simp only [List.mem_append, not_or] at foreign
  obtain ⟨⟨notFixed, notSaid⟩, notSecurity⟩ := foreign
  rw [get?_of_build plain built, get?_fixedEntries_eq_none notFixed,
    get?_runEntries_of_notMem notSaid, RunInfo.get?_authEntries_eq_none _ notSecurity]
  rfl

/-- The operations of a context are those of the group, unless a property takes their
place. -/
theorem get?_of_build_operations (plain : backend.hooks = .none)
    (built : build backend tag operations models run = .ok context) :
    ∃ entry, (∀ part ∈ Key.ofOperations, (entry.field? part).isSome) ∧
      context.get? Key.operations = (run.properties.get? Key.operations).or (some entry) := by
  obtain ⟨entry, drafted, whole⟩ := @operations_of_draft backend tag operations run
  exact ⟨entry, whole, by rw [get?_of_build_of_notMem plain built (by decide), drafted]⟩

/-- **What the context of a group lacks of what it has to hold.**  It lacks nothing, unless a
property takes the place of the operations; then it lacks the parts that the property does
not have. -/
theorem mem_missing_iff (plain : backend.hooks = .none)
    (built : build backend tag operations models run = .ok context) {name : String} :
    name ∈ context.missing Key.ofGroup ↔ ∃ value part,
      run.properties.get? Key.operations = some value ∧ part ∈ Key.ofOperations ∧
      value.field? part = none ∧ name = "operations." ++ part := by
  obtain ⟨entry, whole, stands⟩ := get?_of_build_operations plain built
  have plainly (key : String) (known : key ∈ plainNames)
      (alone : Text.splitString (· = '.') key = [key]) : context.lookup key ≠ none := by
    rw [Context.lookup_plain alone]
    exact Option.isSome_iff_ne_none.1 (isSome_of_build plain built known)
  have dotted (part : String)
      (two : Text.splitString (· = '.') ("operations." ++ part) = [Key.operations, part])
      (known : part ∈ Key.ofOperations) :
      context.lookup ("operations." ++ part) = none ↔
        ∃ value, run.properties.get? Key.operations = some value ∧ value.field? part = none := by
    rw [Context.lookup_dotted two, stands]
    cases run.properties.get? Key.operations with
    | none =>
        have there := Option.isSome_iff_ne_none.1 (whole part known)
        simp [there]
    | some value => simp
  have parts : ∀ part ∈ Key.ofOperations, "operations." ++ part ∈ Key.ofGroup ∧
      Text.splitString (· = '.') ("operations." ++ part) = [Key.operations, part] := by
    decide
  have names : ∀ key ∈ Key.ofGroup, (∃ part ∈ Key.ofOperations, key = "operations." ++ part) ∨
      (key ∈ plainNames ∧ Text.splitString (· = '.') key = [key]) := by
    decide
  rw [Context.mem_missing_iff]
  constructor
  · rintro ⟨mem, lost⟩
    rcases names name mem with ⟨part, known, rfl⟩ | ⟨known, alone⟩
    · obtain ⟨value, given, none⟩ := (dotted part (parts part known).2 known).1 lost
      exact ⟨value, part, given, known, none, rfl⟩
    · exact absurd lost (plainly name known alone)
  · rintro ⟨value, part, given, known, none, rfl⟩
    exact ⟨(parts part known).1, (dotted part (parts part known).2 known).2 ⟨value, given, none⟩⟩

/-! ## Contexts in a list -/

/-- A context that is listed with others is the context itself, apart from the entry that says
whether others follow. -/
theorem field?_of_mem_markHasMore {contexts : List Context} {listed : Json}
    (mem : listed ∈ markHasMore (contexts.map .ofDict)) : ∃ context ∈ contexts,
      ∀ name, name ≠ Key.hasMore → listed.field? name = context.get? name := by
  induction contexts with
  | nil => cases mem
  | cons first rest ih =>
      cases rest with
      | nil =>
          cases List.mem_singleton.1 mem
          exact ⟨first, List.mem_cons_self, fun name _ => Json.field?_ofDict first name⟩
      | cons second others =>
          rcases List.mem_cons.1 mem with rfl | later
          · refine ⟨first, List.mem_cons_self, fun name ne => ?_⟩
            rw [Json.field?_setField_of_ne _ _ ne.symm, Json.field?_ofDict]
          · obtain ⟨context, inRest, same⟩ := ih later
            exact ⟨context, List.mem_cons_of_mem _ inRest, same⟩

end GroupContext

end ApiForge
