import ApiForge.Proofs.Operations.Auth
import ApiForge.Proofs.Operations.Nicknames
import ApiForge.Proofs.Run.Contract
import ApiForge.Proofs.Run.Obliging
import ApiForge.Proofs.Text.Identifier
/-
# ApiForge.Proofs.Run.Symbols -- what operations are called

The backend of a manifest makes the nickname of an operation from its id, or from its path and
its method where it has none, and it makes an identifier of either
(`ManifestBackend.isIdentifier_projectOperation`).  Nothing that happens on the way to the
templates changes that: authentication leaves the nickname alone, and a nickname that has come
up before gets nothing but a number (`isIdentifier_numbered`).  So what a group lists goes by
identifiers, whatever the description says (`ManifestBackend.groups_list_identifiers`).  Only a
property that takes the place of the operations lists what it likes
(`Job.property_lists_nickname`).
-/

namespace ApiForge

set_option autoImplicit false

open ApiForge.Text

/-! ## One operation -/

theorem isIdentifier_generatedOperationId (path : String) (method : Method) :
    IsIdentifier (generatedOperationId path method).toList :=
  isIdentifier_toIdentifier _

theorem OperationProjection.nickname_secured (backend : Backend) (methods : List AuthMethod)
    (o : OperationProjection) : (o.secured backend methods).nickname = o.nickname := by
  cases methods <;> rfl

theorem OperationProjection.field?_toJson_nickname (o : OperationProjection) :
    o.toJson.field? "nickname" = some (.str o.nickname) := by
  rw [toJson, Json.field?_object]
  simp [Entries.get?, Key.imports, Key.authMethods, Key.hasAuthMethods, Key.vendorExtensions]

/-- A number behind an identifier leaves it one. -/
theorem isIdentifier_numbered {name : String} (ok : IsIdentifier name.toList)
    (names : List String) (i : Nat) : IsIdentifier (numbered names i name).toList := by
  rw [numbered]
  split
  · exact isIdentifier_append_number ok _
  · exact ok

namespace ManifestBackend

/-- **Every operation gets an identifier for a nickname, whatever its id, its path and its
method.** -/
theorem isIdentifier_projectOperation (path : String) (method : Method) (operation : Operation) :
    IsIdentifier (projectOperation path method operation).nickname.toList :=
  isIdentifier_toIdentifier _

/-! ## The operations of a group -/

theorem isIdentifier_of_projects {b : ManifestBackend} {d : Description} {path : String}
    {verb : Verb} {o : OperationProjection} (projects : d.Projects b.toBackend path verb o) :
    IsIdentifier o.nickname.toList := by
  obtain ⟨item, operation, projected, tags, -, made, -, rfl⟩ := projects
  cases made
  rw [OperationProjection.nickname_secured]
  exact isIdentifier_projectOperation _ _ _

theorem isIdentifier_of_ofDescription {b : ManifestBackend} {d : Description}
    {groups : OperationGroups} (done : OperationGroups.ofDescription b.toBackend d = .ok groups) :
    groups.Forall fun o => IsIdentifier o.nickname.toList := by
  have stores : b.toBackend.projector.Stores :=
    OperationGroups.stores_of_appends fun _ _ _ => rfl
  intro key o mem
  obtain ⟨path, verb, projects⟩ := OperationGroups.projects_of_mem stores done key o mem
  exact isIdentifier_of_projects projects

end ManifestBackend

/-- A group whose nicknames have been tried out. -/
theorem OperationGroups.exists_group_of_nicknames {backend : Backend} {d : Description}
    {key : String} {names : List String}
    (tried : ((ofDescription backend d).toOption.bind fun groups =>
      (Dict.get? groups key).map fun group => group.map (·.nickname)) = some names) :
    ∃ groups operations, ofDescription backend d = .ok groups ∧
      Dict.get? groups key = some operations ∧ operations.map (·.nickname) = names := by
  obtain ⟨groups, made, found⟩ := Option.bind_eq_some_iff.1 tried
  obtain ⟨operations, found, same⟩ := Option.map_eq_some_iff.1 found
  exact ⟨groups, operations, eq_ok_of_toOption made, found, same⟩

/-! ## What a group lists -/

/-- An entry lists that many operations, and each goes by an identifier. -/
def ListsIdentifiers (count : Nat) (entry : Json) : Prop :=
  ∃ items, entry.field? Key.operation = some (.arr items) ∧ items.length = count ∧
    ∀ item ∈ items, ∃ nickname, item.field? "nickname" = some (.str nickname) ∧
      IsIdentifier nickname.toList

/-- Sorting and numbering leave identifiers. -/
theorem GroupContext.listsIdentifiers_of_build {backend : Backend} {tag : String}
    {operations : List OperationProjection} {models : List Json} {run : RunInfo}
    {context : Context} (plain : backend.hooks = .none)
    (built : build backend tag operations models run = .ok context)
    (identifiers : ∀ o ∈ operations, IsIdentifier o.nickname.toList) :
    ∃ entry, ListsIdentifiers operations.length entry ∧
      context.get? Key.operations = (run.properties.get? Key.operations).or (some entry) := by
  obtain ⟨entry, drafted, listed⟩ := @listed_of_draft backend tag operations run
  refine ⟨entry, ⟨_, listed, by simp [sortByNickname], fun item mem => ?_⟩, ?_⟩
  · obtain ⟨e, placed, rfl⟩ := List.mem_map.1 mem
    refine ⟨_, OperationProjection.field?_toJson_nickname _, ?_⟩
    have inGroup := List.mem_mergeSort.1 (List.fst_mem_of_mem_zipIdx placed)
    exact isIdentifier_numbered (identifiers e.1 inGroup) _ _
  · rw [get?_of_build_of_notMem plain built (by decide), drafted]

/-- **Operations go by identifiers.**  An identifier is made of every text, and what is one stays
as it is; so every id, and every path and method that stand in for one, makes a nickname that is
one.  Whatever the description says, its operations are grouped, every group has its context,
and what is listed there goes by identifiers, unless a property takes the place of the
operations. -/
theorem ManifestBackend.groups_list_identifiers (b : ManifestBackend) (d : Description) :
    (∀ s : String, IsIdentifier (toIdentifier s).toList ∧
      (toIdentifier s = s ↔ IsIdentifier s.toList) ∧
      toIdentifier (toIdentifier s) = toIdentifier s) ∧
    (∀ path method, IsIdentifier (generatedOperationId path method).toList) ∧
    (∀ path method operation,
      IsIdentifier (projectOperation path method operation).nickname.toList) ∧
    ∃ groups, OperationGroups.ofDescription b.toBackend d = .ok groups ∧
      ∀ tag operations, Dict.get? groups tag = some operations → ∀ models run,
        ∃ context entry, GroupContext.build b.toBackend tag operations models run = .ok context ∧
          ListsIdentifiers operations.length entry ∧
          context.get? Key.operations
            = (run.properties.get? Key.operations).or (some entry) := by
  refine ⟨fun s => ⟨isIdentifier_toIdentifier s, toIdentifier_eq_self_iff,
    toIdentifier_toIdentifier s⟩, isIdentifier_generatedOperationId,
    isIdentifier_projectOperation, ?_⟩
  obtain ⟨groups, done⟩ := b.obliging.ofDescription d
  refine ⟨groups, done, fun tag operations found models run => ?_⟩
  obtain ⟨context, built⟩ := b.obliging.contextOfGroup tag operations models run
  have identifiers : ∀ o ∈ operations, IsIdentifier o.nickname.toList :=
    fun o mem => isIdentifier_of_ofDescription done tag o (by rw [found]; exact mem)
  obtain ⟨entry, lists, stands⟩ :=
    GroupContext.listsIdentifiers_of_build b.obliging.hooks built identifiers
  exact ⟨context, entry, built, lists, stands⟩

/-- A blank id over an odd path, and two ids of which one identifier is made. -/
def oddlyNamedPaths : Description :=
  let asking (id : String) : PathItem :=
    { (default : PathItem) with get := some { (default : Operation) with operationId := some id } }
  { Description.empty with
    paths := some (.ofList [("/1 {größe}", asking " "), ("/a", asking "list pets"),
      ("/b", asking "list-pets")]) }

theorem ManifestBackend.groups_list_identifiers_oddly_named :
    ∃ groups operations context entry,
      OperationGroups.ofDescription GroupContext.quietBackend oddlyNamedPaths = .ok groups ∧
      Dict.get? groups "Default" = some operations ∧
      operations.map (·.nickname) = ["_1Gr__eGet", "list_pets", "list_pets"] ∧
      GroupContext.build GroupContext.quietBackend "Default" operations [] GroupContext.quietRun
        = .ok context ∧
      context.get? Key.operations = some entry ∧ ListsIdentifiers 3 entry := by
  obtain ⟨groups, operations, grouped, found, names⟩ :=
    @OperationGroups.exists_group_of_nicknames GroupContext.quietBackend oddlyNamedPaths "Default"
      ["_1Gr__eGet", "list_pets", "list_pets"] (by decide)
  obtain ⟨-, -, -, same, done, contexts⟩ :=
    groups_list_identifiers ⟨.standard, ⟨""⟩, none⟩ oddlyNamedPaths
  obtain rfl : groups = same := Except.ok.inj (grouped.symm.trans done)
  obtain ⟨context, entry, built, lists, stands⟩ :=
    contexts "Default" operations found [] GroupContext.quietRun
  have count : operations.length = 3 := by simpa using congrArg List.length names
  exact ⟨groups, operations, context, entry, done, found, names, built, stands, count ▸ lists⟩

namespace Job

/-- Operations as a property has them. -/
def foreignOperations : Json :=
  .object [(Key.operation, .arr [.object [("nickname", .str "1 2")]])]

theorem not_listsIdentifiers_foreignOperations (count : Nat) :
    ¬ ListsIdentifiers count foreignOperations := by
  rintro ⟨items, listed, -, named⟩
  cases listed
  obtain ⟨nickname, here, ok⟩ := named _ List.mem_cons_self
  cases here
  exact absurd ok (by decide)

/-- A backend whose manifest has a property called `operations`. -/
def declaringOperations : Backend :=
  backendOf { groupManifest with properties := .ofList [(Key.operations, foreignOperations)] }

/-- **A property called `operations` lists what it likes.** -/
theorem property_lists_nickname : ∃ run groups operations context,
    info ⟨"", ""⟩ (configWith []) declaringOperations petsDescription = .ok run ∧
      OperationGroups.ofDescription declaringOperations petsDescription = .ok groups ∧
      Dict.get? groups "Pets" = some operations ∧ operations.map (·.nickname) = ["petsGet"] ∧
      GroupContext.build declaringOperations "Pets" operations [] run = .ok context ∧
      context.get? Key.operations = some foreignOperations ∧
      ∀ count, ¬ ListsIdentifiers count foreignOperations := by
  obtain ⟨groups, operations, grouped, found, names⟩ :=
    @OperationGroups.exists_group_of_nicknames declaringOperations petsDescription "Pets"
      ["petsGet"] (by decide)
  have obliging : declaringOperations.Obliging := ManifestBackend.obliging _
  obtain ⟨run, informed⟩ := obliging.info ⟨"", ""⟩ (configWith []) petsDescription
  obtain ⟨context, built⟩ := obliging.contextOfGroup "Pets" operations [] run
  refine ⟨run, groups, operations, context, informed, grouped, found, names, built, ?_,
    not_listsIdentifiers_foreignOperations⟩
  rw [GroupContext.get?_of_build_of_notMem obliging.hooks built (by decide),
    get?_of_info obliging.hooks informed (by decide)]
  rfl

end Job

end ApiForge
