import ApiForge.Backend.ManifestBackend
import ApiForge.Operations.Groups
import ApiForge.Proofs.Dict
import ApiForge.Proofs.Except
import Mathlib.Data.List.Forall2
/-
# ApiForge.Proofs.Operations.Groups -- every tag puts its operation into one group

A tag stands at a place of a description: under a path and a verb, at a position among the
tags of the operation there (`Description.NamesTag`).  Places are ordered by path, verb and
position.  The group of a key holds, in that order, one projection for every place whose tag
leads to the key, and nothing else (`ofDescription_groups`).  An operation is therefore in a
group as often as it has tags that lead there (`ofDescription_repeats`), which is more than
once where two of its tags are spelled differently and sanitized alike, or are the same
(`repeated_tag_repeats_operation`).

Which object a tag is resolved to is said by `Description.Resolves`.  An operation without
tags is not resolved at all: it carries the bare default tag, also where a tag of that name
is declared (`declared_default_tag_is_not_carried`).
-/

namespace ApiForge

set_option autoImplicit false

/-! ## Places of tags -/

/-- Where a verb stands in the processing order. -/
def Verb.rank (v : Verb) : Nat := all.idxOf v

theorem Verb.pairwise_rank : all.Pairwise fun a b => a.rank < b.rank := by decide

/-- The names of the tags of an operation.  One without tags counts as tagged `default`. -/
def Operation.tagNames (o : Operation) : List String :=
  match o.tags.getD [] with
  | [] => [defaultTag]
  | names => names

/-- Where a tag of an operation stands. -/
structure TagPlace where
  path : String
  verb : Verb
  position : Nat

/-- The order in which tags are met: by path, then by verb, then by position. -/
def TagPlace.Before (a b : TagPlace) : Prop :=
  a.path < b.path ∨ a.path = b.path ∧
    (a.verb.rank < b.verb.rank ∨ a.verb = b.verb ∧ a.position < b.position)

namespace Description

/-- An operation is declared for a path under a verb. -/
def Declares (d : Description) (path : String) (verb : Verb) (item : PathItem)
    (operation : Operation) : Prop :=
  d.paths.bind (·.get? path) = some item ∧ item.operation? verb = some operation

/-- The tag at a place has that name. -/
def NamesTag (d : Description) (place : TagPlace) (name : String) : Prop :=
  ∃ item operation, d.Declares place.path place.verb item operation ∧
    operation.tagNames[place.position]? = some name

/-- The tag that a name stands for: the first one declared by that name, or a bare one. -/
inductive Resolves (d : Description) : String → Tag → Prop where
  | declared {name : String} {before after : List Tag} {tag : Tag} :
      d.tags.getD [] = before ++ tag :: after → tag.name = name →
      (∀ t ∈ before, t.name ≠ name) → Resolves d name tag
  | bare {name : String} : (∀ t ∈ d.tags.getD [], t.name ≠ name) →
      Resolves d name (Tag.named name)

/-- The tags that an operation carries into every group: those that its names stand for, and
the bare default tag where it names none. -/
inductive Carries (d : Description) (o : Operation) : List Tag → Prop where
  | untagged : o.tags.getD [] = [] → Carries d o [Tag.named defaultTag]
  | tagged {tags : List Tag} : o.tags.getD [] ≠ [] →
      List.Forall₂ d.Resolves (o.tags.getD []) tags → Carries d o tags

end Description

/-- A projection with the authentication that is asked for; nothing is said about it where
none is. -/
def OperationProjection.secured (backend : Backend) (methods : List AuthMethod)
    (o : OperationProjection) : OperationProjection :=
  match methods with
  | [] => o
  | methods =>
    { o.setExtension Key.authMethodsExtension (.bool true) with
      authMethods := backend.projector.ofSecurity methods
      hasAuthMethods := true }

/-- What becomes of the operation under a verb of a path: the backend projects it with its
merged parameters, and it carries its tags and the authentication it asks for. -/
def Description.Projects (d : Description) (backend : Backend) (path : String) (verb : Verb)
    (o : OperationProjection) : Prop :=
  ∃ item operation projected tags, d.Declares path verb item operation ∧
    backend.projector.ofOperation (backend.naming.escapeQuotationMark path) verb.method
      { operation with
        parameters := some (mergeParameters operation.parameters item.parameters) } d
      = .ok projected ∧
    d.Carries operation tags ∧
    o = ({ projected with tags := tags } : OperationProjection).secured backend
      (resolveAuth operation.security d.security d.securitySchemes)

/-! ## Tags -/

theorem resolves_resolveTag (d : Description) (name : String) :
    d.Resolves name (resolveTag d name) := by
  rw [resolveTag]
  cases found : d.declaredTag? name with
  | none =>
      refine .bare fun t mem same => ?_
      have := List.find?_eq_none.1 found t mem
      simp [same] at this
  | some tag =>
      obtain ⟨named, before, after, split, earlier⟩ := List.find?_eq_some_iff_append.1 found
      exact .declared split (by simpa using named) fun t mem same => by
        simpa [same] using earlier t mem

theorem name_resolveTag (d : Description) (name : String) : (resolveTag d name).name = name := by
  rw [resolveTag]
  cases found : d.declaredTag? name with
  | none => rfl
  | some tag => simpa using List.find?_some found

theorem carries_resolveTags (d : Description) (o : Operation) :
    d.Carries o (resolveTags d o) := by
  simp only [resolveTags]
  cases tags : o.tags.getD [] with
  | nil => exact .untagged tags
  | cons name names =>
      refine .tagged (by simp [tags]) ?_
      rw [tags, List.forall₂_map_right_iff, List.forall₂_same]
      exact fun name _ => resolves_resolveTag d name

theorem map_name_resolveTags (d : Description) (o : Operation) :
    (resolveTags d o).map Tag.name = o.tagNames := by
  simp only [resolveTags, Operation.tagNames]
  cases o.tags.getD [] with
  | nil => rfl
  | cons name names => simp [List.map_map, Function.comp_def, name_resolveTag]

/-! ## Operations where they are found -/

namespace PlacedOperation

variable {backend : Backend} {d : Description}

theorem mem_operations_iff {item : PathItem} {verb : Verb} {operation : Operation} :
    (verb, operation) ∈ item.operations ↔ item.operation? verb = some operation := by
  simp [PathItem.operations, List.mem_filterMap, Verb.mem_all]

theorem pairwise_operations (item : PathItem) :
    item.operations.Pairwise fun a b => a.1.rank < b.1.rank := by
  refine List.Pairwise.filterMap _ (fun a b before x fromA y fromB => ?_) Verb.pairwise_rank
  obtain ⟨_, -, rfl⟩ := Option.map_eq_some_iff.1 fromA
  obtain ⟨_, -, rfl⟩ := Option.map_eq_some_iff.1 fromB
  exact before

/-- The paths of a description, in name order. -/
def paths (d : Description) : List (String × PathItem) := (d.paths.map Dict.entries).getD []

theorem mem_paths_iff {path : String} {item : PathItem} :
    (path, item) ∈ paths d ↔ d.paths.bind (·.get? path) = some item := by
  simp only [paths]
  cases d.paths with
  | none => simp
  | some table => exact Dict.mem_entries_iff

theorem pairwise_paths (d : Description) : (paths d).Pairwise fun a b => a.1 < b.1 := by
  simp only [paths]
  cases d.paths with
  | none => exact List.Pairwise.nil
  | some table => exact table.sorted

/-- The operations that are found are those that are declared, with merged parameters and
resolved tags. -/
theorem mem_all_iff {o : PlacedOperation} : o ∈ all d ↔
    ∃ item operation, d.Declares o.path o.verb item operation ∧
      o.operation = { operation with
        parameters := some (mergeParameters operation.parameters item.parameters) } ∧
      o.tags = resolveTags d operation := by
  obtain ⟨path, verb, merged, tags⟩ := o
  constructor
  · intro mem
    obtain ⟨⟨name, item⟩, inPaths, inItem⟩ := List.mem_flatMap.1 mem
    obtain ⟨⟨v, operation⟩, declared, same⟩ := List.mem_map.1 inItem
    cases same
    exact ⟨item, operation, ⟨mem_paths_iff.1 inPaths, mem_operations_iff.1 declared⟩, rfl, rfl⟩
  · rintro ⟨item, operation, ⟨inPaths, declared⟩, rfl, rfl⟩
    exact List.mem_flatMap.2 ⟨(path, item), mem_paths_iff.2 inPaths,
      List.mem_map.2 ⟨(verb, operation), mem_operations_iff.2 declared, rfl⟩⟩

/-- Operations come by path, and by verb within a path. -/
theorem pairwise_all (d : Description) : (all d).Pairwise fun a b =>
    a.path < b.path ∨ a.path = b.path ∧ a.verb.rank < b.verb.rank := by
  refine List.pairwise_flatMap.2 ⟨fun entry _ => ?_, (pairwise_paths d).imp ?_⟩
  · exact List.pairwise_map.2 ((pairwise_operations entry.2).imp fun before => .inr ⟨rfl, before⟩)
  · intro first second before a fromFirst b fromSecond
    obtain ⟨_, -, rfl⟩ := List.mem_map.1 fromFirst
    obtain ⟨_, -, rfl⟩ := List.mem_map.1 fromSecond
    exact .inl before

theorem project_eq (o : PlacedOperation) : o.project backend d =
    (backend.projector.ofOperation (backend.naming.escapeQuotationMark o.path) o.verb.method
      o.operation d).map fun projected =>
        ({ projected with tags := o.tags } : OperationProjection).secured backend (o.auth d) :=
  rfl

/-- The projection of an operation that is found is what becomes of the declared one. -/
theorem projects_of_project {o : PlacedOperation} {projected : OperationProjection}
    (found : o ∈ all d) (ok : o.project backend d = .ok projected) :
    d.Projects backend o.path o.verb projected := by
  obtain ⟨item, operation, declared, merged, tags⟩ := mem_all_iff.1 found
  rw [project_eq, map_eq_ok_iff] at ok
  obtain ⟨raw, ok, rfl⟩ := ok
  rw [merged] at ok
  refine ⟨item, operation, raw, o.tags, declared, ok, tags ▸ carries_resolveTags d operation, ?_⟩
  rw [auth, merged]

end PlacedOperation

/-! ## Tags where they are found -/

namespace OperationGroups

variable {backend : Backend} {d : Description}

/-- The tags of an operation that is found, each with its place. -/
def visitsOf (o : PlacedOperation) : List (TagPlace × PlacedOperation × Tag) :=
  o.tags.zipIdx.map fun t => (⟨o.path, o.verb, t.2⟩, o, t.1)

/-- Every tag of a description with its place and its operation, in the order in which
groups are filled. -/
def visits (d : Description) : List (TagPlace × PlacedOperation × Tag) :=
  (PlacedOperation.all d).flatMap visitsOf

theorem map_snd_visits (d : Description) : (visits d).map Prod.snd = places d := by
  rw [visits, places, List.map_flatMap]
  congr 1
  funext o
  rw [visitsOf, List.map_map, ← List.zipIdx_map_fst 0 o.tags, List.map_map]
  simp [Function.comp_def]

theorem mem_visits_iff {place : TagPlace} {o : PlacedOperation} {tag : Tag} :
    (place, o, tag) ∈ visits d ↔ o ∈ PlacedOperation.all d ∧ place.path = o.path ∧
      place.verb = o.verb ∧ o.tags[place.position]? = some tag := by
  simp only [visits, visitsOf, List.mem_flatMap, List.mem_map, Prod.mk.injEq]
  constructor
  · rintro ⟨_, found, ⟨tag', i⟩, inTags, rfl, rfl, rfl⟩
    exact ⟨found, rfl, rfl, List.mem_zipIdx_iff_getElem?.1 inTags⟩
  · rintro ⟨found, path, verb, stands⟩
    refine ⟨o, found, (tag, place.position), List.mem_zipIdx_iff_getElem?.2 stands, ?_, rfl, rfl⟩
    rw [← path, ← verb]

theorem pairwise_visits (d : Description) :
    (visits d).Pairwise fun a b => TagPlace.Before a.1 b.1 := by
  refine List.pairwise_flatMap.2 ⟨fun o _ => ?_, (PlacedOperation.pairwise_all d).imp ?_⟩
  · refine List.pairwise_map.2 ?_
    have increasing : o.tags.zipIdx.Pairwise fun a b => a.2 < b.2 := by
      rw [← List.pairwise_map (f := Prod.snd), List.zipIdx_map_snd]
      exact List.pairwise_lt_range'
    exact increasing.imp fun before => .inr ⟨rfl, .inr ⟨rfl, before⟩⟩
  · intro o p before a fromO b fromP
    obtain ⟨_, -, rfl⟩ := List.mem_map.1 fromO
    obtain ⟨_, -, rfl⟩ := List.mem_map.1 fromP
    exact before.imp id fun ⟨path, verb⟩ => ⟨path, .inl verb⟩

/-- The places of a description are those where an operation names a tag. -/
theorem namesTag_iff {place : TagPlace} {name : String} : d.NamesTag place name ↔
    ∃ o tag, (place, o, tag) ∈ visits d ∧ tag.name = name := by
  constructor
  · rintro ⟨item, operation, declared, stands⟩
    rw [← map_name_resolveTags d, List.getElem?_map] at stands
    obtain ⟨tag, stands, named⟩ := Option.map_eq_some_iff.1 stands
    let o : PlacedOperation := ⟨place.path, place.verb, { operation with
      parameters := some (mergeParameters operation.parameters item.parameters) },
      resolveTags d operation⟩
    have found : o ∈ PlacedOperation.all d :=
      PlacedOperation.mem_all_iff.2 ⟨item, operation, declared, rfl, rfl⟩
    exact ⟨o, tag, mem_visits_iff.2 ⟨found, rfl, rfl, stands⟩, named⟩
  · rintro ⟨o, tag, mem, named⟩
    obtain ⟨found, path, verb, stands⟩ := mem_visits_iff.1 mem
    obtain ⟨item, operation, declared, -, tags⟩ := PlacedOperation.mem_all_iff.1 found
    refine ⟨item, operation, path ▸ verb ▸ declared, ?_⟩
    rw [← map_name_resolveTags d, List.getElem?_map, ← tags, stands, Option.map_some, named]

/-! ## Filling groups -/

/-- Operations are put at the end of the group of their tag. -/
def Appends (backend : Backend) : Prop :=
  ∀ tag o groups, backend.projector.addToGroup tag o groups = OperationGroups.add groups tag o

/-- Does a tag lead to a key? -/
def leadsTo (backend : Backend) (key : String) (placed : PlacedOperation × Tag) : Bool :=
  backend.naming.sanitizeTag placed.2.name = key

theorem addUnder_eq_ok_iff {groups next : OperationGroups} {placed : PlacedOperation × Tag} :
    PlacedOperation.addUnder backend d groups placed = .ok next ↔
      ∃ o, placed.1.project backend d = .ok o ∧
        next = backend.projector.addToGroup (backend.naming.sanitizeTag placed.2.name) o groups := by
  rw [PlacedOperation.addUnder]
  cases placed.1.project backend d with
  | error cause => simp
  | ok o => simp [eq_comm]

theorem get?_add (groups : OperationGroups) (tag key : String) (o : OperationProjection) :
    Dict.get? (groups.add tag o) key =
      if tag = key then some ((Dict.get? groups key).getD [] ++ [o]) else Dict.get? groups key := by
  rw [OperationGroups.add, Dict.get?_insert]
  split
  · rename_i same
    rw [same]
  · rfl

/-- A group with some operations behind those that it has; none make no group. -/
def extended (group : Option (List OperationProjection)) (more : List OperationProjection) :
    Option (List OperationProjection) :=
  if more = [] then group else some (group.getD [] ++ more)

/-- **What filling groups puts behind a group are the projections of the operations whose
tags lead to it, in the order in which they come.** -/
theorem get?_of_foldlM_addUnder (appends : Appends backend)
    {placed : List (PlacedOperation × Tag)} {groups filled : OperationGroups}
    (done : placed.foldlM (PlacedOperation.addUnder backend d) groups = .ok filled)
    (key : String) :
    ∃ more, List.Forall₂ (fun p o => p.1.project backend d = .ok o)
        (placed.filter (leadsTo backend key)) more ∧
      Dict.get? filled key = extended (Dict.get? groups key) more := by
  induction placed generalizing groups with
  | nil =>
      cases done
      exact ⟨[], .nil, rfl⟩
  | cons p rest ih =>
      rw [List.foldlM_cons, bind_eq_ok_iff] at done
      obtain ⟨next, first, later⟩ := done
      obtain ⟨o, projected, rfl⟩ := addUnder_eq_ok_iff.1 first
      obtain ⟨more, projections, stands⟩ := ih later
      rw [appends, get?_add] at stands
      by_cases here : backend.naming.sanitizeTag p.2.name = key
      · refine ⟨o :: more, ?_, ?_⟩
        · rw [List.filter_cons_of_pos (by simpa [leadsTo] using here)]
          exact .cons projected projections
        · rw [stands, if_pos here]
          by_cases none : more = []
          · simp [extended, none]
          · simp [extended, none]
      · refine ⟨more, ?_, ?_⟩
        · rw [List.filter_cons_of_neg (by simpa [leadsTo] using here)]
          exact projections
        · rw [stands, if_neg here]

/-- Groups are filled wherever every operation is projected. -/
theorem foldlM_addUnder_ok (placed : List (PlacedOperation × Tag))
    (total : ∀ p ∈ placed, ∃ o, p.1.project backend d = .ok o) (groups : OperationGroups) :
    ∃ filled, placed.foldlM (PlacedOperation.addUnder backend d) groups = .ok filled := by
  induction placed generalizing groups with
  | nil => exact ⟨groups, rfl⟩
  | cons p rest ih =>
      obtain ⟨o, projected⟩ := total p List.mem_cons_self
      obtain ⟨filled, done⟩ := ih (fun q mem => total q (List.mem_cons_of_mem _ mem))
        (backend.projector.addToGroup (backend.naming.sanitizeTag p.2.name) o groups)
      exact ⟨filled, bind_eq_ok_iff.2 ⟨_, addUnder_eq_ok_iff.2 ⟨o, projected, rfl⟩, done⟩⟩

/-- The visits whose tags lead to a key. -/
def visitsTo (backend : Backend) (d : Description) (key : String) :
    List (TagPlace × PlacedOperation × Tag) :=
  (visits d).filter fun v => leadsTo backend key v.2

theorem mem_map_fst_visitsTo_iff {key : String} {place : TagPlace} :
    place ∈ (visitsTo backend d key).map Prod.fst ↔
      ∃ name, d.NamesTag place name ∧ backend.naming.sanitizeTag name = key := by
  simp only [visitsTo, leadsTo, List.mem_map, List.mem_filter, namesTag_iff, decide_eq_true_eq]
  constructor
  · rintro ⟨⟨_, o, tag⟩, ⟨mem, leads⟩, rfl⟩
    exact ⟨tag.name, ⟨o, tag, mem, rfl⟩, leads⟩
  · rintro ⟨_, ⟨o, tag, mem, rfl⟩, leads⟩
    exact ⟨_, ⟨mem, leads⟩, rfl⟩

/-- **A group holds what becomes of the operations whose tags lead to it, visit by visit;
where no tag leads to a key there is no group.** -/
theorem get?_of_ofDescription (appends : Appends backend) {groups : OperationGroups}
    (done : ofDescription backend d = .ok groups) (key : String) :
    List.Forall₂ (fun v o => d.Projects backend v.1.path v.1.verb o) (visitsTo backend d key)
        ((Dict.get? groups key).getD []) ∧
      (Dict.get? groups key = none ↔ visitsTo backend d key = []) := by
  obtain ⟨more, projections, stands⟩ := get?_of_foldlM_addUnder appends done key
  rw [← map_snd_visits, List.filter_map, List.forall₂_map_left_iff] at projections
  have found : ∀ v ∈ visitsTo backend d key, v.2.1 ∈ PlacedOperation.all d ∧
      v.1.path = v.2.1.path ∧ v.1.verb = v.2.1.verb := fun v mem =>
    have here := mem_visits_iff.1 (List.mem_filter.1 mem).1
    ⟨here.1, here.2.1, here.2.2.1⟩
  have visited : List.Forall₂ (fun v o => d.Projects backend v.1.path v.1.verb o)
      (visitsTo backend d key) more := by
    refine (List.forall₂_and_left _ _ |>.2 ⟨found, projections⟩).imp fun v o both => ?_
    obtain ⟨⟨found, path, verb⟩, ok⟩ := both
    rw [path, verb]
    exact PlacedOperation.projects_of_project found ok
  have length := visited.length_eq
  rw [stands, Dict.get?_empty, extended]
  by_cases none : more = []
  · have empty : visitsTo backend d key = [] := by simpa [none] using length
    simp [none, empty]
  · have visits : visitsTo backend d key ≠ [] := fun empty => by
      rw [empty, List.length_nil, eq_comm, List.length_eq_zero_iff] at length
      exact none length
    simpa [none, visits] using visited

/-- **No operation is lost, invented or misplaced.**  Where operations can be projected,
groups can be made.  The group of a key holds the projections of the operations at the places
whose tags lead to the key, in the order of the places, and there is no other group. -/
theorem ofDescription_groups (appends : Appends backend)
    (total : ∀ path method operation, ∃ projected,
      backend.projector.ofOperation path method operation d = .ok projected) :
    ∃ groups, ofDescription backend d = .ok groups ∧ ∀ key, ∃ places : List TagPlace,
      places.Pairwise TagPlace.Before ∧
      (∀ place, place ∈ places ↔
        ∃ name, d.NamesTag place name ∧ backend.naming.sanitizeTag name = key) ∧
      (Dict.get? groups key = none ↔ places = []) ∧
      List.Forall₂ (fun place o => d.Projects backend place.path place.verb o) places
        ((Dict.get? groups key).getD []) := by
  have projected : ∀ p ∈ places d, ∃ o, p.1.project backend d = .ok o := by
    intro p _
    obtain ⟨raw, ok⟩ := total (backend.naming.escapeQuotationMark p.1.path) p.1.verb.method
      p.1.operation
    exact ⟨_, by rw [PlacedOperation.project_eq, ok]; rfl⟩
  obtain ⟨groups, done⟩ := foldlM_addUnder_ok (places d) projected .empty
  refine ⟨groups, done, fun key => ⟨(visitsTo backend d key).map Prod.fst, ?_, ?_, ?_, ?_⟩⟩
  · exact List.pairwise_map.2 ((pairwise_visits d).filter _)
  · exact fun place => mem_map_fst_visitsTo_iff
  · rw [(get?_of_ofDescription appends done key).2, List.map_eq_nil_iff]
  · rw [List.forall₂_map_left_iff]
    exact (get?_of_ofDescription appends done key).1

/-- Two paths with three operations: one is tagged twice, and one not at all. -/
def petPaths : Description :=
  let tagged (id : String) (tags : Option (List String)) : Operation :=
    { (default : Operation) with operationId := some id, tags := tags }
  { Description.empty with
    paths := some (.ofList [
      ("/pets", { (default : PathItem) with
        get := some (tagged "listPets" (some ["pets"]))
        post := some (tagged "addPet" none) }),
      ("/pets/\x7bid\x7d", { (default : PathItem) with
        delete := some (tagged "removePet" (some ["admin", "Pets"])) })]) }

/-- The backend of a manifest that says nothing. -/
def plainBackend : Backend := ManifestBackend.toBackend ⟨.standard, ⟨""⟩, none⟩

theorem ofDescription_groups_pets : Appends plainBackend ∧
    ∃ groups, ofDescription plainBackend petPaths = .ok groups ∧
      ∃ places : List TagPlace, places.Pairwise TagPlace.Before ∧
        (∀ place, place ∈ places ↔
          ∃ name, petPaths.NamesTag place name ∧ Naming.typeName name = "Pets") ∧
        List.Forall₂ (fun place o => petPaths.Projects plainBackend place.path place.verb o)
          places ((Dict.get? groups "Pets").getD []) := by
  have appends : Appends plainBackend := fun _ _ _ => rfl
  obtain ⟨groups, done, held⟩ := ofDescription_groups (d := petPaths) appends
    fun _ _ _ => ⟨_, rfl⟩
  obtain ⟨places, ordered, named, -, projections⟩ := held "Pets"
  exact ⟨appends, groups, done, places, ordered, named, projections⟩

/-- A description that declares the default tag, with an operation that has no tags. -/
def untaggedPaths : Description :=
  { Description.empty with
    tags := some [⟨"default", some "Everything else", none⟩]
    paths := some (.ofList [("/health", { (default : PathItem) with get := some default })]) }

/-- **An operation without tags carries the bare default tag, also where a tag of that name
is declared.** -/
theorem declared_default_tag_is_not_carried :
    untaggedPaths.Resolves "default" ⟨"default", some "Everything else", none⟩ ∧
      ((ofDescription plainBackend untaggedPaths).toOption.bind fun groups =>
        (Dict.get? groups "Default").map fun group => group.map (·.tags))
          = some [[Tag.named "default"]] :=
  ⟨.declared (List.nil_append _).symm rfl (fun _ mem => nomatch mem), by decide +kernel⟩

/-! ## Operations that are met again -/

/-- The tags of an operation that lead to a key, counted where they stand. -/
theorem countP_visitsOf (backend : Backend) (o : PlacedOperation) (key : String) :
    (visitsOf o).countP (fun v =>
        (v.1.path, v.1.verb) == (o.path, o.verb) && leadsTo backend key v.2) =
      (o.tags.map Tag.name).countP fun name => backend.naming.sanitizeTag name = key := by
  rw [visitsOf, List.countP_map, List.countP_map, ← List.zipIdx_map_fst 0 o.tags,
    List.countP_map, List.zipIdx_map_fst]
  refine List.countP_congr fun t _ => ?_
  simp [leadsTo]

/-- Nothing of an operation stands under another path or another verb. -/
theorem countP_flatMap_visitsOf {ps : List PlacedOperation} {origin : String × Verb}
    (elsewhere : ∀ p ∈ ps, (p.path, p.verb) ≠ origin)
    (keep : TagPlace × PlacedOperation × Tag → Bool) :
    (ps.flatMap visitsOf).countP (fun v => (v.1.path, v.1.verb) == origin && keep v) = 0 := by
  refine List.countP_eq_zero.2 fun v mem => ?_
  obtain ⟨p, inList, inVisits⟩ := List.mem_flatMap.1 mem
  obtain ⟨_, -, rfl⟩ := List.mem_map.1 inVisits
  simp [elsewhere p inList]

/-- An operation is met once for each of its tags that lead to a key. -/
theorem count_visitsTo (backend : Backend) (key : String) {path : String} {verb : Verb}
    {item : PathItem} {operation : Operation} (declared : d.Declares path verb item operation) :
    ((visitsTo backend d key).map fun v => (v.1.path, v.1.verb)).count (path, verb) =
      operation.tagNames.countP fun name => backend.naming.sanitizeTag name = key := by
  let o : PlacedOperation := ⟨path, verb, { operation with
    parameters := some (mergeParameters operation.parameters item.parameters) },
    resolveTags d operation⟩
  have found : o ∈ PlacedOperation.all d :=
    PlacedOperation.mem_all_iff.2 ⟨item, operation, declared, rfl, rfl⟩
  have distinct : (PlacedOperation.all d).Pairwise fun a b =>
      (a.path, a.verb) ≠ (b.path, b.verb) := by
    refine (PlacedOperation.pairwise_all d).imp fun before same => ?_
    obtain ⟨path, verb⟩ := Prod.mk.inj same
    rcases before with lt | ⟨-, lt⟩
    · exact absurd lt (path ▸ String.lt_irrefl _)
    · exact absurd lt (verb ▸ Nat.lt_irrefl _)
  obtain ⟨before, after, split⟩ := List.append_of_mem found
  rw [split, List.pairwise_append, List.pairwise_cons] at distinct
  obtain ⟨-, ⟨later, -⟩, earlier⟩ := distinct
  have front := countP_flatMap_visitsOf (fun p mem => earlier p mem o List.mem_cons_self)
    fun v => leadsTo backend key v.2
  have back := countP_flatMap_visitsOf (fun p mem => (later p mem).symm)
    fun v => leadsTo backend key v.2
  have here := countP_visitsOf backend o key
  rw [map_name_resolveTags] at here
  rw [List.count, List.countP_map, visitsTo, List.countP_filter, visits, split,
    List.flatMap_append, List.flatMap_cons, List.countP_append, List.countP_append]
  simp only [Function.comp_def]
  rw [front, back, here]
  omega

/-- **An operation is in a group as often as it has tags that lead there**: at most once
where no two of its tags are sanitized alike. -/
theorem ofDescription_repeats (appends : Appends backend) {groups : OperationGroups}
    (done : ofDescription backend d = .ok groups) (key : String) :
    ∃ origins : List (String × Verb),
      origins.Pairwise (fun a b => a.1 < b.1 ∨ a.1 = b.1 ∧ a.2.rank ≤ b.2.rank) ∧
      List.Forall₂ (fun origin o => d.Projects backend origin.1 origin.2 o) origins
        ((Dict.get? groups key).getD []) ∧
      ∀ path verb item operation, d.Declares path verb item operation →
        origins.count (path, verb) =
            operation.tagNames.countP (fun name => backend.naming.sanitizeTag name = key) ∧
          ((operation.tagNames.map backend.naming.sanitizeTag).Nodup →
            origins.count (path, verb) ≤ 1) := by
  refine ⟨(visitsTo backend d key).map fun v => (v.1.path, v.1.verb), ?_, ?_, ?_⟩
  · refine List.pairwise_map.2 (((pairwise_visits d).filter _).imp fun before => ?_)
    rcases before with lt | ⟨path, lt | ⟨verb, -⟩⟩
    · exact .inl lt
    · exact .inr ⟨path, Nat.le_of_lt lt⟩
    · exact .inr ⟨path, Nat.le_of_eq (congrArg Verb.rank verb)⟩
  · exact List.forall₂_map_left_iff.2 (get?_of_ofDescription appends done key).1
  · intro path verb item operation declared
    have count := count_visitsTo backend key declared
    refine ⟨count, fun distinct => ?_⟩
    have once := List.nodup_iff_count.1 distinct key
    rw [List.count, List.countP_map] at once
    rw [count]
    refine Nat.le_trans (Nat.le_of_eq (List.countP_congr fun name _ => ?_)) once
    simp

/-- A description of one operation that has two tags of almost the same name. -/
def twiceTaggedPaths : Description :=
  { Description.empty with
    paths := some (.ofList [("/pets", { (default : PathItem) with
      get := some { (default : Operation) with
        operationId := some "listPets", tags := some ["pets", "Pets"] } })]) }

theorem ofDescription_repeats_twice_tagged : Appends plainBackend ∧
    ∃ groups, ofDescription plainBackend twiceTaggedPaths = .ok groups ∧
      ∃ origins : List (String × Verb),
        List.Forall₂
          (fun origin o => twiceTaggedPaths.Projects plainBackend origin.1 origin.2 o) origins
          ((Dict.get? groups "Pets").getD []) ∧
        origins.count ("/pets", .get) = 2 := by
  have appends : Appends plainBackend := fun _ _ _ => rfl
  have made : (ofDescription plainBackend twiceTaggedPaths).toOption.isSome = true := by
    decide +kernel
  obtain ⟨groups, made⟩ := Option.isSome_iff_exists.1 made
  have done := eq_ok_of_toOption made
  obtain ⟨origins, -, projections, counts⟩ := ofDescription_repeats appends done "Pets"
  refine ⟨appends, groups, done, origins, projections, ?_⟩
  rw [(counts "/pets" .get _ _ ⟨rfl, rfl⟩).1]
  decide +kernel

/-- **An operation with two tags that are sanitized alike is in their group twice.** -/
theorem repeated_tag_repeats_operation :
    (PlacedOperation.all twiceTaggedPaths).map (fun o => (o.path, o.verb)) = [("/pets", .get)] ∧
      ((ofDescription plainBackend twiceTaggedPaths).toOption.bind fun groups =>
        (Dict.get? groups "Pets").map fun group => group.map (·.nickname))
        = some ["listPets", "listPets"] := by
  decide +kernel

end OperationGroups

end ApiForge
