import ApiForge.Proofs.Models.Admission
import ApiForge.Proofs.Run.Obliging
import ApiForge.Proofs.Run.Stages
import ApiForge.Readers.Standard
/-
# ApiForge.Proofs.Run.Failures -- which failure a run stops at

Schemas are projected by name, and operations by path, verb and tag.  Where the backend refuses
some of them, what is reported is the first one of that order (`ModelTable.build_refused`,
`OperationGroups.ofDescription_refused`).  Stages come one after the other, so a run that the
hooks of the start or a schema stop has not touched the disk, and one that an operation stops
has gone through the files of models and through nothing else (`Job.ends_at_first_refusal`).
-/

namespace ApiForge

set_option autoImplicit false

/-! ## The first of a list -/

/-- Where something holds of a member of a list, there is a first member of which it does; in
an ordered list it does not hold of what comes before that one. -/
theorem exists_first {α : Type} {P : α → Prop} {before : α → α → Prop} {l : List α}
    (ordered : l.Pairwise before) (asymm : ∀ a b, before a b → ¬ before b a)
    (some : ∃ a ∈ l, P a) :
    ∃ front a back, l = front ++ a :: back ∧ P a ∧ (∀ b ∈ front, ¬ P b) ∧
      ∀ b ∈ l, before b a → ¬ P b := by
  classical
  obtain ⟨a, found⟩ := Option.isSome_iff_exists.1
    (List.find?_isSome.2 (show ∃ a ∈ l, decide (P a) = true by simpa using some))
  obtain ⟨holds, front, back, rfl, none⟩ := List.find?_eq_some_iff_append.1 found
  have earlier : ∀ b ∈ front, ¬ P b := fun b mem => by simpa using none b mem
  refine ⟨front, a, back, rfl, by simpa using holds, earlier, fun b mem precedes => ?_⟩
  obtain ⟨-, rest, -⟩ := List.pairwise_append.1 ordered
  rcases List.mem_append.1 mem with inFront | inRest
  · exact earlier b inFront
  · rcases List.mem_cons.1 inRest with rfl | inBack
    · exact absurd precedes (asymm b b precedes)
    · exact absurd precedes (asymm a b ((List.pairwise_cons.1 rest).1 b inBack))

theorem succeeds_of_ne_error {ε α : Type} {x : Except ε α} (none : ∀ e, x ≠ .error e) :
    Succeeds x := by
  cases x with
  | error e => exact absurd rfl (none e)
  | ok a => exact ⟨a, rfl⟩

/-! ## Schemas -/

/-- The backend refuses a wanted schema, and none that comes before it by name. -/
structure FirstRefusedSchema (backend : Backend) (schemas : Dict Json)
    (allowed : Option NameSet) (name : String) (cause : Cause) : Prop where
  refused : ∃ schema, (name, schema) ∈ candidateSchemas backend schemas allowed ∧
    backend.projector.ofSchema name schema schemas = .error cause
  first : ∀ s ∈ candidateSchemas backend schemas allowed, s.1 < name →
    Succeeds (backend.projector.ofSchema s.1 s.2 schemas)

namespace ModelTable

variable {backend : Backend} {schemas properties : Dict Json} {allowed : Option NameSet}
  {name : String} {schema : Json} {cause : Cause}

theorem ofSchema_error (refused : backend.projector.ofSchema name schema schemas = .error cause) :
    TableModel.ofSchema backend schemas properties name schema = .error cause := by
  rw [TableModel.ofSchema, refused]
  rfl

/-- With a hook that refuses nothing, a schema fails only where it is refused. -/
theorem succeeds_ofSchema (quiet : ∀ context, Succeeds (backend.hooks.postProcessModel context))
    (projected : Succeeds (backend.projector.ofSchema name schema schemas)) :
    Succeeds (TableModel.ofSchema backend schemas properties name schema) := by
  refine projected.bind fun model => ?_
  cases model with
  | none => exact ⟨none, rfl⟩
  | some model => exact Succeeds.bind (((quiet _).map _).map _) fun made => ⟨some made, rfl⟩

/-- Schemas are projected up to the first that fails. -/
theorem addSchemas_append_error {front back : List (String × Json)}
    (fine : ∀ s ∈ front, Succeeds (TableModel.ofSchema backend schemas properties s.1 s.2))
    (failed : TableModel.ofSchema backend schemas properties name schema = .error cause)
    (table : ModelTable) :
    addSchemas backend schemas properties table (front ++ (name, schema) :: back)
      = .error (.model name cause) := by
  induction front generalizing table with
  | nil => simp only [List.nil_append, addSchemas, failed]
  | cons s rest ih =>
      obtain ⟨found, done⟩ := fine s List.mem_cons_self
      have later := ih fun u mem => fine u (List.mem_cons_of_mem _ mem)
      cases found <;> simp only [List.cons_append, addSchemas, done] <;> exact later _

/-- **A table that cannot be made for a refused schema names the first one.** -/
theorem build_refused (quiet : ∀ context, Succeeds (backend.hooks.postProcessModel context))
    (some : ∃ s ∈ candidateSchemas backend schemas allowed, ∃ cause,
      backend.projector.ofSchema s.1 s.2 schemas = .error cause) (properties : Dict Json) :
    ∃ name cause, FirstRefusedSchema backend schemas allowed name cause ∧
      build backend schemas allowed properties = .error (.model name cause) := by
  obtain ⟨front, ⟨name, schema⟩, back, split, ⟨cause, refused⟩, fine, first⟩ :=
    exists_first (pairwise_candidateSchemas backend schemas allowed)
      (fun _ _ => String.lt_asymm) some
  refine ⟨name, cause, ⟨⟨schema, ?_, refused⟩, fun s mem less => ?_⟩, ?_⟩
  · rw [split]
    exact List.mem_append_right _ List.mem_cons_self
  · exact succeeds_of_ne_error fun cause other => first s mem less ⟨cause, other⟩
  · have made : ∀ s ∈ front,
        Succeeds (TableModel.ofSchema backend schemas properties s.1 s.2) := fun s mem =>
      succeeds_ofSchema quiet (succeeds_of_ne_error fun cause other => fine s mem ⟨cause, other⟩)
    have stops : addSchemas backend schemas properties .empty (front ++ (name, schema) :: back)
        = .error (.model name cause) :=
      addSchemas_append_error made (ofSchema_error refused) .empty
    rw [build, split, stops]
    rfl

end ModelTable

/-! ## Operations -/

theorem TagPlace.Before.asymm {a b : TagPlace} (first : a.Before b) : ¬ b.Before a := by
  intro second
  rcases first with path | ⟨path, rest⟩ <;> rcases second with path' | ⟨path', rest'⟩
  · exact String.lt_asymm path path'
  · exact String.lt_irrefl _ (path' ▸ path)
  · exact String.lt_irrefl _ (path ▸ path')
  · rcases rest with verb | ⟨verb, position⟩ <;> rcases rest' with verb' | ⟨verb', position'⟩
    · omega
    · rw [verb'] at verb
      omega
    · rw [verb] at verb'
      omega
    · omega

/-- The backend refuses the operation that has a tag at a place. -/
def Description.RefusedAt (d : Description) (backend : Backend) (place : TagPlace)
    (tag : String) (operationId : Option String) (cause : Cause) : Prop :=
  ∃ item operation, d.Declares place.path place.verb item operation ∧
    operation.tagNames[place.position]? = some tag ∧ operation.operationId = operationId ∧
    backend.projector.ofOperation (backend.naming.escapeQuotationMark place.path)
      place.verb.method
      { operation with
        parameters := some (mergeParameters operation.parameters item.parameters) } d
      = .error cause

/-- The backend refuses the operation that has a tag at a place, and none that has a tag
before it. -/
structure FirstRefusedTag (backend : Backend) (d : Description) (place : TagPlace)
    (tag : String) (operationId : Option String) (cause : Cause) : Prop where
  refused : d.RefusedAt backend place tag operationId cause
  first : ∀ other, other.Before place → ∀ tag operationId cause,
    ¬ d.RefusedAt backend other tag operationId cause

namespace OperationGroups

variable {backend : Backend} {d : Description} {cause : Cause}

theorem addUnder_error {p : PlacedOperation × Tag} (failed : p.1.project backend d = .error cause)
    (groups : OperationGroups) :
    PlacedOperation.addUnder backend d groups p = .error (p.1.failure p.2 cause) := by
  simp only [PlacedOperation.addUnder, failed]

/-- Groups are filled up to the first operation that cannot be projected. -/
theorem foldlM_addUnder_append_error {front back : List (PlacedOperation × Tag)}
    {p : PlacedOperation × Tag} (fine : ∀ q ∈ front, Succeeds (q.1.project backend d))
    (failed : p.1.project backend d = .error cause) (groups : OperationGroups) :
    (front ++ p :: back).foldlM (PlacedOperation.addUnder backend d) groups
      = .error (p.1.failure p.2 cause) := by
  induction front generalizing groups with
  | nil =>
      rw [List.nil_append, List.foldlM_cons, addUnder_error failed]
      rfl
  | cons q rest ih =>
      obtain ⟨o, done⟩ := fine q List.mem_cons_self
      rw [List.cons_append, List.foldlM_cons, show PlacedOperation.addUnder backend d groups q
        = .ok _ from addUnder_eq_ok_iff.2 ⟨o, done, rfl⟩]
      exact ih (fun r mem => fine r (List.mem_cons_of_mem _ mem)) _

theorem project_error_iff {o : PlacedOperation} :
    o.project backend d = .error cause ↔
      backend.projector.ofOperation (backend.naming.escapeQuotationMark o.path) o.verb.method
        o.operation d = .error cause := by
  rw [PlacedOperation.project_eq]
  cases backend.projector.ofOperation (backend.naming.escapeQuotationMark o.path) o.verb.method
    o.operation d <;> simp [Except.map]

/-- What is refused at a place is the operation that is found there under the tag. -/
theorem refusedAt_iff {place : TagPlace} {tag : String} {operationId : Option String} :
    d.RefusedAt backend place tag operationId cause ↔
      ∃ o t, (place, o, t) ∈ visits d ∧ t.name = tag ∧
        o.operation.operationId = operationId ∧ o.project backend d = .error cause := by
  constructor
  · rintro ⟨item, operation, declared, named, identified, refused⟩
    rw [← map_name_resolveTags d, List.getElem?_map] at named
    obtain ⟨t, stands, named⟩ := Option.map_eq_some_iff.1 named
    let o : PlacedOperation := ⟨place.path, place.verb, { operation with
      parameters := some (mergeParameters operation.parameters item.parameters) },
      resolveTags d operation⟩
    have found : o ∈ PlacedOperation.all d :=
      PlacedOperation.mem_all_iff.2 ⟨item, operation, declared, rfl, rfl⟩
    exact ⟨o, t, mem_visits_iff.2 ⟨found, rfl, rfl, stands⟩, named, identified,
      project_error_iff.2 refused⟩
  · rintro ⟨o, t, mem, named, identified, failed⟩
    obtain ⟨found, path, verb, stands⟩ := mem_visits_iff.1 mem
    obtain ⟨item, operation, declared, merged, tags⟩ := PlacedOperation.mem_all_iff.1 found
    rw [project_error_iff, merged] at failed
    rw [merged] at identified
    refine ⟨item, operation, path ▸ verb ▸ declared, ?_, identified, path ▸ verb ▸ failed⟩
    rw [← map_name_resolveTags d, List.getElem?_map, ← tags, stands, Option.map_some, named]

/-- **Groups that cannot be made for a refused operation name the first one, under its first
tag.** -/
theorem ofDescription_refused (some : ∃ place tag operationId cause,
      d.RefusedAt backend place tag operationId cause) :
    ∃ place tag operationId cause, FirstRefusedTag backend d place tag operationId cause ∧
      ofDescription backend d
        = .error (.operation tag operationId place.verb.name place.path cause) := by
  have visited : ∃ v ∈ visits d, ∃ cause, v.2.1.project backend d = .error cause := by
    obtain ⟨place, tag, operationId, cause, refused⟩ := some
    obtain ⟨o, t, mem, -, -, failed⟩ := refusedAt_iff.1 refused
    exact ⟨_, mem, cause, failed⟩
  obtain ⟨front, ⟨place, o, t⟩, back, split, ⟨cause, failed⟩, fine, first⟩ :=
    exists_first (pairwise_visits d) (fun _ _ => TagPlace.Before.asymm) visited
  have mem : (place, o, t) ∈ visits d := by
    rw [split]
    exact List.mem_append_right _ List.mem_cons_self
  obtain ⟨-, path, verb, -⟩ := mem_visits_iff.1 mem
  refine ⟨place, t.name, o.operation.operationId, cause,
    ⟨refusedAt_iff.2 ⟨o, t, mem, rfl, rfl, failed⟩, ?_⟩, ?_⟩
  · intro other before tag operationId cause refused
    obtain ⟨p, u, inVisits, -, -, refused⟩ := refusedAt_iff.1 refused
    exact first _ inVisits before ⟨cause, refused⟩
  · rw [ofDescription, ← map_snd_visits, split, List.map_append, List.map_cons,
      foldlM_addUnder_append_error _ failed, PlacedOperation.failure, path, verb]
    intro q mapped
    obtain ⟨v, inFront, rfl⟩ := List.mem_map.1 mapped
    exact succeeds_of_ne_error fun cause refused => fine v inFront ⟨cause, refused⟩

end OperationGroups

/-! ## Plans that fail -/

theorem Planned.perform_eq_ok_iff [Readers] {α : Type} {p : Planned α} {e : Emitter} {a : α}
    {output later : Output} : (p.perform e).run output = (.ok a, later) ↔
      (Task.performAll e p.tasks).run output = (.ok (), later) ∧ p.outcome = .ok a := by
  rw [Planned.perform_run]
  rcases (Task.performAll e p.tasks).run output with ⟨result, reached⟩
  cases result with
  | error failure => exact ⟨fun done => (nomatch done), fun both => nomatch both.1⟩
  | ok done =>
      constructor
      · intro same
        obtain ⟨outcome, rfl⟩ := Prod.mk.inj same
        exact ⟨rfl, outcome⟩
      · rintro ⟨same, outcome⟩
        cases same
        rw [outcome]

namespace Job

variable {now : Moment} {config : Config} {backend : Backend} {description : Description}
  {sink : Sink} {run : RunInfo}

/-- The properties of a run as the backend is first shown them. -/
def shownProperties (now : Moment) (config : Config) (backend : Backend) : Properties :=
  let start := Properties.forRun now backend.settings.name config.inputSpec
  { start with
    extra := (start.extra.extend backend.settings.properties).extend config.properties }.stamp
      (toggleSources config backend) (switches config backend)

theorem properties_eq : properties now config backend description =
    ((backend.hooks.processOptions (shownProperties now config backend)).mapError
      (.hook "process_opts")).map fun p =>
        { p with app := description.info.map (AppInfo.ofInfo backend.naming.escapeText) } := rfl

theorem info_of_processOptions_error [Readers] {cause : Cause}
    (refused : backend.hooks.processOptions (shownProperties now config backend) = .error cause) :
    info now config backend description = .error (.hook "process_opts" cause) := by
  rw [info, properties_eq, refused]
  rfl

theorem info_of_preprocessDescription_error [Readers] {p : Properties} {cause : Cause}
    (accepted : backend.hooks.processOptions (shownProperties now config backend) = .ok p)
    (refused : backend.hooks.preprocessDescription description = .error cause) :
    info now config backend description = .error (.hook "preprocess_description" cause) := by
  rw [info, properties_eq, accepted, refused]
  rfl

section Planning

variable [Readers] {failure : Failure} {ts : List Task} {models : List Json}

theorem planBundle_of_info_error
    (failed : info now config backend description = .error failure) :
    planBundle now config backend description = ⟨[], .error failure⟩ := by
  rw [planBundle, failed]
  rfl

variable (informed : info now config backend description = .ok run)
include informed

theorem planBundle_of_planModels_error
    (failed : planModels config (switches config backend) backend description run
      = ⟨ts, .error failure⟩) :
    planBundle now config backend description = ⟨ts, .error failure⟩ := by
  rw [planBundle, informed]
  show planModels config (switches config backend) backend description run >>= _ = _
  rw [failed]
  rfl

theorem planBundle_of_planGroups_error
    (planned : planModels config (switches config backend) backend description run
      = ⟨ts, .ok models⟩)
    (failed : planGroups config (switches config backend) backend description models run
      = ⟨[], .error failure⟩) :
    planBundle now config backend description = ⟨ts, .error failure⟩ := by
  rw [planBundle, informed]
  show planModels config (switches config backend) backend description run >>= (fun models =>
    planGroups config (switches config backend) backend description models run >>= _) = _
  rw [Planned.bind_of_ok (congrArg Planned.outcome planned), planned, failed]
  exact congrArg (Planned.mk · _) (List.append_nil ts)

end Planning

/-- A run whose plan ends in a failure ends in it, if its files can be made. -/
theorem generate_of_planned_error [Readers] {ts : List Task} {failure : Failure} {output : Output}
    (planned : planBundle now config backend description = ⟨ts, .error failure⟩)
    (performed : (Task.performAll (emitter sink.disk config backend) ts).run (Output.start sink)
      = (.ok (), output)) :
    generate ⟨some description, some backend, config, now⟩ sink
      = (.error failure, output.sink) := by
  rw [generate_eq, planned, performed]
  rfl

/-- A run whose plan fails without any files leaves the sink as it is. -/
theorem generate_of_no_tasks [Readers] {failure : Failure}
    (planned : planBundle now config backend description = ⟨[], .error failure⟩) :
    generate ⟨some description, some backend, config, now⟩ sink = (.error failure, sink) :=
  generate_of_planned_error planned (Emission.pure_run _ _)

/-! ## What a run ends in -/

theorem subject_of_mem_planModels {options : Options} :
    ∀ t ∈ (planModels config options backend description run).tasks,
      ∃ name, t.subject = .model name := by
  rw [planModels]
  split
  · refine Planned.forall_tasks_bind (fun _ mem => absurd mem List.not_mem_nil)
      fun table t mem => ?_
    obtain ⟨m, -, inModel⟩ := List.mem_flatMap.1 mem
    exact ⟨m.name, (m.renders_of_mem_tasks inModel).subject⟩
  · exact fun _ mem => absurd mem List.not_mem_nil

/-- A disk is as it was, but for folders and for files of models that a plan makes. -/
def ChangedByModels [Readers] (e : Emitter) (ts : List Task) (disk final : Disk) : Prop :=
  ∀ name, final.nodes.get? name = disk.nodes.get? name ∨
    (disk.nodes.get? name = none ∧ final.nodes.get? name = some .folder) ∨
    ∃ t ∈ ts, (∃ model, t.subject = .model model) ∧ Nonempty (Task.Wrote e disk final t name)

theorem changedByModels_of_performAll [Readers] {e : Emitter} {options : Options} {disk : Disk}
    {output : Output}
    (performed : (Task.performAll e (planModels config options backend description run).tasks).run
      (Output.start (.writing disk)) = (.ok (), output)) :
    ∃ final, output.sink = .writing final ∧
      ChangedByModels e (planModels config options backend description run).tasks disk final := by
  obtain ⟨files, final, rfl, trace⟩ := Task.performAll_writing_ok performed
  refine ⟨final, rfl, fun name => (trace.changed name).imp id (Or.imp id ?_)⟩
  rintro ⟨t, mem, -, wrote⟩
  exact ⟨t, mem, subject_of_mem_planModels t mem, wrote⟩

/-- What a run ends in where something is missing or refused, and what it leaves: one clause
for each stage, in their order. -/
structure EndsAtFirstRefusal [Readers] (now : Moment) (config : Config) (backend : Backend)
    (description : Description) (sink : Sink) : Prop where
  noDescription : ∀ found,
    generate ⟨none, found, config, now⟩ sink = (.error .missingDescription, sink)
  noConfiguration : generate ⟨some description, none, config, now⟩ sink
    = (.error .missingConfiguration, sink)
  options : ∀ cause,
    backend.hooks.processOptions (shownProperties now config backend) = .error cause →
    generate ⟨some description, some backend, config, now⟩ sink
      = (.error (.hook "process_opts" cause), sink)
  preprocessing : ∀ properties cause,
    backend.hooks.processOptions (shownProperties now config backend) = .ok properties →
    backend.hooks.preprocessDescription description = .error cause →
    generate ⟨some description, some backend, config, now⟩ sink
      = (.error (.hook "preprocess_description" cause), sink)
  /-- The refused schema that comes first by name is reported, and nothing is touched. -/
  schemas : ∀ run, info now config backend description = .ok run →
    (switches config backend).models = true →
    (∃ s ∈ candidateSchemas backend description.schemas config.modelFilter, ∃ cause,
      backend.projector.ofSchema s.1 s.2 description.schemas = .error cause) →
    ∃ name cause,
      FirstRefusedSchema backend description.schemas config.modelFilter name cause ∧
      generate ⟨some description, some backend, config, now⟩ sink
        = (.error (.model name cause), sink)
  /-- The refused operation that is met first is reported, and what is left is what the files
  of models have made of the sink. -/
  operations : ∀ run models output, info now config backend description = .ok run →
    ((planModels config (switches config backend) backend description run).perform
      (emitter sink.disk config backend)).run (Output.start sink) = (.ok models, output) →
    (switches config backend).apis = true →
    (∃ place tag operationId cause,
      description.RefusedAt backend place tag operationId cause) →
    ∃ place tag operationId cause,
      FirstRefusedTag backend description place tag operationId cause ∧
      generate ⟨some description, some backend, config, now⟩ sink
        = (.error (.operation tag operationId place.verb.name place.path cause), output.sink) ∧
      ∀ disk, sink = .writing disk → ∃ final, output.sink = .writing final ∧
        ChangedByModels (emitter disk config backend)
          (planModels config (switches config backend) backend description run).tasks disk final

/-- **A run ends in the first failure of the first stage that has one.**  Until operations are
projected it leaves everything as it was, and then it has gone through the files of models
alone. -/
theorem ends_at_first_refusal [Readers]
    (quiet : ∀ context, Succeeds (backend.hooks.postProcessModel context)) :
    EndsAtFirstRefusal now config backend description sink where
  noDescription := fun _ => rfl
  noConfiguration := rfl
  options := fun _ refused =>
    generate_of_no_tasks (planBundle_of_info_error (info_of_processOptions_error refused))
  preprocessing := fun _ _ accepted refused => generate_of_no_tasks
    (planBundle_of_info_error (info_of_preprocessDescription_error accepted refused))
  schemas := by
    intro run informed on some
    obtain ⟨name, cause, first, built⟩ := ModelTable.build_refused quiet some run.properties
    refine ⟨name, cause, first, generate_of_no_tasks
      (planBundle_of_planModels_error informed ?_)⟩
    rw [planModels, if_pos on, built]
    rfl
  operations := by
    intro run models output informed modelled on some
    obtain ⟨place, tag, operationId, cause, first, stops⟩ :=
      OperationGroups.ofDescription_refused some
    obtain ⟨performed, planned⟩ := Planned.perform_eq_ok_iff.1 modelled
    have split : planModels config (switches config backend) backend description run
        = ⟨_, .ok models⟩ := congrArg (Planned.mk _) planned
    refine ⟨place, tag, operationId, cause, first, generate_of_planned_error
      (planBundle_of_planGroups_error informed split ?_) performed, ?_⟩
    · rw [planGroups, if_pos on, stops]
      rfl
    · rintro disk rfl
      exact changedByModels_of_performAll performed

/-- A description of one model and of the operations of `petPaths`. -/
def petModelPaths : Description :=
  { OperationGroups.petPaths with
    components := some ⟨.ofList [("Pet", .object [("type", .str "object")])], .empty, .empty⟩ }

/-- A backend with a template for models, which refuses every operation but one. -/
def listingBackend : Backend :=
  let base := backendOf { Manifest.standard with
    outputDir := ⟨"out"⟩
    templates := { TemplateSets.empty with model := .ofList [("m.txt", ".rs")] } }
  { base with projector := { base.projector with
      ofOperation := fun path method operation description =>
        if operation.operationId = some "listPets" then
          base.projector.ofOperation path method operation description
        else .error (.refused "not listed") } }

/-- A disk with that template. -/
def modelDisk : Disk := (Disk.emptyAt []).put ⟨"templates/m.txt"⟩ (.text "model")

/-- The files of models, made on that disk. -/
def performModels (run : RunInfo) : Except Failure (List Json) × Output :=
  ((planModels .standard (switches .standard listingBackend) listingBackend petModelPaths
    run).perform (emitter modelDisk .standard listingBackend)).run
      (Output.start (.writing modelDisk))

theorem ends_at_first_refusal_pets :
    (∀ context, Succeeds (listingBackend.hooks.postProcessModel context)) ∧
      ∃ place tag operationId cause final,
        FirstRefusedTag listingBackend petModelPaths place tag operationId cause ∧
        generate ⟨some petModelPaths, some listingBackend, .standard, ⟨"", ""⟩⟩
            (.writing modelDisk)
          = (.error (.operation tag operationId place.verb.name place.path cause),
              .writing final) := by
  have quiet : ∀ context, Succeeds (listingBackend.hooks.postProcessModel context) :=
    fun context => ⟨context, rfl⟩
  have made : ((info ⟨"", ""⟩ .standard listingBackend petModelPaths).toOption.bind fun run =>
      (performModels run).1.toOption).isSome = true := by decide +kernel
  obtain ⟨models, made⟩ := Option.isSome_iff_exists.1 made
  obtain ⟨run, informed, made⟩ := Option.bind_eq_some_iff.1 made
  rcases modelled : performModels run with ⟨result, output⟩
  rw [modelled] at made
  have succeeded : result = .ok models := eq_ok_of_toOption made
  rw [succeeded] at modelled
  have refused : petModelPaths.RefusedAt listingBackend ⟨"/pets", .post, 0⟩ "default"
      (some "addPet") (.refused "not listed") := ⟨_, _, ⟨rfl, rfl⟩, rfl, rfl, by rfl⟩
  have clauses : EndsAtFirstRefusal ⟨"", ""⟩ .standard listingBackend petModelPaths
      (.writing modelDisk) := ends_at_first_refusal quiet
  obtain ⟨place, tag, operationId, cause, first, ends, leaves⟩ :=
    clauses.operations run models output (eq_ok_of_toOption informed) modelled
      (by decide) ⟨_, _, _, _, refused⟩
  obtain ⟨final, left, -⟩ := leaves modelDisk rfl
  rw [left] at ends
  exact ⟨quiet, place, tag, operationId, cause, final, first, ends⟩

example : (generate ⟨some petModelPaths, some listingBackend, .standard, ⟨"", ""⟩⟩
    (.writing modelDisk)).1
      = .error (.operation "default" (some "addPet") "post" "/pets" (.refused "not listed")) := by
  decide +kernel

end Job

end ApiForge
