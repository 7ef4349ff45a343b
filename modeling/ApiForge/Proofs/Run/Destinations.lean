import ApiForge.Proofs.FileNames
import ApiForge.Proofs.Models.Kept
import ApiForge.Proofs.Operations.Groups
import ApiForge.Proofs.Run.Account
import ApiForge.Proofs.Run.Again
/-
# ApiForge.Proofs.Run.Destinations -- which files of a manifest go to one path

A run makes its files part by part: for a model or a group, in a form, with a suffix.  Two
parts go to one path where their folders are the same, their suffixes are equal and the forms
of their names meet.  Gone through for models and groups, that leaves five ways
(`ManifestBackend.Clash`), and they are all the ways in which the plan of a run has a path
twice (`ManifestBackend.pairwise_parts`).  The run itself reports a path twice only where the
later file is no test and the manifest lets files be replaced
(`ManifestBackend.generate_clashes`); a model that is called like the API of a group is
replaced that way (`ManifestBackend.api_replaces_model`).
-/

namespace ApiForge

set_option autoImplicit false

open ApiForge.Text

/-! ## Parts of a run -/

/-- What files are made for. -/
inductive Entity where
  | model (m : TableModel)
  | group (key : String)

namespace Entity

/-- The name of the type that stands for a model or for a group. -/
def typeName : Entity → String
  | .model m => Naming.typeName m.name
  | .group key => Naming.apiTypeName key

/-- The key of a group is a type name. -/
def Keyed : Entity → Prop
  | .model _ => True
  | .group key => IsTypeName key

/-- The order in which a run goes through models and groups: models come first, and both are
in the order of their names. -/
def Before : Entity → Entity → Prop
  | .model m, .model n => Naming.typeName m.name < Naming.typeName n.name
  | .model _, .group _ => True
  | .group _, .model _ => False
  | .group k, .group l => k < l

theorem isTypeName_typeName {x : Entity} (keyed : x.Keyed) : IsTypeName x.typeName := by
  cases x with
  | model m => exact Naming.isTypeName_typeName m.name
  | group key => exact Naming.isTypeName_apiTypeName keyed

end Entity

/-- A file that a run makes: for what, in which form, with which suffix. -/
structure Part where
  entity : Entity
  form : Form
  suffix : String

/-- The order in which a run makes its files. -/
def Part.Before (p q : Part) : Prop :=
  p.entity.Before q.entity ∨ p.entity = q.entity ∧
    (p.form.Before q.form ∨ p.form = q.form ∧ p.suffix ≠ q.suffix)

namespace ManifestBackend

variable (b : ManifestBackend)

/-- Where files of a kind go. -/
def folder : Entity → Form → Path
  | .model _, .source => b.layout.modelFolder
  | .model _, .test => b.layout.modelTestFolder
  | .model _, .documentation => b.layout.modelDocFolder
  | .group _, .source => b.layout.apiFolder
  | .group _, .test => b.layout.apiTestFolder
  | .group _, .documentation => b.layout.apiDocFolder

/-- The templates that files of a kind are made from. -/
def templates : Entity → Form → TemplateSet
  | .model _, .source => b.layout.modelTemplates
  | .model _, .test => b.layout.modelTestTemplates
  | .model _, .documentation => b.layout.modelDocTemplates
  | .group _, .source => b.layout.apiTemplates
  | .group _, .test => b.layout.apiTestTemplates
  | .group _, .documentation => b.layout.apiDocTemplates

/-- The file of a part, as it is reported. -/
def file (p : Part) : ProducedFile :=
  ⟨(b.folder p.entity p.form).join (p.form.stem p.entity.typeName ++ p.suffix),
    p.form.category⟩

/-- The forms that are made for a model or a group. -/
def forms (options : Options) : Entity → List Form
  | .model m =>
    (if m.isSuppressed b.toBackend then [] else [.source])
      ++ (if options.modelTests then [.test] else [])
      ++ (if options.modelDocs then [.documentation] else [])
  | .group _ =>
    [.source] ++ (if options.apiTests then [.test] else [])
      ++ (if options.apiDocs then [.documentation] else [])

/-- The parts of a model or of a group. -/
def partsOf (options : Options) (x : Entity) : List Part :=
  (b.forms options x).flatMap fun form =>
    (Dict.entries (b.templates x form)).map fun t => ⟨x, form, t.2⟩

/-- The options of a run. -/
def options (config : Config) : Options := Options.resolve (Job.toggleSources config b.toBackend)

/-- The models and groups that a run makes files for. -/
def entities (config : Config) (table : ModelTable) (groups : OperationGroups) : List Entity :=
  (if (b.options config).models then (table.generated b.toBackend).map .model else [])
    ++ (if (b.options config).apis then
      (groups.selected config.apiFilter).map fun g => .group g.1 else [])

/-- The parts of a run, in the order in which they are made. -/
def parts (config : Config) (table : ModelTable) (groups : OperationGroups) : List Part :=
  (b.entities config table groups).flatMap (b.partsOf (b.options config))

/-- The stamps of a run, as they are reported. -/
def stamps (config : Config) : List ProducedFile :=
  if config.generateMetadata then
    [⟨Product.ignoreFilePath b.layout.outputFolder, .metadata⟩,
      ⟨Product.versionFilePath b.layout.outputFolder, .metadata⟩]
  else []

/-- Two parts have the same folder, the same suffix and names that meet. -/
def Coincide (p q : Part) : Prop :=
  (b.folder p.entity p.form).same (b.folder q.entity q.form) = true ∧
    p.form.Meets p.entity.typeName q.entity.typeName q.form ∧ p.suffix = q.suffix

/-- Two parts of a run that go to one path, the earlier one first. -/
inductive Clash : Part → Part → Prop where
  /-- A model is called like another one with `Test` behind: its source goes where the test
  of the other is. -/
  | calledLikeTest {m n : TableModel} {suffix : String} : Naming.typeName m.name ≠ "" →
      Naming.typeName n.name = Naming.typeName m.name ++ "Test" →
      Clash ⟨.model m, .test, suffix⟩ ⟨.model n, .source, suffix⟩
  /-- A model without capitals in its type name has sources and documentation in one
  folder. -/
  | withoutCapitals {m : TableModel} {suffix : String} :
      (∀ c ∈ (Naming.typeName m.name).toList, isUpper c = false) →
      b.layout.modelFolder.same b.layout.modelDocFolder = true →
      Clash ⟨.model m, .source, suffix⟩ ⟨.model m, .documentation, suffix⟩
  /-- The group without a name is called like the group `Default`. -/
  | calledDefault {form : Form} {suffix : String} :
      Clash ⟨.group "", form, suffix⟩ ⟨.group "Default", form, suffix⟩
  /-- A model is called like the API of a group and goes to its folder. -/
  | calledLikeApi {m : TableModel} {key : String} {form : Form} {suffix : String} :
      Naming.typeName m.name = Naming.apiTypeName key →
      (b.folder (.model m) form).same (b.folder (.group key) form) = true →
      Clash ⟨.model m, form, suffix⟩ ⟨.group key, form, suffix⟩
  /-- A model is called like the API of a group with `Test` behind and goes to its folder. -/
  | calledLikeApiTest {m : TableModel} {key suffix : String} :
      Naming.typeName m.name = Naming.apiTypeName key ++ "Test" →
      b.layout.modelFolder.same b.layout.apiTestFolder = true →
      Clash ⟨.model m, .source, suffix⟩ ⟨.group key, .test, suffix⟩

variable {b}

/-! ## Paths of parts -/

/-- When two parts go to one path. -/
theorem same_file_iff {p q : Part} (keyed : p.entity.Keyed) (keyed' : q.entity.Keyed)
    (extension : isExtension p.suffix = true) (extension' : isExtension q.suffix = true) :
    (b.file p).path.same (b.file q).path = true ↔ b.Coincide p q := by
  have name := Entity.isTypeName_typeName keyed
  have name' := Entity.isTypeName_typeName keyed'
  have plain := Form.isIdentifierChar_of_mem_stem name p.form
  have plain' := Form.isIdentifierChar_of_mem_stem name' q.form
  rw [file, file, Path.same_join_iff (isLeaf_append_extension plain extension)
    (isLeaf_append_extension plain' extension'),
    append_extension_eq_iff plain extension plain' extension', Form.stem_eq_iff name name',
    Coincide]

/-- The type name of a group ends in `Api`. -/
theorem typeName_group {key : String} (keyed : (Entity.group key).Keyed) :
    (Entity.group key).typeName = Naming.apiStem key ++ "Api" :=
  Naming.apiTypeName_eq keyed

theorem group_has_capital {key : String} (keyed : (Entity.group key).Keyed) :
    ¬ ∀ c ∈ (Entity.group key).typeName.toList, isUpper c = false := by
  intro small
  rw [typeName_group keyed] at small
  have capital := small 'A' (by rw [String.toList_append]; exact List.mem_append_right _ (by decide))
  cases capital

theorem group_ne_test {key X : String} (keyed : (Entity.group key).Keyed) :
    (Entity.group key).typeName ≠ X ++ "Test" := by
  intro same
  rw [typeName_group keyed] at same
  have last := congrArg (fun s => s.toList.getLast?) same
  simp only [String.toList_append, List.getLast?_append] at last
  cases last

section Meeting

variable {f g : Form} {suffix : String}

/-- Two files of one model or group that go to one path are its source and its
documentation. -/
theorem clash_of_self {x : Entity} (keyed : x.Keyed)
    (folder : (b.folder x f).same (b.folder x g) = true)
    (meets : f.Meets x.typeName x.typeName g) (before : f.Before g) :
    b.Clash ⟨x, f, suffix⟩ ⟨x, g, suffix⟩ := by
  cases f <;> cases g <;> try exact False.elim before
  case source.test => exact absurd meets.2 (Form.ne_append_test _)
  case source.documentation =>
      cases x with
      | model m => exact .withoutCapitals meets.2 folder
      | group key => exact absurd meets.2 (group_has_capital keyed)
  case test.documentation => exact False.elim meets

theorem clash_of_models {m n : TableModel}
    (meets : f.Meets (Naming.typeName m.name) (Naming.typeName n.name) g)
    (before : Naming.typeName m.name < Naming.typeName n.name) :
    b.Clash ⟨.model m, f, suffix⟩ ⟨.model n, g, suffix⟩ := by
  have ne : Naming.typeName m.name ≠ Naming.typeName n.name := by
    intro same
    rw [same] at before
    exact String.lt_irrefl _ before
  cases f <;> cases g
  case source.source => exact absurd meets ne
  case source.test =>
      rw [meets.2] at before
      exact absurd before (not_append_lt _ _)
  case source.documentation => exact absurd meets.1 ne
  case test.source => exact .calledLikeTest meets.1 meets.2
  case test.test => exact absurd meets ne
  case test.documentation => exact False.elim meets
  case documentation.source => exact absurd meets.1 ne
  case documentation.test => exact False.elim meets
  case documentation.documentation => exact absurd meets ne

theorem clash_of_model_group {m : TableModel} {key : String} (keyed : (Entity.group key).Keyed)
    (folder : (b.folder (.model m) f).same (b.folder (.group key) g) = true)
    (meets : f.Meets (Naming.typeName m.name) (Entity.group key).typeName g) :
    b.Clash ⟨.model m, f, suffix⟩ ⟨.group key, g, suffix⟩ := by
  have small (alike : Naming.typeName m.name = (Entity.group key).typeName)
      (small : ∀ c ∈ (Naming.typeName m.name).toList, isUpper c = false) : False := by
    rw [alike] at small
    exact group_has_capital keyed small
  cases f <;> cases g
  case source.source => exact .calledLikeApi meets folder
  case source.test => exact .calledLikeApiTest meets.2 folder
  case source.documentation => exact (small meets.1 meets.2).elim
  case test.source => exact absurd meets.2 (group_ne_test keyed)
  case test.test => exact .calledLikeApi meets folder
  case test.documentation => exact False.elim meets
  case documentation.source => exact (small meets.1 meets.2).elim
  case documentation.test => exact False.elim meets
  case documentation.documentation => exact .calledLikeApi meets folder

theorem clash_of_groups {k l : String} (keyed : (Entity.group k).Keyed)
    (keyed' : (Entity.group l).Keyed)
    (meets : f.Meets (Entity.group k).typeName (Entity.group l).typeName g) (before : k < l) :
    b.Clash ⟨.group k, f, suffix⟩ ⟨.group l, g, suffix⟩ := by
  have alike (same : Naming.apiTypeName k = Naming.apiTypeName l) (form : Form) :
      b.Clash ⟨.group k, form, suffix⟩ ⟨.group l, form, suffix⟩ := by
    rcases Naming.apiTypeName_inj keyed keyed' same with rfl | ⟨rfl, rfl⟩ | ⟨rfl, rfl⟩
    · exact absurd before (String.lt_irrefl _)
    · exact .calledDefault
    · exact absurd before (by decide)
  cases f <;> cases g
  case source.source => exact alike meets _
  case source.test => exact absurd meets.2 (group_ne_test keyed)
  case source.documentation => exact absurd meets.2 (group_has_capital keyed)
  case test.source => exact absurd meets.2 (group_ne_test keyed')
  case test.test => exact alike meets _
  case test.documentation => exact False.elim meets
  case documentation.source => exact absurd meets.2 (group_has_capital keyed)
  case documentation.test => exact False.elim meets
  case documentation.documentation => exact alike meets _

end Meeting

/-- What clashes coincides. -/
theorem Clash.coincide {p q : Part} (keyed : q.entity.Keyed) (clash : b.Clash p q) :
    b.Coincide p q := by
  cases clash with
  | calledLikeTest ne longer => exact ⟨Path.same_self _, ⟨ne, longer⟩, rfl⟩
  | withoutCapitals small folder => exact ⟨folder, ⟨rfl, small⟩, rfl⟩
  | @calledDefault form suffix =>
      have called : Naming.apiTypeName "" = Naming.apiTypeName "Default" := by decide
      cases form <;> exact ⟨Path.same_self _, called, rfl⟩
  | @calledLikeApi m key form suffix called folder =>
      refine ⟨folder, ?_, rfl⟩
      cases form <;> exact called
  | @calledLikeApiTest m key suffix called folder =>
      refine ⟨folder, ⟨fun empty => ?_, called⟩, rfl⟩
      refine group_has_capital keyed ?_
      simp [empty]

/-- **A part coincides with a later one exactly where they clash.** -/
theorem coincide_iff_clash {p q : Part} (keyed : p.entity.Keyed) (keyed' : q.entity.Keyed)
    (before : p.Before q) : b.Coincide p q ↔ b.Clash p q := by
  refine ⟨?_, Clash.coincide keyed'⟩
  obtain ⟨x, f, suffix⟩ := p
  obtain ⟨y, g, suffix'⟩ := q
  rintro ⟨folder, meets, rfl⟩
  rcases before with before | ⟨rfl, forms | ⟨-, differ⟩⟩
  · cases x <;> cases y
    case model.model m n => exact clash_of_models meets before
    case model.group m key => exact clash_of_model_group keyed' folder meets
    case group.model key m => exact False.elim before
    case group.group k l => exact clash_of_groups keyed keyed' meets before
  · exact clash_of_self keyed folder meets forms
  · exact absurd rfl differ

/-! ## The order of the parts -/

theorem pairwise_forms (options : Options) (x : Entity) :
    (b.forms options x).Pairwise Form.Before := by
  cases x with
  | model m => exact Form.pairwise_before (m.isSuppressed b.toBackend = true) _ _
  | group key =>
      have unconditional := Form.pairwise_before False (options.apiTests = true)
        (options.apiDocs = true)
      rwa [if_neg not_false] at unconditional

section Extended

variable (extended : b.manifest.templates.Extended)
include extended

theorem templates_extended (x : Entity) (form : Form) :
    (∀ e ∈ Dict.entries (b.templates x form), isExtension e.2 = true) ∧
      ((Dict.entries (b.templates x form)).map Prod.snd).Nodup := by
  cases x <;> cases form <;> exact extended _ (by simp [templates, layout])

theorem pairwise_partsOf (options : Options) (x : Entity) :
    (b.partsOf options x).Pairwise Part.Before := by
  rw [partsOf, List.pairwise_flatMap]
  constructor
  · intro form _
    have distinct := List.pairwise_map.1 (templates_extended extended x form).2
    exact List.pairwise_map.2 (distinct.imp fun differ => .inr ⟨rfl, .inr ⟨rfl, differ⟩⟩)
  · refine (pairwise_forms options x).imp fun {f g} before p first q second => ?_
    obtain ⟨_, -, rfl⟩ := List.mem_map.1 first
    obtain ⟨_, -, rfl⟩ := List.mem_map.1 second
    exact .inr ⟨rfl, .inl before⟩

end Extended

theorem entity_of_mem_partsOf {options : Options} {x : Entity} {p : Part}
    (mem : p ∈ b.partsOf options x) : p.entity = x := by
  obtain ⟨form, -, mem⟩ := List.mem_flatMap.1 mem
  obtain ⟨_, -, rfl⟩ := List.mem_map.1 mem
  rfl

/-- The keys of groups are sanitized tags. -/
theorem isTypeName_of_ofDescription {description : Description} {groups : OperationGroups}
    (done : OperationGroups.ofDescription b.toBackend description = .ok groups)
    {g : String × List OperationProjection} (mem : g ∈ Dict.entries groups) :
    IsTypeName g.1 := by
  have appends : OperationGroups.Appends b.toBackend := fun _ _ _ => rfl
  have visited := (OperationGroups.get?_of_ofDescription appends done g.1).2
  rw [Dict.mem_entries_iff.1 mem] at visited
  obtain ⟨v, inVisits⟩ := List.exists_mem_of_ne_nil _ fun none => nomatch visited.2 none
  have leads := (List.mem_filter.1 inVisits).2
  rw [OperationGroups.leadsTo, decide_eq_true_eq] at leads
  exact leads ▸ Naming.isTypeName_typeName _

/-- The models that files are made for come in the order of their type names. -/
theorem pairwise_generated {table : ModelTable} (named : table.Named b.toBackend) :
    (table.generated b.toBackend).Pairwise fun m n =>
      Naming.typeName m.name < Naming.typeName n.name := by
  refine List.Pairwise.filter _ (List.pairwise_map.2 ?_)
  refine table.sorted.imp_of_mem fun {e e'} first second before => ?_
  have own : Naming.typeName e.2.name = e.1 := (named _ _ (Dict.mem_entries_iff.1 first)).2
  have own' : Naming.typeName e'.2.name = e'.1 := (named _ _ (Dict.mem_entries_iff.1 second)).2
  rw [own, own']
  exact before

/-! ## Stamps -/

theorem isLeaf_stamps :
    Path.IsLeaf Product.ignoreFileName ∧ Path.IsLeaf Product.versionFileName := by
  constructor <;> exact ⟨by decide, by decide⟩

/-- No part goes where a stamp goes. -/
theorem file_apart_from_stamps {p : Part} (keyed : p.entity.Keyed)
    (extension : isExtension p.suffix = true) (output : Path) :
    (b.file p).path.same (Product.ignoreFilePath output) ≠ true ∧
      (b.file p).path.same (Product.versionFilePath output) ≠ true := by
  have plain := Form.isIdentifierChar_of_mem_stem (Entity.isTypeName_typeName keyed) p.form
  have leaf := isLeaf_append_extension plain extension
  have apart := append_extension_ne_stamp plain extension
  constructor
  · intro same
    exact apart.1 ((Path.same_join_iff leaf isLeaf_stamps.1).1 same).2
  · intro same
    exact apart.2 ((Path.same_join_iff leaf isLeaf_stamps.2).1 same).2

/-- The stamps go to two paths. -/
theorem stamps_apart (output : Path) :
    (Product.ignoreFilePath output).same (Product.versionFilePath output) ≠ true := by
  intro same
  have names := ((Path.same_join_iff isLeaf_stamps.1 isLeaf_stamps.2).1 same).2
  revert names
  decide

/-! ## The plan of a run -/

/-- Two files are those of parts of the run that clash. -/
def Clashing (b : ManifestBackend) (config : Config) (table : ModelTable)
    (groups : OperationGroups) (f g : ProducedFile) : Prop :=
  ∃ p ∈ b.parts config table groups, ∃ q ∈ b.parts config table groups,
    b.file p = f ∧ b.file q = g ∧ b.Clash p q

section Planned

variable {config : Config} {table : ModelTable} {groups : OperationGroups}
  (extended : b.manifest.templates.Extended)
  (named : (b.options config).models = true → table.Named b.toBackend)
  (keyed : (b.options config).apis = true → ∀ g ∈ Dict.entries groups, IsTypeName g.1)

include keyed in
theorem keyed_of_mem_entities {x : Entity} (mem : x ∈ b.entities config table groups) :
    x.Keyed := by
  rcases List.mem_append.1 mem with mem | mem
  · split at mem
    · obtain ⟨m, -, rfl⟩ := List.mem_map.1 mem
      trivial
    · cases mem
  · split at mem
    · rename_i wanted
      obtain ⟨g, selected, rfl⟩ := List.mem_map.1 mem
      exact keyed wanted g (List.mem_filter.1 selected).1
    · cases mem

include named in
theorem pairwise_entities : (b.entities config table groups).Pairwise Entity.Before := by
  refine List.pairwise_append.2 ⟨?_, ?_, ?_⟩
  · split
    · rename_i wanted
      exact List.pairwise_map.2 (pairwise_generated (named wanted))
    · exact .nil
  · split
    · exact List.pairwise_map.2 (groups.sorted.filter _)
    · exact .nil
  · intro x first y second
    split at first
    · split at second
      · obtain ⟨m, -, rfl⟩ := List.mem_map.1 first
        obtain ⟨g, -, rfl⟩ := List.mem_map.1 second
        trivial
      · cases second
    · cases first

include extended keyed

theorem wellNamed_of_mem_parts {p : Part} (mem : p ∈ b.parts config table groups) :
    p.entity.Keyed ∧ isExtension p.suffix = true := by
  obtain ⟨x, inEntities, mem⟩ := List.mem_flatMap.1 mem
  refine ⟨entity_of_mem_partsOf mem ▸ keyed_of_mem_entities keyed inEntities, ?_⟩
  obtain ⟨form, -, mem⟩ := List.mem_flatMap.1 mem
  obtain ⟨t, inTemplates, rfl⟩ := List.mem_map.1 mem
  exact (templates_extended extended x form).1 t inTemplates

include named in
/-- **The plan of a run has a path twice exactly where two parts clash.** -/
theorem pairwise_parts : (b.parts config table groups).Pairwise fun p q =>
    (b.file p).path.same (b.file q).path = true ↔ b.Clash p q := by
  have ordered : (b.parts config table groups).Pairwise Part.Before := by
    refine List.pairwise_flatMap.2 ⟨fun x _ => pairwise_partsOf extended _ x, ?_⟩
    refine (pairwise_entities named).imp fun {x y} before p first q second => .inl ?_
    rw [entity_of_mem_partsOf first, entity_of_mem_partsOf second]
    exact before
  refine ordered.imp_of_mem fun {p q} first second before => ?_
  obtain ⟨keyedP, extensionP⟩ := wellNamed_of_mem_parts extended keyed first
  obtain ⟨keyedQ, extensionQ⟩ := wellNamed_of_mem_parts extended keyed second
  rw [same_file_iff keyedP keyedQ extensionP extensionQ]
  exact coincide_iff_clash keyedP keyedQ before

/-- What a run plans asks for files, not for folders. -/
theorem asksFolder_of_planned {f : ProducedFile}
    (mem : f ∈ (b.parts config table groups).map b.file ++ b.stamps config) :
    f.path.asksFolder = false := by
  rcases List.mem_append.1 mem with mem | mem
  · obtain ⟨p, inParts, rfl⟩ := List.mem_map.1 mem
    obtain ⟨keyed, extension⟩ := wellNamed_of_mem_parts extended keyed inParts
    exact Path.asksFolder_join _ (isLeaf_append_extension
      (Form.isIdentifierChar_of_mem_stem (Entity.isTypeName_typeName keyed) p.form) extension)
  · rw [stamps] at mem
    split at mem
    · simp only [List.mem_cons, List.not_mem_nil, or_false] at mem
      rcases mem with rfl | rfl
      · exact Path.asksFolder_join _ isLeaf_stamps.1
      · exact Path.asksFolder_join _ isLeaf_stamps.2
    · cases mem

include named in
theorem pairwise_planned : ((b.parts config table groups).map b.file ++ b.stamps config).Pairwise
    fun f g => f.path.same g.path = true →
      g.category ≠ .metadata ∧ b.Clashing config table groups f g := by
  refine List.pairwise_append.2 ⟨?_, ?_, ?_⟩
  · refine List.pairwise_map.2 ((pairwise_parts extended named keyed).imp_of_mem ?_)
    intro p q first second clash same
    have notStamp : (b.file q).category ≠ .metadata := by
      simp only [file]
      cases q.form <;> exact fun same => by cases same
    exact ⟨notStamp, p, first, q, second, rfl, rfl, clash.1 same⟩
  · rw [stamps]
    split
    · refine List.pairwise_pair.2 fun same => ?_
      exact absurd same (stamps_apart _)
    · exact .nil
  · intro f first g second same
    obtain ⟨p, inParts, rfl⟩ := List.mem_map.1 first
    obtain ⟨keyed, extension⟩ := wellNamed_of_mem_parts extended keyed inParts
    have apart := file_apart_from_stamps (b := b) keyed extension b.layout.outputFolder
    rw [stamps] at second
    split at second
    · simp only [List.mem_cons, List.not_mem_nil, or_false] at second
      rcases second with rfl | rfl
      · exact absurd same apart.1
      · exact absurd same apart.2
    · cases second

end Planned

/-! ## What a run reports -/

/-- The files of one form. -/
theorem map_file_form (x : Entity) (form : Form) :
    ((Dict.entries (b.templates x form)).map fun t => (⟨x, form, t.2⟩ : Part)).map b.file
      = filesFor form.category (b.folder x form) (form.stem x.typeName)
          (b.templates x form) := by
  rw [List.map_map]
  rfl

theorem map_file_partsOf_model (options : Options) (m : TableModel) :
    (b.partsOf options (.model m)).map b.file
      = (m.tasks b.toBackend options).map Task.file := by
  simp only [partsOf, forms, List.flatMap_append, List.map_append, TableModel.tasks,
    TableModel.sources, TableModel.tests, TableModel.documentation,
    apply_ite (List.map Task.file), map_file_ofTemplates]
  congr 2 <;> split <;>
    first | rfl | simp only [List.flatMap_singleton, map_file_form]; rfl

theorem map_file_partsOf_group (options : Options) (key : String) :
    (b.partsOf options (.group key)).map b.file = filesOfGroup b.toBackend options key := by
  simp only [partsOf, forms, List.flatMap_append, List.map_append, filesOfGroup]
  congr 2
  · simp only [List.flatMap_singleton, map_file_form]
    rfl
  all_goals split <;> first | rfl | simp only [List.flatMap_singleton, map_file_form]; rfl

/-- The files of models and groups are the files of the parts. -/
theorem map_file_parts (config : Config) (table : ModelTable) (groups : OperationGroups) :
    (b.parts config table groups).map b.file =
      (if (b.options config).models then
        (table.tasks b.toBackend (b.options config)).map Task.file else [])
      ++ (if (b.options config).apis then
        (groups.selected config.apiFilter).flatMap fun g =>
          filesOfGroup b.toBackend (b.options config) g.1 else []) := by
  simp only [parts, entities, List.flatMap_append, List.map_append, ModelTable.tasks]
  congr 1 <;> split
  · simp only [List.map_flatMap, List.flatMap_map, map_file_partsOf_model]
  · rfl
  · simp only [List.map_flatMap, List.flatMap_map, map_file_partsOf_group]
  · rfl

/-- **A run reports a path twice only where two of its parts clash, the later one is no test
and the manifest lets files be replaced.** -/
theorem generate_clashes [Readers] {now : Moment} {config : Config} {description : Description}
    {sink : Sink} {files : List ProducedFile} (alone : b.manifest.supportingFiles = [])
    (extended : b.manifest.templates.Extended)
    (done : (Job.generate ⟨some description, some b.toBackend, config, now⟩ sink).1
      = .ok files) :
    ∃ run table groups, Job.info now config b.toBackend description = .ok run ∧
      ((b.options config).models = true →
        ModelTable.build b.toBackend description.schemas config.modelFilter run.properties
          = .ok table) ∧
      ((b.options config).apis = true →
        OperationGroups.ofDescription b.toBackend description = .ok groups) ∧
      files.Pairwise fun f g => f.path.same g.path = true →
        b.manifest.overwrite = true ∧ g.category ≠ .test ∧
          b.Clashing config table groups f g := by
  obtain ⟨bundle, outcome⟩ := Job.outcome_of_generate _ _ _ _ _ done
  obtain ⟨run, table, groups, informed, built, collected, planned⟩ :=
    Job.map_file_planBundle outcome
  refine ⟨run, table, groups, informed, built, collected, ?_⟩
  have named (wanted : (b.options config).models = true) :
      table.Named b.toBackend :=
    ModelTable.named_of_build (fun _ => rfl) (built wanted)
  have keyed (wanted : (b.options config).apis = true) :
      ∀ g ∈ Dict.entries groups, IsTypeName g.1 :=
    fun _ mem => isTypeName_of_ofDescription (collected wanted) mem
  have none : b.toBackend.layout.supportingFiles = [] := alone
  have whole : (Job.planBundle now config b.toBackend description).tasks.map Task.file
      = (b.parts config table groups).map b.file ++ b.stamps config := by
    rw [planned, map_file_parts, none, List.filter_nil, List.map_nil, ite_self, List.append_nil]
    rfl
  have proper : ∀ t ∈ (Job.planBundle now config b.toBackend description).tasks,
      t.path.asksFolder = false := by
    intro t mem
    have listed := List.mem_map_of_mem (f := Task.file) mem
    rw [whole] at listed
    exact asksFolder_of_planned (f := t.file) extended keyed listed
  obtain ⟨sub, again⟩ := Job.generate_again proper done
  rw [whole] at sub
  have clashes := (pairwise_planned extended named keyed).sublist sub
  have both := List.pairwise_and_iff.2 ⟨again, clashes⟩
  refine both.imp fun {f g} explained same => ?_
  obtain ⟨notStamp, clash⟩ := explained.2 same
  obtain ⟨notTest, overwrite⟩ := explained.1 same notStamp
  exact ⟨overwrite, notTest, clash⟩

/-- A manifest with one template for models and one for groups. -/
def sharingManifest : Manifest :=
  { Manifest.standard with
    outputDir := ⟨"out"⟩
    templates := { TemplateSets.empty with
      model := .ofList [("m.txt", ".rs")]
      api := .ofList [("a.txt", ".rs")] } }

/-- A description with a model that is called like the API of its only group. -/
def sharingDescription : Description :=
  { Description.empty with
    components := some ⟨.ofList [("PetsApi", .object [("type", .str "object")])], .empty, .empty⟩
    paths := some (.ofList [("/pets", { (default : PathItem) with
      get := some { (default : Operation) with tags := some ["pets"] } })]) }

def sharingConfig : Config := { Config.standard with generateMetadata := false }

/-- A disk with the templates of the manifest and without its output folder. -/
def sharingDisk : Disk :=
  ((Disk.emptyAt []).put ⟨"templates/m.txt"⟩ (.text "m")).put ⟨"templates/a.txt"⟩ (.text "a")

theorem generate_clashes_called_like_api :
    sharingManifest.supportingFiles = [] ∧ sharingManifest.templates.Extended ∧
      ((Job.ofManifest sharingManifest sharingConfig sharingDescription).generate
        (.writing sharingDisk)).1.toOption.map (·.map ProducedFile.category)
          = some [.source, .source] ∧
      ∃ files table groups,
        ((Job.ofManifest sharingManifest sharingConfig sharingDescription).generate
          (.writing sharingDisk)).1 = .ok files ∧
        files.Pairwise fun f g => f.path.same g.path = true →
          (⟨sharingManifest, ⟨""⟩, none⟩ : ManifestBackend).Clashing sharingConfig table groups
            f g := by
  have categories : ((Job.ofManifest sharingManifest sharingConfig sharingDescription).generate
      (.writing sharingDisk)).1.toOption.map (·.map ProducedFile.category)
        = some [.source, .source] := by decide +kernel
  obtain ⟨files, made, -⟩ := Option.map_eq_some_iff.1 categories
  have done := eq_ok_of_toOption made
  have extended : sharingManifest.templates.Extended := by decide +kernel
  obtain ⟨run, table, groups, -, -, -, clashes⟩ := generate_clashes rfl extended done
  exact ⟨rfl, extended, categories, files, table, groups, done,
    clashes.imp fun explained same => (explained same).2.2⟩

/-- **The source of an API replaces that of a model which is called like it.** -/
theorem api_replaces_model :
    sharingManifest.supportingFiles = [] ∧ sharingManifest.templates.Extended ∧
      sharingDisk.exists? ⟨"out"⟩ = false ∧
      ((Job.ofManifest sharingManifest sharingConfig sharingDescription).generate
        (.writing sharingDisk)).1.toOption
          = some [⟨⟨"out/pets_api.rs"⟩, .source⟩, ⟨⟨"out/pets_api.rs"⟩, .source⟩] := by
  decide +kernel

end ManifestBackend

end ApiForge
