import ApiForge.Proofs.Disk.Confined
import ApiForge.Proofs.Run.Destinations
import ApiForge.Proofs.Run.Obliging
/-
# ApiForge.Proofs.Run.Confined -- where a run may write

A task changes nothing but the folder that its file lies in and what is on the way to it
(`Task.confined_settle`), so a run stays in the folders that its files lie in
(`Task.confined_performAll`), whatever comes of it.

With the backend of a manifest a description has no say in that.  Files of models and of
groups have plain names, whatever schemas and tags are called, and lie in the six folders of
the manifest; where everything else goes is written in the manifest itself
(`ManifestBackend.run_confined`).
-/

namespace ApiForge

set_option autoImplicit false

open ApiForge.Text

theorem Sink.disk_writing (d : Disk) : (writing d).disk = d := rfl

/-! ## Tasks -/

section Tasks

variable {folders : List Path} {p : Path}

/-- **Whatever is done for a file, it changes the folder that the file lies in and what is on
the way to it.** -/
theorem Intent.confined_enact
    (lies : ∀ q, p.parent? = some q → ∃ folder ∈ folders, p.LiesIn folder) (i : Intent)
    (sink : Sink) : Disk.Confined folders sink.disk (i.enact p sink).2.disk := by
  obtain ⟨disk, recorded⟩ := sink
  cases i with
  | pass => exact .refl folders disk
  | refuse error => exact .refl folders disk
  | write contents =>
      cases recorded with
      | some files => exact .refl folders disk
      | none =>
          refine Disk.confined_place lies _ (fun room d' written => ?_) disk
          obtain ⟨place, leads, same⟩ := Option.map_eq_some_iff.1 written
          exact ⟨place, contents, leads, same.symm⟩
  | copy source =>
      cases recorded with
      | some files =>
          simp only [enact, Sink.copy]
          split <;> exact .refl folders disk
      | none =>
          refine Disk.confined_place lies _ (fun room d' copied => ?_) disk
          simp only [Disk.copy] at copied
          split at copied
          · rename_i contents place held leads
            exact ⟨place, _, leads, (Option.some.inj copied).symm⟩
          · cases copied

namespace Task

variable {e : Emitter}

theorem confined_settle {f : ProducedFile}
    (lies : ∀ q, f.path.parent? = some q → ∃ folder ∈ folders, f.path.LiesIn folder)
    (i : Intent) (output : Output) :
    Disk.Confined folders output.sink.disk (i.settle f output).2.sink.disk := by
  have enacted := i.confined_enact lies output.sink
  simp only [Intent.settle]
  split <;> rename_i done <;> rw [done] at enacted <;> exact enacted

/-- **Tasks stay in the folders that their files lie in, also where one fails.** -/
theorem confined_performAll [Readers] {ts : List Task}
    (lies : ∀ t ∈ ts, ∀ q, t.path.parent? = some q → ∃ folder ∈ folders, t.path.LiesIn folder)
    (output : Output) :
    Disk.Confined folders output.sink.disk ((performAll e ts).run output).2.sink.disk := by
  induction ts generalizing output with
  | nil => exact .refl folders _
  | cons t rest ih =>
      have first := confined_settle (f := t.file) (lies t List.mem_cons_self)
        (t.intent e output.sink) output
      rw [performAll_cons_run]
      split
      · rename_i later settled
        rw [settled] at first
        exact first.trans (ih (fun u mem => lies u (List.mem_cons_of_mem _ mem)) later)
      · rename_i error later settled
        rw [settled] at first
        exact first

/-- What is reported was reported before or is the file of a task. -/
theorem mem_files_of_performAll [Readers] {ts : List Task} {output : Output} {f : ProducedFile}
    (mem : f ∈ ((performAll e ts).run output).2.files) :
    f ∈ output.files ∨ f ∈ ts.map Task.file := by
  induction ts generalizing output with
  | nil => exact .inl mem
  | cons t rest ih =>
      have first : ∀ g ∈ ((t.intent e output.sink).settle t.file output).2.files,
          g ∈ output.files ∨ g = t.file := by
        intro g mem
        simp only [Intent.settle] at mem
        split at mem
        · rcases List.mem_append.1 mem with before | new
          · exact .inl before
          · split at new
            · exact .inr (List.mem_singleton.1 new)
            · cases new
        · exact .inl mem
      rw [List.map_cons, List.mem_cons, ← or_assoc]
      rw [performAll_cons_run] at mem
      split at mem
      · rename_i later settled
        rw [settled] at first
        exact (ih mem).imp (first f) id
      · rename_i error later settled
        rw [settled] at first
        exact .inl (first f mem)

end Task

end Tasks

/-! ## The folders of a manifest -/

/-- No suffix has a slash. -/
def TemplateSets.Plain (t : TemplateSets) : Prop :=
  ∀ set ∈ [t.model, t.modelTest, t.modelDoc, t.api, t.apiTest, t.apiDoc],
    ∀ e ∈ Dict.entries set, '/' ∉ e.2.toList

instance (t : TemplateSets) : Decidable t.Plain :=
  inferInstanceAs (Decidable (∀ set ∈ [_, _, _, _, _, _], _))

namespace ManifestBackend

variable (b : ManifestBackend)

/-- The six folders, each with the templates of the files that are made there. -/
def outlets : List (Path × TemplateSet) :=
  [(b.layout.modelFolder, b.layout.modelTemplates),
    (b.layout.modelTestFolder, b.layout.modelTestTemplates),
    (b.layout.modelDocFolder, b.layout.modelDocTemplates),
    (b.layout.apiFolder, b.layout.apiTemplates),
    (b.layout.apiTestFolder, b.layout.apiTestTemplates),
    (b.layout.apiDocFolder, b.layout.apiDocTemplates)]

/-- The path is that of a file in one of the six folders, called by letters, digits and
underscores with a suffix of the manifest behind. -/
def NamesFile (path : Path) : Prop :=
  ∃ outlet ∈ b.outlets, ∃ template ∈ Dict.entries outlet.2, ∃ stem : String,
    (∀ c ∈ stem.toList, isIdentifierChar c = true) ∧ path = outlet.1.join (stem ++ template.2)

/-- Where a supporting file goes. -/
def supportingPath (f : SupportingFile) : Path :=
  (f.target b.layout.outputFolder).join f.destination

/-- The files of a run that no model and no group makes: supporting files and stamps. -/
def fixedFiles (config : Config) : List ProducedFile :=
  (if (b.options config).supportingFiles then
    (b.layout.supportingFiles.filter fun f => config.wants f.destination).map fun f =>
      ⟨b.supportingPath f, .supporting⟩
  else []) ++ b.stamps config

/-- The folders that a run may write into: the six, and those of supporting files and of
stamps. -/
def writable : List Path :=
  b.outlets.map Prod.fst ++ (b.layout.supportingFiles.map b.supportingPath
    ++ [Product.ignoreFilePath b.layout.outputFolder,
      Product.versionFilePath b.layout.outputFolder]).filterMap Path.parent?

variable {b}

theorem mem_outlets (x : Entity) (form : Form) :
    (b.folder x form, b.templates x form) ∈ b.outlets := by
  cases x <;> cases form <;> simp [outlets, folder, templates]

/-- The file of a model or of a group has a plain name in one of the six folders. -/
theorem namesFile_of_mem_parts {config : Config} {table : ModelTable} {groups : OperationGroups}
    (keyed : (b.options config).apis = true → ∀ g ∈ Dict.entries groups, IsTypeName g.1)
    {p : Part} (mem : p ∈ b.parts config table groups) : b.NamesFile (b.file p).path := by
  obtain ⟨x, inEntities, mem⟩ := List.mem_flatMap.1 mem
  obtain ⟨form, -, mem⟩ := List.mem_flatMap.1 mem
  obtain ⟨template, inTemplates, rfl⟩ := List.mem_map.1 mem
  have name := Entity.isTypeName_typeName (keyed_of_mem_entities keyed inEntities)
  exact ⟨_, mem_outlets x form, template, inTemplates, form.stem x.typeName,
    Form.isIdentifierChar_of_mem_stem name form, rfl⟩

/-- A file with a plain name lies in one of the folders that a run may write into. -/
theorem NamesFile.liesIn (plain : b.manifest.templates.Plain) {path : Path}
    (named : b.NamesFile path) : ∃ folder ∈ b.writable, path.LiesIn folder := by
  obtain ⟨outlet, mem, template, inTemplates, stem, chars, rfl⟩ := named
  refine ⟨outlet.1, List.mem_append_left _ (List.mem_map_of_mem mem), Path.liesIn_join _ ?_⟩
  have suffix : '/' ∉ template.2.toList := by
    refine plain outlet.2 ?_ template inTemplates
    simp only [outlets, List.mem_cons, List.not_mem_nil, or_false] at mem
    rcases mem with rfl | rfl | rfl | rfl | rfl | rfl <;> simp [layout]
  rw [String.toList_append, List.mem_append, not_or]
  exact ⟨fun slash => absurd (chars _ slash) (by decide), suffix⟩

/-- So does every other file of a run. -/
theorem liesIn_of_mem_fixedFiles {config : Config} {f : ProducedFile}
    (mem : f ∈ b.fixedFiles config) {q : Path} (parent : f.path.parent? = some q) :
    ∃ folder ∈ b.writable, f.path.LiesIn folder := by
  refine ⟨q, List.mem_append_right _ (List.mem_filterMap.2 ⟨f.path, ?_, parent⟩),
    Path.liesIn_parent parent⟩
  rcases List.mem_append.1 mem with mem | mem
  · split at mem
    · obtain ⟨s, wanted, rfl⟩ := List.mem_map.1 mem
      exact List.mem_append_left _ (List.mem_map_of_mem (List.mem_filter.1 wanted).1)
    · cases mem
  · rw [stamps] at mem
    split at mem
    · simp only [List.mem_cons, List.not_mem_nil, or_false] at mem
      rcases mem with rfl | rfl <;> simp
    · cases mem

/-! ## Runs of a manifest -/

/-- **A description has no say in where a run writes.**  The run plans files with plain names
in the six folders, and the supporting files and stamps of the manifest.  It produces nothing
else, and on the disk it puts files directly into the folders of the manifest and makes
folders on the way to them, whether or not it succeeds. -/
theorem run_confined [Readers] (plain : b.manifest.templates.Plain) (now : Moment) (config : Config)
    (description : Description) (sink : Sink) :
    ∃ named : List ProducedFile, (∀ f ∈ named, b.NamesFile f.path) ∧
      (Job.tasks ⟨some description, some b.toBackend, config, now⟩).map Task.file
        = named ++ b.fixedFiles config ∧
      (∀ f ∈ Job.produced ⟨some description, some b.toBackend, config, now⟩ sink,
        f ∈ named ++ b.fixedFiles config) ∧
      Disk.Confined b.writable sink.disk
        (Job.generate ⟨some description, some b.toBackend, config, now⟩ sink).2.disk := by
  obtain ⟨bundle, outcome⟩ := b.obliging.planBundle now config description
  obtain ⟨run, table, groups, -, -, collected, planned⟩ := Job.map_file_planBundle outcome
  have keyed (wanted : (b.options config).apis = true) :
      ∀ g ∈ Dict.entries groups, IsTypeName g.1 :=
    fun _ mem => isTypeName_of_ofDescription (collected wanted) mem
  have whole : (Job.planBundle now config b.toBackend description).tasks.map Task.file
      = (b.parts config table groups).map b.file ++ b.fixedFiles config := by
    rw [planned, List.append_assoc, map_file_parts]
    rfl
  have named : ∀ f ∈ (b.parts config table groups).map b.file, b.NamesFile f.path := by
    intro f mem
    obtain ⟨p, inParts, rfl⟩ := List.mem_map.1 mem
    exact namesFile_of_mem_parts keyed inParts
  have lies : ∀ t ∈ (Job.planBundle now config b.toBackend description).tasks, ∀ q,
      t.path.parent? = some q → ∃ folder ∈ b.writable, t.path.LiesIn folder := by
    intro t mem q parent
    have listed := List.mem_map_of_mem (f := Task.file) mem
    rw [whole] at listed
    rcases List.mem_append.1 listed with part | fixed
    · exact (named t.file part).liesIn plain
    · exact liesIn_of_mem_fixedFiles (f := t.file) fixed parent
  refine ⟨_, named, whole, fun f mem => ?_, ?_⟩
  · rw [Job.produced_eq] at mem
    exact whole ▸ (Task.mem_files_of_performAll mem).resolve_left List.not_mem_nil
  · have confined := Task.confined_performAll (e := Job.emitter sink.disk config b.toBackend)
      lies (Output.start sink)
    rw [Job.generate_eq]
    split <;> rename_i done <;> rw [done] at confined <;> exact confined

/-- A description whose names look like paths that lead elsewhere. -/
def straySchemaAndTag : Description :=
  { Description.empty with
    components := some ⟨.ofList [("../../etc/passwd", .object [("type", .str "object")])],
      .empty, .empty⟩
    paths := some (.ofList [("/pets", { (default : PathItem) with
      get := some { (default : Operation) with tags := some ["/ü\\..\"x"] } })]) }

/-- A run for it, with one template for models and one for groups. -/
def strayJob : Job :=
  ⟨some straySchemaAndTag, some (toBackend ⟨sharingManifest, ⟨""⟩, none⟩), sharingConfig, ⟨"", ""⟩⟩

theorem run_confined_of_stray_names : sharingManifest.templates.Plain ∧
    strayJob.produced (.writing sharingDisk)
      = [⟨⟨"out/etc_passwd.rs"⟩, .source⟩, ⟨⟨"out/x_api.rs"⟩, .source⟩] ∧
    (∀ f ∈ strayJob.produced (.writing sharingDisk),
      NamesFile ⟨sharingManifest, ⟨""⟩, none⟩ f.path) ∧
    Disk.Confined (writable ⟨sharingManifest, ⟨""⟩, none⟩) sharingDisk
      (strayJob.generate (.writing sharingDisk)).2.disk := by
  have plain : sharingManifest.templates.Plain := by decide +kernel
  have nothing : fixedFiles ⟨sharingManifest, ⟨""⟩, none⟩ sharingConfig = [] := by decide +kernel
  obtain ⟨named, names, -, produced, confined⟩ := run_confined (b := ⟨sharingManifest, ⟨""⟩, none⟩)
    plain ⟨"", ""⟩ sharingConfig straySchemaAndTag (.writing sharingDisk)
  rw [← strayJob, nothing, List.append_nil] at produced
  rw [← strayJob, Sink.disk_writing] at confined
  exact ⟨plain, by decide +kernel, fun f mem => names f (produced f mem), confined⟩

end ManifestBackend

end ApiForge
