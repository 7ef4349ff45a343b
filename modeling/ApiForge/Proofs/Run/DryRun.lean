import ApiForge.Proofs.Except
import ApiForge.Proofs.Output.Look
import ApiForge.Proofs.Run.Plan
import ApiForge.Readers.Standard
/-
# ApiForge.Proofs.Run.DryRun -- what a dry run says about the real one

A sink that only records takes for present what the disk holds and what it has recorded.  It
mirrors a disk that is written to (`Mirrors`): each file that was made is recorded with what
the disk holds there, and the disk has no other file that it had not before.  So both sinks
give the same answers to a task, and the mirror lasts from task to task
(`performAll_recording`).
-/

namespace ApiForge

set_option autoImplicit false

/-! ## Recorded files -/

namespace Recorded

theorem find?_put (files : Recorded) (p q : Path) (contents : Contents) :
    (files.put p contents).find? q = if p.same q then some contents else files.find? q := by
  induction files with
  | nil => cases here : p.same q <;> simp [put, find?, here]
  | cons f rest ih =>
      simp only [put]
      by_cases first : f.1.same p = true
      · have agree : f.1.same q = p.same q := by
          rw [Bool.eq_iff_iff]
          exact ⟨Path.same_trans (Path.same_comm first), Path.same_trans first⟩
        cases here : p.same q <;> simp [first, find?, agree, here]
      · rw [if_neg first]
        simp only [find?, List.find?_cons] at ih ⊢
        cases other : f.1.same q with
        | false => simpa [other] using ih
        | true =>
            have notHere : p.same q = false := by
              cases here : p.same q with
              | false => rfl
              | true => exact absurd (Path.same_trans other (Path.same_comm here)) first
            simp [notHere]

theorem find?_congr (files : Recorded) {p q : Path} (same : p.same q = true) :
    files.find? p = files.find? q := by
  have agree : (fun f : Path × Contents => f.1.same p) = fun f => f.1.same q := by
    funext f
    rw [Bool.eq_iff_iff]
    exact ⟨fun h => Path.same_trans h same, fun h => Path.same_trans h (Path.same_comm same)⟩
  simp only [find?, agree]

end Recorded

/-! ## A mirror of the disk -/

/-- No destination goes back up or lies above another, and destinations at one place are
spelled alike. -/
structure Distinct (disk : Disk) (tasks : List Task) : Prop where
  level : ∀ t ∈ tasks, t.path.climbs = false
  apart : ∀ t ∈ tasks, ∀ u ∈ tasks,
    disk.destination t.path <+: disk.destination u.path →
    disk.destination t.path = disk.destination u.path
  alike : ∀ t ∈ tasks, ∀ u ∈ tasks, disk.destination t.path = disk.destination u.path →
    t.path.same u.path = true ∧ t.path.asksFolder = u.path.asksFolder

/-- What is recorded mirrors what became of the disk `start` when the files were made. -/
structure Mirrors (tasks : List Task) (start real : Disk) (recorded : Recorded)
    (files : List ProducedFile) : Prop where
  keeps : Disk.Keeps start real
  wellFormed : real.WellFormed
  nodes : ∀ name, real.nodes.get? name = start.nodes.get? name ∨
    (start.nodes.get? name = none ∧ real.nodes.get? name = some .folder ∧
      ∃ f ∈ files, ∃ above, above <+: (start.destination f.path).dropLast ∧
        name = Disk.placeName above) ∨
    ∃ f ∈ files, name = Disk.placeName (start.destination f.path)
  held : ∀ f ∈ files, f.path.asksFolder = false ∧ ∃ contents,
    recorded.find? f.path = some contents ∧
      real.node? (start.destination f.path) = some (.file contents)
  known : ∀ p contents, recorded.find? p = some contents → ∃ f ∈ files, f.path.same p = true
  planned : ∀ f ∈ files, ∃ t ∈ tasks, t.path = f.path

namespace Mirrors

variable {tasks : List Task} {start real : Disk} {recorded : Recorded}
  {files : List ProducedFile}

theorem empty (wf : start.WellFormed) : Mirrors tasks start start [] [] where
  keeps := Disk.Keeps.refl start
  wellFormed := wf
  nodes := fun _ => Or.inl rfl
  held := fun _ mem => absurd mem List.not_mem_nil
  known := fun _ _ found => by cases found
  planned := fun _ mem => absurd mem List.not_mem_nil

theorem destination_ne_nil {p : Path} (level : p.climbs = false) (file : p.asksFolder = false) :
    start.destination p ≠ [] := by
  rw [Disk.destination_of_level start level]
  exact fun none => Path.names_ne_nil file (List.append_eq_nil_iff.1 none).2

/-- Where a path leads there stands what stood there, a new folder above a file, or a
file. -/
theorem node?_eq (m : Mirrors tasks start real recorded files) (wf : start.WellFormed)
    (p : Path) :
    real.node? (start.destination p) = start.node? (start.destination p) ∨
      (start.node? (start.destination p) = none ∧
        real.node? (start.destination p) = some .folder ∧
        ∃ f ∈ files, start.destination p <+: (start.destination f.path).dropLast) ∨
      ∃ f ∈ files, start.destination f.path = start.destination p := by
  by_cases root : start.destination p = []
  · rw [root]
    exact Or.inl rfl
  rw [Disk.node?_of_ne_nil _ root, Disk.node?_of_ne_nil _ root]
  have proper := Disk.proper_destination wf
  rcases m.nodes (Disk.placeName (start.destination p)) with
    same | ⟨missing, folder, f, mem, above, onWay, same⟩ | ⟨f, mem, same⟩
  · exact Or.inl same
  · have properAbove : ∀ n ∈ above, Disk.IsProper n := fun n inAbove =>
      proper f.path n (List.dropLast_subset _ (onWay.subset inAbove))
    rw [Disk.placeName_inj (proper p) properAbove same]
    refine Or.inr (Or.inl ⟨?_, ?_, f, mem, onWay⟩)
    · rw [← same]
      exact missing
    · rw [← same]
      exact folder
  · exact Or.inr (Or.inr ⟨f, mem, (Disk.placeName_inj (proper p) (proper f.path) same).symm⟩)

/-- What a task may be made from is as it was. -/
theorem read_eq (m : Mirrors tasks start real recorded files) (wf : start.WellFormed)
    {q : Path} (anchored : start.Anchored q)
    (untouched : ∀ f ∈ files, start.destination f.path ≠ start.destination q) :
    real.read q = start.read q := by
  refine m.keeps.read_eq wf m.wellFormed anchored ?_
  rcases m.node?_eq wf q with same | ⟨missing, folder, -⟩ | ⟨f, mem, same⟩
  · exact Or.inl same
  · exact Or.inr ⟨missing, folder⟩
  · exact absurd same (untouched f mem)

/-- A file that was made is recorded with what the disk holds there. -/
theorem read_of_listed (m : Mirrors tasks start real recorded files)
    (distinct : Distinct start tasks) {f : ProducedFile} (listed : f ∈ files) :
    ∃ contents, recorded.find? f.path = some contents ∧ real.read f.path = some contents := by
  obtain ⟨file, contents, found, stands⟩ := m.held f listed
  obtain ⟨t, mem, same⟩ := m.planned f listed
  have nonempty := Path.isEmpty_text file
  refine ⟨contents, found, ?_⟩
  have level := same ▸ distinct.level t mem
  rw [Disk.read_of_anchored m.wellFormed (Disk.anchored_of_level real level), nonempty, file,
    Disk.destination_congr m.keeps.here]
  simp only [Disk.contentsAt, stands]
  rfl

section Distinct

variable (m : Mirrors tasks start real recorded files) (wf : start.WellFormed)
  (distinct : Distinct start tasks)
include m wf distinct

/-- Where a task leads there stands what stood there, or the file of a task. -/
theorem node?_of_task {t : Task} (mem : t ∈ tasks) :
    real.node? (start.destination t.path) = start.node? (start.destination t.path) ∨
      ∃ f ∈ files, start.destination f.path = start.destination t.path := by
  rcases m.node?_eq wf t.path with same | ⟨-, -, f, made, onWay⟩ | made
  · exact Or.inl same
  · obtain ⟨u, planned, samePath⟩ := m.planned f made
    have above := onWay.trans (List.dropLast_prefix _)
    have same := distinct.apart t mem u planned (samePath ▸ above)
    rw [← samePath, ← same] at onWay
    have nonempty : start.destination t.path ≠ [] := by
      rw [same, samePath]
      exact destination_ne_nil (samePath ▸ distinct.level u planned) (m.held f made).1
    have short := onWay.length_le
    have long := List.length_pos_iff.2 nonempty
    rw [List.length_dropLast] at short
    omega
  · exact Or.inr made

/-- **Both sinks say the same about the files of the tasks.** -/
theorem exists?_eq {t : Task} (mem : t ∈ tasks) :
    (Sink.mk start (some recorded)).exists? t.path = (Sink.writing real).exists? t.path := by
  have recordedThere {contents : Contents} (found : recorded.find? t.path = some contents) :
      ∃ f ∈ files, start.destination f.path = start.destination t.path ∧
        f.path.names = t.path.names := by
    obtain ⟨f, made, same⟩ := m.known _ _ found
    exact ⟨f, made, Disk.destination_of_same start same, Path.names_eq_of_same same⟩
  have alike {f : ProducedFile} (made : f ∈ files)
      (same : start.destination f.path = start.destination t.path) :
      f.path.same t.path = true ∧ t.path.asksFolder = false := by
    obtain ⟨u, planned, samePath⟩ := m.planned f made
    obtain ⟨spelled, asks⟩ := distinct.alike u planned t mem (samePath ▸ same)
    rw [samePath] at spelled asks
    exact ⟨spelled, asks ▸ (m.held f made).1⟩
  simp only [Sink.exists?, Sink.writing, Option.bind_some, Option.bind_none, Option.isSome_none,
    Bool.false_or]
  have anchored (d : Disk) := Disk.anchored_of_level d (distinct.level t mem)
  rw [Disk.exists?_of_anchored wf (anchored start),
    Disk.exists?_of_anchored m.wellFormed (anchored real), Disk.destination_congr m.keeps.here]
  by_cases empty : t.path.text.isEmpty = true
  · cases found : recorded.find? t.path with
    | none => simp [empty]
    | some contents =>
        obtain ⟨f, made, -, names⟩ := recordedThere found
        have blank : t.path = ⟨""⟩ := congrArg Path.mk (String.isEmpty_iff.1 empty)
        rw [blank] at names
        exact absurd names (Path.names_ne_nil (m.held f made).1)
  simp only [Bool.not_eq_true] at empty
  simp only [empty, Bool.not_false, Bool.true_and]
  rcases m.node?_of_task wf distinct mem with same | ⟨f, made, same⟩
  · simp only [Disk.isFolderAt, same]
    cases found : recorded.find? t.path with
    | none => simp
    | some contents =>
        obtain ⟨f, made, samePlace, -⟩ := recordedThere found
        obtain ⟨-, file⟩ := alike made samePlace
        obtain ⟨-, held, -, there⟩ := m.held f made
        rw [samePlace, same] at there
        simp [file, there]
  · obtain ⟨spelled, file⟩ := alike made same
    obtain ⟨-, held, found, there⟩ := m.held f made
    rw [same] at there
    rw [← Recorded.find?_congr recorded spelled]
    simp [file, found, there]

section Put

variable {t : Task} {room next : Disk} {place : List String} {contents : Contents}
  (placed : Disk.Put real room next t.path place contents)
include placed

omit wf distinct in
theorem place_eq : place = start.destination t.path := by
  rw [placed.place_eq, Disk.destination_congr m.keeps.here]

omit wf in
theorem nodes_put (mem : t ∈ tasks) (name : String) :
    next.nodes.get? name = start.nodes.get? name ∨
      (start.nodes.get? name = none ∧ next.nodes.get? name = some .folder ∧
        ∃ f ∈ files ++ [t.file], ∃ above, above <+: (start.destination f.path).dropLast ∧
          name = Disk.placeName above) ∨
      ∃ f ∈ files ++ [t.file], name = Disk.placeName (start.destination f.path) := by
  have there := m.place_eq placed
  rcases placed.changed (distinct.level t mem) name with
    kept | ⟨-, here⟩ | ⟨missing, folder, above, onWay, here⟩
  · rw [kept]
    rcases m.nodes name with same | ⟨missing, folder, f, made, onWay⟩ | ⟨f, made, here⟩
    · exact Or.inl same
    · exact Or.inr (Or.inl ⟨missing, folder, f, List.mem_append_left _ made, onWay⟩)
    · exact Or.inr (Or.inr ⟨f, List.mem_append_left _ made, here⟩)
  · exact Or.inr (Or.inr ⟨t.file, by simp, there ▸ here⟩)
  · exact Or.inr (Or.inl ⟨m.keeps.get?_eq_none missing, folder, t.file, by simp, above,
      there ▸ onWay, here⟩)

/-- Another file that was made stays as it is. -/
theorem node?_put_of_not_same (mem : t ∈ tasks) {f : ProducedFile} (made : f ∈ files)
    (spelled : ¬ t.path.same f.path = true) {held : Contents}
    (stands : real.node? (start.destination f.path) = some (.file held)) :
    next.node? (start.destination f.path) = some (.file held) := by
  obtain ⟨u, planned, samePath⟩ := m.planned f made
  have elsewhere : start.destination t.path ≠ start.destination f.path := by
    intro same
    exact spelled (samePath ▸ (distinct.alike t mem u planned (samePath ▸ same)).1)
  have nonempty : start.destination f.path ≠ [] :=
    destination_ne_nil (samePath ▸ distinct.level u planned) (m.held f made).1
  have proper := Disk.proper_destination wf
  rw [Disk.node?_of_ne_nil _ nonempty] at stands ⊢
  rw [placed.get?, if_neg fun same => elsewhere
    (Disk.placeName_inj (proper _) (proper _) (m.place_eq placed ▸ same))]
  exact placed.grows.get?_of_some stands

theorem held_put (mem : t ∈ tasks) {f : ProducedFile} (listed : f ∈ files ++ [t.file]) :
    f.path.asksFolder = false ∧ ∃ held,
      (recorded.put t.path contents).find? f.path = some held ∧
        next.node? (start.destination f.path) = some (.file held) := by
  have file : f.path.asksFolder = false := by
    rcases List.mem_append.1 listed with made | new
    · exact (m.held f made).1
    · rw [List.mem_singleton.1 new]
      exact placed.asksFile
  refine ⟨file, ?_⟩
  rw [Recorded.find?_put]
  by_cases spelled : t.path.same f.path = true
  · refine ⟨contents, if_pos spelled, ?_⟩
    rw [← Disk.destination_of_same start spelled, ← m.place_eq placed]
    exact placed.node
  · rcases List.mem_append.1 listed with made | new
    · obtain ⟨-, held, found, stands⟩ := m.held f made
      exact ⟨held, by rw [if_neg spelled, found],
        m.node?_put_of_not_same wf distinct placed mem made spelled stands⟩
    · rw [List.mem_singleton.1 new] at spelled
      exact absurd (Path.same_self _) spelled

/-- **The mirror lasts when one more file is made.** -/
theorem put (mem : t ∈ tasks) :
    Mirrors tasks start next (recorded.put t.path contents) (files ++ [t.file]) where
  keeps := m.keeps.trans placed.keeps
  wellFormed := placed.wellFormed m.wellFormed
  nodes := m.nodes_put distinct placed mem
  held := fun _ listed => m.held_put wf distinct placed mem listed
  known := by
    intro p held found
    rw [Recorded.find?_put] at found
    split at found
    · rename_i spelled
      exact ⟨t.file, by simp, spelled⟩
    · obtain ⟨f, made, same⟩ := m.known p held found
      exact ⟨f, List.mem_append_left _ made, same⟩
  planned := by
    intro f listed
    rcases List.mem_append.1 listed with made | new
    · exact m.planned f made
    · exact ⟨t, mem, by rw [List.mem_singleton.1 new]; rfl⟩

end Put

end Distinct

end Mirrors

/-! ## Both runs, side by side -/

namespace Task

/-- What a recording sink makes of an intent that puts a file on a disk. -/
theorem settle_recording {i : Intent} {real next room : Disk} {t : Task}
    {place : List String} {contents : Contents} (puts : i.Puts real next t.path room place contents)
    (start : Disk) (recorded : Recorded) (files : List ProducedFile)
    (copied : ∀ source, i = .copy source → start.read source = real.read source ∧
      (∃ held, real.read source = some held) ∧ room.locate source ≠ some place) :
    i.settle t.file ⟨⟨start, some recorded⟩, files⟩
      = (.ok (), ⟨⟨start, some (recorded.put t.path contents)⟩, files ++ [t.file]⟩) := by
  have enacted : i.enact t.path ⟨start, some recorded⟩
      = (.ok (), ⟨start, some (recorded.put t.path contents)⟩) := by
    have wanted := puts.wanted
    cases i with
    | pass => cases wanted
    | refuse error => cases wanted
    | write written =>
        cases wanted
        rfl
    | copy source =>
        obtain ⟨same, ⟨held, reads⟩, notItself⟩ := copied source rfl
        simp only [Intent.contents?, puts.put.grows.read reads, Option.map_some,
          if_neg notItself, Option.some.injEq] at wanted
        subst wanted
        simp only [Intent.enact, Sink.copy, same, reads]
        rfl
  simp only [Intent.settle, show t.file.path = t.path from rfl, enacted, puts.produces, if_true]

theorem performAll_files [Readers] {e : Emitter} {ts : List Task} {d : Disk}
    {files : List ProducedFile} {result : Except Failure Unit} {output : Output}
    (ran : (performAll e ts).run ⟨.writing d, files⟩ = (result, output)) :
    files <+: output.files := by
  cases result with
  | ok done =>
      obtain ⟨more, d', rfl, -⟩ := performAll_writing_ok ran
      exact List.prefix_append _ _
  | error failure =>
      obtain ⟨more, d', rfl, -⟩ := performAll_writing_error ran
      exact List.prefix_append _ _

variable [Readers] {e : Emitter} {start : Disk} {tasks : List Task} {produced : List ProducedFile}

/-- A task wants the same of both sinks. -/
theorem intent_recording (steady : Steady start e.folders tasks produced)
    (distinct : Distinct start tasks) {real : Disk} {recorded : Recorded}
    {files : List ProducedFile} (m : Mirrors tasks start real recorded files)
    (made : ∀ f ∈ files, f ∈ produced) {t : Task} (mem : t ∈ tasks) :
    t.intent e ⟨start, some recorded⟩ = t.intent e (.writing real) := by
  have there := m.exists?_eq steady.wellFormed distinct mem
  have wishes : t.wish e.folders real = t.wish e.folders start :=
    wish_congr fun q looked => m.read_eq steady.wellFormed (steady.lookups t mem q looked)
      fun f listed => steady.untouched f (made f listed) t mem q looked
  have held : t.isHeldBack e ⟨start, some recorded⟩ = t.isHeldBack e (.writing real) := by
    simp only [isHeldBack, Emitter.admits, there]
  rw [intent_eq, intent_eq, held]
  show (if _ then _ else t.wish e.folders start) = if _ then _ else t.wish e.folders real
  rw [wishes]

/-- **A run that records goes the way of one that writes, as long as the disk does its
part.** -/
theorem performAll_recording (steady : Steady start e.folders tasks produced)
    (distinct : Distinct start tasks) {ts : List Task} (sub : ∀ t ∈ ts, t ∈ tasks)
    {real : Disk} {recorded : Recorded} {files : List ProducedFile}
    (m : Mirrors tasks start real recorded files) {result : Except Failure Unit}
    {output : Output}
    (ran : (performAll e ts).run ⟨.writing real, files⟩ = (result, output))
    (made : ∀ f ∈ output.files, f ∈ produced)
    (succeeds : ∀ failure, result = .error failure → failure.isOfSink = false) :
    ∃ real' recorded', output = ⟨.writing real', output.files⟩ ∧
      (performAll e ts).run ⟨⟨start, some recorded⟩, files⟩
        = (result, ⟨⟨start, some recorded'⟩, output.files⟩) ∧
      Mirrors tasks start real' recorded' output.files := by
  induction ts generalizing real recorded files with
  | nil =>
      cases ran
      exact ⟨real, recorded, rfl, rfl, m⟩
  | cons t rest ih =>
      have mem := sub t List.mem_cons_self
      have others : ∀ u ∈ rest, u ∈ tasks := fun u inRest => sub u (List.mem_cons_of_mem _ inRest)
      have before : ∀ f ∈ files, f ∈ produced :=
        fun f listed => made f ((performAll_files ran).subset listed)
      have same := intent_recording steady distinct m before mem
      rw [performAll_cons_run] at ran ⊢
      simp only [same]
      cases settled : (t.intent e (.writing real)).settle t.file ⟨.writing real, files⟩ with
      | mk done later =>
      simp only [settled] at ran
      cases done with
      | ok done =>
          simp only at ran
          rcases settle_writing_ok_iff.1 settled with
            ⟨pass, rfl⟩ | ⟨room, place, contents, next, rfl, puts⟩
          · rw [pass, settle_pass]
            exact ih others m ran
          · have listed : t.file ∈ output.files := (performAll_files ran).subset (by simp)
            rw [settle_recording puts start recorded files fun source copies => ?_]
            · exact ih others (m.put steady.wellFormed distinct puts.put mem) ran
            -- what is copied is no file of the run, so it is read as it was and not emptied
            have wish := (wish_of_intent copies (by simp)).2
            obtain ⟨looked, reads⟩ := mem_lookups_of_copy wish
            have apart : ∀ f ∈ output.files,
                start.destination f.path ≠ start.destination source :=
              fun f inFiles => steady.untouched f (made f inFiles) t mem source looked
            refine ⟨(m.read_eq steady.wellFormed (steady.lookups t mem source looked) fun f old =>
              apart f ((performAll_files ran).subset (List.mem_append_left _ old))).symm,
              reads, fun located => apart t.file listed ?_⟩
            have here := puts.put.grows.here.trans m.keeps.here
            rw [← Disk.destination_congr here source, ← Disk.eq_destination_of_locate located]
            exact (m.place_eq puts.put).symm
      | error error =>
          simp only at ran
          cases ran
          obtain ⟨real', rfl, -, refused | failed⟩ := settle_writing_error settled
          · rw [refused] at settled ⊢
            cases settled
            exact ⟨real, recorded, rfl, rfl, m⟩
          · have blame := succeeds _ rfl
            rw [Subject.failure_isOfSink, failed] at blame
            cases blame

end Task

namespace Job

/-! ## The dry run of a job -/

/-- **A dry run reports what the real run reports, leaves the disk alone, and records what the
real run leaves in the files that it reports.** -/
theorem generate_recording [Readers] {job : Job} {backend : Backend} {disk : Disk}
    (given : job.backend = some backend)
    (steady : Steady disk (folders backend) job.tasks (job.produced (.writing disk)))
    (distinct : Distinct disk job.tasks)
    (succeeds : ∀ failure, (job.generate (.writing disk)).1 = .error failure →
      failure.isOfSink = false) :
    (job.generate (.recording disk)).1 = (job.generate (.writing disk)).1 ∧
      (job.generate (.recording disk)).2.disk = disk ∧
      ∀ files, (job.generate (.writing disk)).1 = .ok files → ∀ f ∈ files,
        ∃ recorded contents, (job.generate (.recording disk)).2.recorded = some recorded ∧
          Recorded.find? recorded f.path = some contents ∧
          (job.generate (.writing disk)).2.disk.read f.path = some contents := by
  obtain ⟨description, _, config, now⟩ := job
  cases given
  cases description with
  | none => exact ⟨rfl, rfl, fun files done => by cases done⟩
  | some description =>
      simp only [tasks] at steady distinct
      rw [produced_eq] at steady
      rw [generate_eq] at succeeds ⊢
      rw [generate_eq]
      rcases performed : (Task.performAll (emitter (Sink.writing disk).disk config backend)
        (planBundle now config backend description).tasks).run (Output.start (.writing disk))
        with ⟨result, output⟩
      rw [performed] at steady succeeds
      obtain ⟨real, recorded, wrote, dry, m⟩ := Task.performAll_recording steady distinct
        (fun t mem => mem) (Mirrors.empty steady.wellFormed) performed (fun f listed => listed)
        (by
          rintro failure rfl
          exact succeeds failure rfl)
      have dry : (Task.performAll (emitter (Sink.recording disk).disk config backend)
        (planBundle now config backend description).tasks).run (Output.start (.recording disk))
          = (result, ⟨⟨disk, some recorded⟩, output.files⟩) := dry
      rw [dry]
      refine ⟨by cases result <;> rfl, by cases result <;> rfl, ?_⟩
      intro files done f listed
      cases result with
      | error failure => cases done
      | ok performedAll =>
          obtain ⟨-, -, rfl⟩ := map_eq_ok_iff.1 done
          obtain ⟨contents, found, reads⟩ := m.read_of_listed distinct listed
          rw [wrote]
          exact ⟨recorded, contents, rfl, found, reads⟩

/-- A run that makes one file twice. -/
def repeatingJob : Job :=
  copying ⟨"out"⟩ ⟨"own"⟩ true true [⟨"a.txt", "x.txt", none⟩, ⟨"b.txt", "x.txt", none⟩]

theorem generate_recording_repeated :
    (repeatingJob.generate (.recording stockedDisk)).1
        = (repeatingJob.generate (.writing stockedDisk)).1 ∧
      (repeatingJob.generate (.recording stockedDisk)).2.disk = stockedDisk := by
  have done : (repeatingJob.generate (.writing stockedDisk)).1.toOption
      = some [⟨⟨"out/x.txt"⟩, .supporting⟩, ⟨⟨"out/x.txt"⟩, .supporting⟩,
        ⟨⟨"out/.brrtrouter-codegen-ignore"⟩, .metadata⟩,
        ⟨⟨"out/.brrtrouter-codegen/VERSION"⟩, .metadata⟩] := by
    decide +kernel
  have distinct : Distinct stockedDisk repeatingJob.tasks :=
    { level := by decide +kernel
      apart := by decide +kernel
      alike := by decide +kernel }
  have agree := generate_recording rfl
    (.of_level wellFormed_stockedDisk (by decide +kernel) (by decide +kernel) (by decide +kernel))
    distinct fun failure failed => by
      rw [eq_ok_of_toOption done] at failed
      cases failed
  exact ⟨agree.1, agree.2.1⟩

/-- A run with two spellings of one place. -/
def respellingJob : Job :=
  copying ⟨""⟩ ⟨"own"⟩ false false [⟨"a.txt", "x.txt", none⟩, ⟨"b.txt", "./x.txt", none⟩]

/-- A run with a template that it makes. -/
def selfFeedingJob : Job :=
  copying ⟨"out"⟩ ⟨"own"⟩ false false [⟨"a.txt", "x.txt", none⟩, ⟨"../out/x.txt", "y.txt", none⟩]

/-- A run whose own templates are reached through the output folder. -/
def detourJob : Job :=
  copying ⟨"out"⟩ ⟨"out/../own"⟩ false false [⟨"a.txt", "x.txt", none⟩, ⟨"a.txt", "y.txt", none⟩]

/-- A run that asks for a folder where it has made a file. -/
def slashJob : Job :=
  copying ⟨"out"⟩ ⟨"own"⟩ false false
    [⟨"a.txt", "x.txt", none⟩, ⟨"broken.jinja", "x.txt/", none⟩]

/-- **What is only recorded is not seen under another spelling, is no template and no way to
one, and is seen where a folder is asked for.** -/
theorem dry_run_differs :
    ((respellingJob.generate (.writing stockedDisk)).1.toOption
        = some [⟨⟨"x.txt"⟩, .supporting⟩] ∧
      (respellingJob.generate (.recording stockedDisk)).1.toOption
        = some [⟨⟨"x.txt"⟩, .supporting⟩, ⟨⟨"./x.txt"⟩, .supporting⟩]) ∧
    ((selfFeedingJob.generate (.writing stockedDisk)).1.toOption
        = some [⟨⟨"out/x.txt"⟩, .supporting⟩, ⟨⟨"out/y.txt"⟩, .supporting⟩] ∧
      (selfFeedingJob.generate (.recording stockedDisk)).1.toOption
        = some [⟨⟨"out/x.txt"⟩, .supporting⟩]) ∧
    ((detourJob.generate (.writing stockedDisk)).2.disk.read ⟨"out/y.txt"⟩ = some (.text "A") ∧
      (detourJob.generate (.recording stockedDisk)).2.recorded
        = some [(⟨"out/x.txt"⟩, .text "B"), (⟨"out/y.txt"⟩, .text "B")]) ∧
    ((slashJob.generate (.writing stockedDisk)).1.toOption = none ∧
      (slashJob.generate (.recording stockedDisk)).1.toOption
        = some [⟨⟨"out/x.txt"⟩, .supporting⟩]) := by
  decide +kernel

end Job

end ApiForge
