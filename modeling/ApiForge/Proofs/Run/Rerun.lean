import ApiForge.Proofs.Except
import ApiForge.Proofs.Ignore.Comments
import ApiForge.Proofs.Output.Look
import ApiForge.Proofs.Run.Plan
import ApiForge.Readers.Standard
/-
# ApiForge.Proofs.Run.Rerun -- a run done again

A run that is done again finds what the first one left.  Its disk stays beside that of the
first run (`Follows`): at every place it holds what the first run left in the end, or what
the first run has there now.  A file that the second run does not replace was new to the
first run, so nobody had made it before; and a file that it replaces gets the same contents
(`Trace.repeats`).  The rules of the second run allow what those of the first did, for an
ignore file that the first run left says nothing (`settled_of_trace`).
-/

namespace ApiForge

set_option autoImplicit false

/-! ## Two runs, side by side -/

/-- Beside a disk of the first run and the disk that it left: a disk of the second run. -/
structure Follows (first final again : Disk) : Prop where
  wellFormed : again.WellFormed
  forth : Disk.Keeps final again
  back : Disk.Keeps again final
  between : ∀ name, again.nodes.get? name = final.nodes.get? name ∨
    (again.nodes.get? name = first.nodes.get? name ∧ first.nodes.get? name ≠ none)

namespace Follows

variable {first final again : Disk}

/-- The second run starts with what the first run left. -/
theorem start (wf : final.WellFormed) : Follows first final final :=
  ⟨wf, Disk.Keeps.refl final, Disk.Keeps.refl final, fun _ => Or.inl rfl⟩

/-- When the first run is done the second has left the same. -/
theorem eq_of_done (f : Follows final final again) : again = final := by
  obtain ⟨place, nodes⟩ := again
  obtain ⟨place', nodes'⟩ := final
  have here : place = place' := f.forth.here
  have same : nodes = nodes' := Dict.ext_get? fun name => (f.between name).elim id And.left
  rw [here, same]

/-- What reads the same before and after the first run reads the same in the second. -/
theorem read_eq (f : Follows first final again) (keeps : Disk.Keeps first final)
    (wf : first.WellFormed) (wfFinal : final.WellFormed) {q : Path} (anchored : first.Anchored q)
    (same : final.read q = first.read q) : again.read q = first.read q := by
  have agree : again.node? (first.destination q) = final.node? (first.destination q) ∨
      again.node? (first.destination q) = first.node? (first.destination q) := by
    by_cases root : first.destination q = []
    · rw [root]
      exact Or.inl rfl
    · simp only [Disk.node?_of_ne_nil _ root]
      exact (f.between _).imp id And.left
  rcases agree with left | now
  · rw [← same]
    refine f.forth.read_eq wfFinal f.wellFormed (keeps.anchored anchored) (Or.inl ?_)
    rw [Disk.destination_congr keeps.here]
    exact left
  · exact (keeps.trans f.forth).read_eq wf f.wellFormed anchored (Or.inl now)

/-- When the second run leaves a file alone that is new to the first run, it has what the
first run left there. -/
theorem of_skipped {room next : Disk} {p : Path} {place : List String} {contents : Contents}
    (f : Follows first final again) (put : Disk.Put first room next p place contents)
    (missing : first.nodes.get? (Disk.placeName place) = none) : Follows next final again where
  wellFormed := f.wellFormed
  forth := f.forth
  back := f.back
  between := by
    intro name
    rcases f.between name with left | ⟨now, stood⟩
    · exact Or.inl left
    · have elsewhere : Disk.placeName place ≠ name := fun here => stood (here ▸ missing)
      have kept : next.nodes.get? name = first.nodes.get? name := by
        rw [put.get?, if_neg elsewhere]
        exact (put.grows.nodes name).elim id fun new => absurd new.1 stood
      exact Or.inr ⟨now.trans kept.symm, kept ▸ stood⟩

/-- When both runs put the same into a file, the second is beside the first again. -/
theorem of_put {room next : Disk} {p : Path} {place : List String} {contents : Contents}
    (f : Follows first final again) (put : Disk.Put first room next p place contents)
    (later : Disk.Keeps next final)
    (put' : Disk.Put again again (again.set place (.file contents)) p place contents) :
    Follows next final (again.set place (.file contents)) where
  wellFormed := put'.wellFormed f.wellFormed
  forth := f.forth.trans put'.keeps
  back := by
    have stands : next.nodes.get? (Disk.placeName place) = some (.file contents) := by
      rw [put.get?, if_pos rfl]
    refine ⟨f.back.here, fun name folder => ?_, fun name held file => ?_⟩
    · rw [put'.get?] at folder
      split at folder
      · cases folder
      · exact f.back.folder name folder
    · rw [put'.get?] at file
      split at file
      · rename_i here
        exact later.file name contents (here ▸ stands)
      · exact f.back.file name held file
  between := by
    intro name
    by_cases here : Disk.placeName place = name
    · rw [put'.get?, put.get?, if_pos here, if_pos here]
      exact Or.inr ⟨rfl, by simp⟩
    · rw [put'.get?, put.get?, if_neg here, if_neg here]
      rcases f.between name with left | ⟨now, stood⟩
      · exact Or.inl left
      · have kept := (put.grows.nodes name).elim id fun new => absurd new.1 stood
        exact Or.inr ⟨now.trans kept.symm, kept ▸ stood⟩

end Follows

theorem Steady.transport {d d' : Disk} {folders : TemplateFolders} {tasks : List Task}
    {produced : List ProducedFile} (steady : Steady d folders tasks produced)
    (keeps : Disk.Keeps d d') (wf : d'.WellFormed) : Steady d' folders tasks produced where
  wellFormed := wf
  destinations := fun t mem => keeps.anchored (steady.destinations t mem)
  lookups := fun t mem q looked => keeps.anchored (steady.lookups t mem q looked)
  untouched := fun f made t mem q looked => by
    rw [Disk.destination_congr keeps.here, Disk.destination_congr keeps.here]
    exact steady.untouched f made t mem q looked

namespace Task

/-- A file that no reported task leads to reads the same all along. -/
theorem Trace.read_eq [Readers] {e : Emitter} {d d' : Disk} {ts : List Task}
    {files : List ProducedFile} (trace : Trace e d ts files d') (wf : d.WellFormed) {q : Path} (anchored : d.Anchored q)
    (untouched : ∀ f ∈ files, d.destination f.path ≠ d.destination q) : d'.read q = d.read q := by
  refine trace.keeps.read_eq wf (trace.wellFormed wf) anchored ?_
  by_cases root : d.destination q = []
  · rw [root]
    exact Or.inl rfl
  rw [Disk.node?_of_ne_nil _ root, Disk.node?_of_ne_nil _ root]
  rcases trace.changed (Disk.placeName (d.destination q)) with same | new | ⟨t, -, listed, ⟨w⟩⟩
  · exact Or.inl same
  · exact Or.inr new
  · exact absurd (w.destination_eq wf) (untouched t.file listed)

/-- What was put once can be put again, with the same contents. -/
theorem puts_again {i : Intent} {first room next again : Disk} {p : Path}
    {place : List String} {contents : Contents} (puts : i.Puts first next p room place contents)
    (keeps : Disk.Keeps next again)
    (copied : ∀ source, i = .copy source → again.read source = first.read source ∧
      (∃ held, first.read source = some held) ∧ first.destination source ≠ place) :
    i.Puts again (again.set place (.file contents)) p again place contents where
  put := by
    obtain ⟨held, stands⟩ := keeps.node?_file puts.put.node
    have leads := Disk.filePlace_eq_some_iff.1 puts.put.leads
    refine ⟨Disk.makeRoom_again puts.put.made (puts.put.keeps_room.trans keeps), ?_, rfl⟩
    refine Disk.filePlace_eq_some_iff.2 ⟨keeps.locate puts.put.located, ?_, leads.2.2⟩
    simp [Disk.isFolderAt, stands]
  wanted := by
    have wanted := puts.wanted
    cases i with
    | pass => cases wanted
    | refuse error => cases wanted
    | write written => exact wanted
    | copy source =>
        obtain ⟨same, ⟨held, reads⟩, elsewhere⟩ := copied source rfl
        have notItself {d : Disk} (here : d.here = first.here) :
            d.locate source ≠ some place := fun located => elsewhere (by
          rw [← Disk.destination_congr here, ← Disk.eq_destination_of_locate located])
        have hereAgain : again.here = first.here := keeps.here.trans puts.put.keeps.here
        simp only [Intent.contents?, puts.put.grows.read reads, Option.map_some,
          if_neg (notItself puts.put.grows.here)] at wanted
        simp only [Intent.contents?, same, reads, Option.map_some, if_neg (notItself hereAgain)]
        exact wanted

section Again

variable [Readers] {e e' : Emitter} {tasks : List Task} {produced : List ProducedFile}
  {first final again : Disk} {ts : List Task} {files : List ProducedFile}

/-- A task is made from the same where a steady run is done again. -/
theorem Trace.reads_again (trace : Trace e first ts files final)
    (steady : Steady first e.folders tasks produced) (made : ∀ f ∈ files, f ∈ produced)
    (follows : Follows first final again) {t : Task} (mem : t ∈ tasks) :
    ∀ q ∈ t.lookups e.folders, again.read q = first.read q := by
  intro q looked
  have anchored := steady.lookups t mem q looked
  refine follows.read_eq trace.keeps steady.wellFormed (trace.wellFormed steady.wellFormed)
    anchored ?_
  exact trace.read_eq steady.wellFormed anchored fun f listed =>
    steady.untouched f (made f listed) t mem q looked

/-- What is passed over is passed over again. -/
theorem pass_again (alike : e.Alike e') {t : Task} (keeps : Disk.Keeps first again)
    (reads : ∀ q ∈ t.lookups e.folders, again.read q = first.read q)
    (pass : t.intent e (.writing first) = .pass) : t.intent e' (.writing again) = .pass := by
  have there (present : (Sink.writing first).exists? t.path = true) :
      (Sink.writing again).exists? t.path = true := by
    rw [Sink.exists?_writing] at present ⊢
    exact keeps.exists? present
  have wishes : t.wish e'.folders again = t.wish e.folders first := by
    rw [alike.folders, wish_congr reads]
  rw [intent_eq] at pass ⊢
  cases held : t.isHeldBack e (.writing first) with
  | true => rw [if_pos (isHeldBack_mono alike there held)]
  | false =>
      rw [held, if_neg Bool.false_ne_true] at pass
      split
      · rfl
      · exact wishes.trans pass

/-- A file that was put and is left alone now was not there before. -/
theorem missing_of_held (alike : e.Alike e') {t : Task} {room next : Disk}
    {place : List String} {contents : Contents} (wf : first.WellFormed)
    (anchored : first.Anchored t.path)
    (puts : (t.intent e (.writing first)).Puts first next t.path room place contents)
    (held : t.isHeldBack e' (.writing again) = true) :
    first.nodes.get? (Disk.placeName place) = none := by
  have absent := absent_of_isHeldBack alike (wish_of_intent rfl puts.ne_pass).1 held
  have nonempty := Path.isEmpty_text puts.put.asksFile
  rw [Sink.exists?_writing, Disk.exists?_of_anchored wf anchored, nonempty, puts.put.asksFile,
    ← puts.put.place_eq, Disk.node?_of_ne_nil _ puts.put.place_ne] at absent
  simpa using absent

/-- **A steady run that is done again leaves what it left the first time.** -/
theorem Trace.repeats (alike : e.Alike e') (trace : Trace e first ts files final)
    (steady : Steady first e.folders tasks produced) (sub : ∀ t ∈ ts, t ∈ tasks)
    (made : ∀ f ∈ files, f ∈ produced) (follows : Follows first final again) :
    ∃ files', Trace e' again ts files' final := by
  induction trace generalizing again with
  | done d => exact ⟨[], follows.eq_of_done ▸ .done _⟩
  | @pass d final t rest files pass trace ih =>
      have reads := trace.reads_again steady made follows (sub t List.mem_cons_self)
      have passed := pass_again alike (trace.keeps.trans follows.forth) reads pass
      obtain ⟨files', others⟩ := ih steady
        (fun u inRest => sub u (List.mem_cons_of_mem _ inRest)) made follows
      exact ⟨files', .pass passed others⟩
  | @put d next final room place contents t rest files puts trace ih =>
      have mem := sub t List.mem_cons_self
      have others : ∀ u ∈ rest, u ∈ tasks := fun u inRest => sub u (List.mem_cons_of_mem _ inRest)
      have listed : ∀ f ∈ files, f ∈ produced :=
        fun f inRest => made f (List.mem_cons_of_mem _ inRest)
      have steadyNext : Steady next e.folders tasks produced :=
        steady.transport puts.put.keeps (puts.put.wellFormed steady.wellFormed)
      cases held : t.isHeldBack e' (.writing again) with
      | true =>
          have anchored := steady.destinations t mem
          have missing := missing_of_held alike steady.wellFormed anchored puts held
          obtain ⟨files', rest'⟩ :=
            ih steadyNext others listed (follows.of_skipped puts.put missing)
          exact ⟨files', .pass (by rw [intent_eq, held, if_pos rfl]) rest'⟩
      | false =>
          have reads := (Trace.put puts trace).reads_again steady made follows mem
          have wish := (wish_of_intent rfl puts.ne_pass).2
          have intent : t.intent e' (.writing again) = t.intent e (.writing d) := by
            rw [intent_eq, held, if_neg Bool.false_ne_true, ← wish, alike.folders]
            exact wish_congr reads
          have puts' := puts_again puts (trace.keeps.trans follows.forth) fun source copies => by
            obtain ⟨looked, there⟩ := mem_lookups_of_copy (wish.trans copies)
            refine ⟨reads source looked, there, fun same => ?_⟩
            refine steady.untouched t.file (made _ List.mem_cons_self) t mem source looked ?_
            rw [same, puts.put.place_eq]
            rfl
          obtain ⟨files', rest'⟩ :=
            ih steadyNext others listed (follows.of_put puts.put trace.keeps puts'.put)
          exact ⟨t.file :: files', .put (intent ▸ puts') rest'⟩

end Again

/-- What is stamped once was not there before. -/
theorem Wrote.absent_of_stampOnce [Readers] {e : Emitter} {d d' : Disk} {t : Task}
    {name text : String} (w : Wrote e d d' t name) (making : t.making = .stampOnce text) :
    d.exists? t.path = false := by
  cases present : d.exists? t.path with
  | false => rfl
  | true =>
      have made := w.puts.produces
      simp only [intent, making, Sink.exists?_writing, w.earlier.exists? present] at made
      cases made

theorem Wrote.contents_of_stampOnce [Readers] {e : Emitter} {d d' : Disk} {t : Task}
    {name text : String} (w : Wrote e d d' t name) (making : t.making = .stampOnce text) :
    w.contents = .text text := by
  have wanted := w.puts.wanted
  simp only [intent, making] at wanted
  split at wanted
  · cases wanted
  · exact (Option.some.inj wanted).symm

end Task

/-! ## The rules of the second run -/

namespace Job

/-- Where the rules of a run are read from. -/
def ruleSources (config : Config) (backend : Backend) : List Path :=
  IgnoreRules.sources backend.layout.outputFolder (config.ignoreFile.or backend.layout.ignoreFile)

/-- No rule file is the destination of a task but that of the ignore file itself. -/
structure RulesApart (disk : Disk) (config : Config) (backend : Backend) (tasks : List Task) :
    Prop where
  anchored : ∀ q ∈ ruleSources config backend, disk.Anchored q
  apart : ∀ q ∈ ruleSources config backend, ∀ t ∈ tasks, t.category ≠ .metadata →
    disk.destination t.path ≠ disk.destination q
  version : ∀ given, config.ignoreFile.or backend.layout.ignoreFile = some given →
    disk.destination (Product.versionFilePath backend.layout.outputFolder)
      ≠ disk.destination given

theorem RulesApart.of_level {disk : Disk} {config : Config} {backend : Backend}
    {tasks : List Task} (level : ∀ q ∈ ruleSources config backend, q.climbs = false)
    (apart : ∀ q ∈ ruleSources config backend, ∀ t ∈ tasks, t.category ≠ .metadata →
      disk.destination t.path ≠ disk.destination q)
    (version : ∀ given, config.ignoreFile.or backend.layout.ignoreFile = some given →
      disk.destination (Product.versionFilePath backend.layout.outputFolder)
        ≠ disk.destination given) : RulesApart disk config backend tasks where
  anchored := fun q mem => disk.anchored_of_level (level q mem)
  apart := apart
  version := version

/-- The stamp of the version is not put where the ignore file belongs. -/
theorem destination_version_ne (disk : Disk) (output : Path) :
    disk.destination (Product.versionFilePath output)
      ≠ disk.destination (Product.ignoreFilePath output) := by
  have stamp : (Product.versionFilePath output).names
      = (output.join Product.metadataFolder).names ++ ["VERSION"] :=
    Path.names_join _ (by decide)
  have own : (Product.ignoreFilePath output).names
      = output.names ++ [".brrtrouter-codegen-ignore"] :=
    Path.names_join _ (by decide)
  intro same
  rw [Disk.destination, Disk.destination, stamp, own, List.foldl_append, List.foldl_append] at same
  simp [Disk.climb] at same

section Rerun

variable [Readers] {config : Config} {backend : Backend} {disk final : Disk}
  {files : List ProducedFile}

/-- A rule file that a run makes stands where there had been none. -/
theorem settled_of_stamp {e : Emitter} {t : Task} {q root : Path} {text : String}
    (wf : disk.WellFormed) (wfFinal : final.WellFormed) (keeps : Disk.Keeps disk final)
    (anchored : disk.Anchored q) (own : disk.Anchored (Product.ignoreFilePath root))
    (path : t.path = Product.ignoreFilePath root) (making : t.making = .stampOnce text)
    (only : Ignore.OnlyComments text)
    (w : Task.Wrote e disk final t (Disk.placeName (disk.destination q))) :
    IgnoreRules.Settled disk final root q := by
  have there : disk.destination (Product.ignoreFilePath root) = disk.destination q :=
    path ▸ w.destination_eq wf
  have missing : disk.node? (disk.destination q) = none := by
    have absent := w.absent_of_stampOnce making
    rw [path, Disk.exists?_of_anchored wf own, there, ← path, w.puts.put.asksFile] at absent
    simpa [Path.isEmpty_text w.puts.put.asksFile] using absent
  have stands : final.contentsAt (disk.destination q) = some (.text text) := by
    have nonempty : disk.destination q ≠ [] := by
      rw [← w.destination_eq wf, ← w.place_eq]
      exact w.puts.put.place_ne
    rw [Disk.contentsAt, Disk.node?_of_ne_nil _ nonempty, w.stands,
      w.contents_of_stampOnce making]
  have unread {p : Path} (anchored : disk.Anchored p)
      (here : disk.destination p = disk.destination q) : disk.readText p = none := by
    rw [Disk.readText, Disk.read_of_anchored wf anchored, here, Disk.contentsAt, missing, ite_self]
    rfl
  have now : final.readText q = if q.text.isEmpty || q.asksFolder then none else some text := by
    rw [Disk.readText, Disk.read_of_anchored wfFinal (keeps.anchored anchored),
      Disk.destination_congr keeps.here, stands]
    split <;> rfl
  by_cases folder : (q.text.isEmpty || q.asksFolder) = true
  · exact Or.inl (by rw [now, if_pos folder, unread anchored rfl])
  · rw [if_neg folder] at now
    exact Or.inr ⟨unread anchored rfl, unread own there, text, now, only⟩

/-- **A run leaves the rule files as they were, or makes one that says nothing where there had
been none.** -/
theorem settled_of_trace {tasks : List Task}
    (trace : Task.Trace (emitter disk config backend) disk tasks files final)
    (wf : disk.WellFormed) (rules : RulesApart disk config backend tasks)
    (planned : ∀ t ∈ tasks, t.Asks ∨ t ∈ stampTasks backend.layout.outputFolder) :
    ∀ q ∈ ruleSources config backend,
      IgnoreRules.Settled disk final backend.layout.outputFolder q := by
  intro q mem
  have anchored := rules.anchored q mem
  have wfFinal := trace.wellFormed wf
  have kept (agree : final.node? (disk.destination q) = disk.node? (disk.destination q) ∨
      (disk.node? (disk.destination q) = none ∧
        final.node? (disk.destination q) = some .folder)) :
      IgnoreRules.Settled disk final backend.layout.outputFolder q := by
    have reads := trace.keeps.read_eq wf wfFinal anchored agree
    exact Or.inl (by rw [Disk.readText, reads, Disk.readText])
  by_cases root : disk.destination q = []
  · exact kept (Or.inl (by rw [root]; rfl))
  simp only [Disk.node?_of_ne_nil _ root] at kept
  rcases trace.changed (Disk.placeName (disk.destination q)) with
    same | new | ⟨t, inTasks, -, ⟨w⟩⟩
  · exact kept (Or.inl same)
  · exact kept (Or.inr new)
  have there := w.destination_eq wf
  rcases planned t inTasks with asks | stamp
  · exact absurd there (rules.apart q mem t inTasks asks.category)
  simp only [stampTasks, List.mem_cons, List.not_mem_nil, or_false] at stamp
  rcases stamp with rfl | rfl
  · have own := rules.anchored _ (List.mem_append_right _ List.mem_cons_self)
    exact settled_of_stamp wf wfFinal trace.keeps anchored own rfl rfl
      Ignore.onlyComments_ignoreFileText w
  · rcases List.mem_append.1 mem with given | isOwn
    · exact absurd there (rules.version q (Option.mem_toList.1 given))
    · rw [List.mem_singleton.1 isOwn] at there
      exact absurd there (destination_version_ne disk _)

/-- **A run that succeeds and is done again succeeds again and leaves the disk as it is.** -/
theorem generate_repeats (skips : Readers.SkipsComments) {job : Job}
    (given : job.backend = some backend) (done : (job.generate (.writing disk)).1 = .ok files)
    (steady : Steady disk (folders backend) job.tasks files)
    (rules : RulesApart disk job.config backend job.tasks) :
    ∃ files', job.generate (job.generate (.writing disk)).2
      = (.ok files', (job.generate (.writing disk)).2) := by
  obtain ⟨description, _, config, now⟩ := job
  cases given
  cases description with
  | none => cases done
  | some description =>
      obtain ⟨final, left, ⟨ran⟩⟩ := generate_writing now config backend description disk
      obtain ⟨bundle, planned⟩ := outcome_of_generate now config backend description _ done
      obtain ⟨rfl, whole, same⟩ := ran.whole files done
      have trace := ran.trace
      rw [whole, same] at trace
      have settled := settled_of_trace trace steady.wellFormed rules
        (asks_or_mem_stampTasks now config backend description)
      have alike : (emitter disk config backend).Alike (emitter final config backend) :=
        { folders := rfl
          overwrite := rfl
          allows := IgnoreRules.load_allows skips settled }
      obtain ⟨files', again⟩ := trace.repeats alike steady (fun _ mem => mem) (fun _ mem => mem)
        (.start (trace.wellFormed steady.wellFormed))
      refine ⟨files', ?_⟩
      rw [left, generate_eq]
      simp only [Output.start, show (Sink.writing final).disk = final from rfl,
        again.performAll, planned]
      rfl

end Rerun

/-- A run that copies one file. -/
def copyingOnce : Job := copying ⟨"out"⟩ ⟨"own"⟩ true true [⟨"a.txt", "x.txt", none⟩]

theorem generate_repeats_copying :
    ∃ files, copyingOnce.generate (copyingOnce.generate (.writing stockedDisk)).2
      = (.ok files, (copyingOnce.generate (.writing stockedDisk)).2) := by
  have done : (copyingOnce.generate (.writing stockedDisk)).1.toOption
      = some [⟨⟨"out/x.txt"⟩, .supporting⟩,
        ⟨⟨"out/.brrtrouter-codegen-ignore"⟩, .metadata⟩,
        ⟨⟨"out/.brrtrouter-codegen/VERSION"⟩, .metadata⟩] := by
    decide +kernel
  exact generate_repeats skipsComments_standard rfl (eq_ok_of_toOption done)
    (.of_level wellFormed_stockedDisk (by decide +kernel) (by decide +kernel) (by decide +kernel))
    (.of_level (by decide +kernel) (by decide +kernel) (by rintro given ⟨⟩))

/-- A run whose own templates are reached through the output folder. -/
def roundaboutCopy : Job :=
  copying ⟨"out"⟩ ⟨"out/../own"⟩ true false [⟨"a.txt", "x.txt", none⟩]

/-- A run with a file that is made from the next one. -/
def backwardCopy : Job :=
  copying ⟨"out"⟩ ⟨"own"⟩ true false [⟨"../out/x.txt", "y.txt", none⟩, ⟨"a.txt", "x.txt", none⟩]

/-- **What a first run makes opens ways to other templates for the second.** -/
theorem second_run_finds_more :
    ((roundaboutCopy.generate (.writing stockedDisk)).1.toOption
        = some [⟨⟨"out/x.txt"⟩, .supporting⟩] ∧
      (roundaboutCopy.generate (.writing stockedDisk)).2.disk.read ⟨"out/x.txt"⟩
        = some (.text "B") ∧
      (roundaboutCopy.generate (roundaboutCopy.generate (.writing stockedDisk)).2).2.disk.read
        ⟨"out/x.txt"⟩ = some (.text "A")) ∧
    ((backwardCopy.generate (.writing stockedDisk)).1.toOption
        = some [⟨⟨"out/x.txt"⟩, .supporting⟩] ∧
      (backwardCopy.generate (.writing stockedDisk)).2.disk.read ⟨"out/y.txt"⟩ = none ∧
      (backwardCopy.generate (backwardCopy.generate (.writing stockedDisk)).2).2.disk.read
        ⟨"out/y.txt"⟩ = some (.text "A")) := by
  decide +kernel

end Job

end ApiForge
