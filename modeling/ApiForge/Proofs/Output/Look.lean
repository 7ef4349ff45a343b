import ApiForge.Proofs.Output.Trace
/-
# ApiForge.Proofs.Output.Look -- what a task looks at

A task looks at two things: whether its file is there, which may hold it back
(`Task.isHeldBack`), and the files of the template folders that it is made from
(`Task.lookups`), which decide what it wants otherwise (`Task.wish`).  Disks that hold the
same files there make it want the same (`wish_congr`), and a file that is there rather than
not can only hold it back (`isHeldBack_mono`).
-/

namespace ApiForge

set_option autoImplicit false

/-! ## The template folders -/

namespace TemplateFolders

variable {folders : TemplateFolders} {d d' : Disk} {name : String}

/-- The paths where a file of that name is looked for. -/
def lookups (folders : TemplateFolders) (name : String) : List Path :=
  folders.own.join name :: (folders.shared.map (·.join name)).toList

theorem isFile_congr {q : Path} (same : d'.read q = d.read q) : d'.isFile q = d.isFile q := by
  rw [Bool.eq_iff_iff, Disk.isFile_iff, Disk.isFile_iff, same]

theorem locate_congr (same : ∀ q ∈ folders.lookups name, d'.read q = d.read q) :
    folders.locate d' name = folders.locate d name := by
  have own := isFile_congr (same _ List.mem_cons_self)
  simp only [locate, own]
  cases shared : folders.shared with
  | none => rfl
  | some folder =>
      have other := isFile_congr (same (folder.join name) (by simp [lookups, shared]))
      simp [Option.filter, other]

theorem mem_lookups_of_locate {q : Path} (found : folders.locate d name = some q) :
    q ∈ folders.lookups name ∧ d.isFile q = true := by
  simp only [locate] at found
  split at found
  · rename_i file
    cases found
    exact ⟨List.mem_cons_self, file⟩
  · obtain ⟨mapped, file⟩ := Option.filter_eq_some_iff.1 found
    exact ⟨List.mem_cons_of_mem _ (by simp [mapped]), file⟩

theorem render_congr [Readers] {context : Context}
    (same : ∀ q ∈ folders.lookups name, d'.read q = d.read q) :
    folders.render d' name context = folders.render d name context := by
  simp only [render, locate_congr same]
  cases found : folders.locate d name with
  | none => rfl
  | some q => simp only [renderAt, Disk.readText, same q (mem_lookups_of_locate found).1]

end TemplateFolders

/-! ## The gate -/

/-- Only what the rules say about the path counts. -/
theorem decideWrite_congr {rules rules' : IgnoreRules} {path : Path}
    (allows : rules'.allows path = rules.allows path) (category : FileCategory)
    (present : Bool) (overwrite : Path → Bool) :
    decideWrite rules' path category present overwrite
      = decideWrite rules path category present overwrite := by
  simp only [decideWrite, allows]

/-- A file that is there is written at most where one that is not would be. -/
theorem decideWrite_of_present {rules : IgnoreRules} {path : Path} {category : FileCategory}
    {overwrite : Path → Bool} (passes : decideWrite rules path category true overwrite = .write)
    (present : Bool) : decideWrite rules path category present overwrite = .write := by
  cases present with
  | true => exact passes
  | false =>
      simp only [decideWrite] at passes ⊢
      split
      · rfl
      · rename_i notStamp
        rw [if_neg notStamp] at passes
        split
        · rename_i ignored
          rw [if_pos ignored] at passes
          cases passes
        · rfl

/-- Emitters with the same folders and the same wish to replace, whose rules allow the
same. -/
structure Emitter.Alike (e e' : Emitter) : Prop where
  folders : e'.folders = e.folders
  overwrite : e'.overwrite = e.overwrite
  allows : ∀ path, e'.rules.allows path = e.rules.allows path

namespace Task

/-! ## What holds a task back -/

/-- Is the file left alone, whatever would go into it? -/
def isHeldBack (e : Emitter) (sink : Sink) (t : Task) : Bool :=
  match t.making with
  | .render _ _ => !e.admits sink t.path t.category
  | .provide _ _ => !e.admits sink t.path t.category
  | .stamp _ => false
  | .stampOnce _ => sink.exists? t.path

/-- What a task wants that nothing holds back. -/
def wish [Readers] (folders : TemplateFolders) (disk : Disk) (t : Task) : Intent :=
  match t.making with
  | .render template context => .ofTemplate folders disk template context
  | .provide name context =>
    match folders.locate disk name with
    | none => .pass
    | some source =>
      if TemplateFolders.isTemplate name then .ofTemplate folders disk name context
      else .copy source
  | .stamp text => .write (.text text)
  | .stampOnce text => .write (.text text)

theorem intent_eq [Readers] (e : Emitter) (sink : Sink) (t : Task) :
    t.intent e sink = if t.isHeldBack e sink then .pass else t.wish e.folders sink.disk := by
  obtain ⟨subject, path, category, making⟩ := t
  cases making with
  | render template context =>
      simp only [intent, isHeldBack, wish, Intent.ofRender]
      by_cases admitted : e.admits sink path category = true <;> simp [admitted]
  | provide name context =>
      simp only [intent, isHeldBack, wish, Intent.ofRender, Intent.ofCopy]
      by_cases admitted : e.admits sink path category = true <;>
        cases e.folders.locate sink.disk name <;> simp [admitted]
  | stamp text => rfl
  | stampOnce text => rfl

/-- What a task wants besides passing its file over is its wish. -/
theorem wish_of_intent [Readers] {e : Emitter} {sink : Sink} {t : Task} {i : Intent}
    (wants : t.intent e sink = i) (active : i ≠ .pass) :
    t.isHeldBack e sink = false ∧ t.wish e.folders sink.disk = i := by
  rw [intent_eq] at wants
  cases held : t.isHeldBack e sink with
  | true =>
      rw [held, if_pos rfl] at wants
      exact absurd wants.symm active
  | false =>
      rw [held, if_neg Bool.false_ne_true] at wants
      exact ⟨rfl, wants⟩

/-- The paths where a task looks for what its file is made from. -/
def lookups (folders : TemplateFolders) (t : Task) : List Path :=
  match t.making with
  | .render template _ => folders.lookups template
  | .provide name _ => folders.lookups name
  | .stamp _ => []
  | .stampOnce _ => []

theorem wish_congr [Readers] {folders : TemplateFolders} {d d' : Disk} {t : Task}
    (same : ∀ q ∈ t.lookups folders, d'.read q = d.read q) :
    t.wish folders d' = t.wish folders d := by
  simp only [wish, Intent.ofTemplate, lookups] at same ⊢
  cases making : t.making with
  | render template context =>
      simp only [making] at same
      simp only [TemplateFolders.render_congr same]
  | provide name context =>
      simp only [making] at same
      simp only [TemplateFolders.render_congr same, TemplateFolders.locate_congr same]
  | stamp text => rfl
  | stampOnce text => rfl

/-- What is copied stands where the task looks. -/
theorem mem_lookups_of_copy [Readers] {folders : TemplateFolders} {d : Disk} {t : Task}
    {source : Path} (copies : t.wish folders d = .copy source) :
    source ∈ t.lookups folders ∧ ∃ contents, d.read source = some contents := by
  simp only [wish, Intent.ofTemplate, lookups] at copies ⊢
  split at copies
  · exact absurd copies (Intent.ofRendered_ne_copy _ _)
  · split at copies
    · cases copies
    · rename_i found
      split at copies
      · exact absurd copies (Intent.ofRendered_ne_copy _ _)
      · cases copies
        obtain ⟨looked, file⟩ := TemplateFolders.mem_lookups_of_locate found
        exact ⟨looked, Disk.isFile_iff.1 file⟩
  · cases copies
  · cases copies

variable {e e' : Emitter} {sink sink' : Sink} {t : Task}

/-- What holds a task back goes on holding it back when its file is there. -/
theorem isHeldBack_mono (alike : e.Alike e')
    (there : sink.exists? t.path = true → sink'.exists? t.path = true)
    (held : t.isHeldBack e sink = true) : t.isHeldBack e' sink' = true := by
  have gate (refused : e.admits sink t.path t.category = false) :
      e'.admits sink' t.path t.category = false := by
    simp only [Emitter.admits, alike.overwrite, decideWrite_congr (alike.allows t.path),
      decide_eq_false_iff_not] at refused ⊢
    intro passes
    cases present : sink.exists? t.path with
    | true =>
        rw [there present] at passes
        exact refused (present ▸ passes)
    | false =>
        rw [present] at refused
        cases present' : sink'.exists? t.path with
        | true => exact refused (decideWrite_of_present (present' ▸ passes) false)
        | false => exact refused (present' ▸ passes)
  simp only [isHeldBack] at held ⊢
  cases making : t.making with
  | render template context =>
      simp only [making, Bool.not_eq_true'] at held ⊢
      exact gate held
  | provide name context =>
      simp only [making, Bool.not_eq_true'] at held ⊢
      exact gate held
  | stamp text =>
      simp only [making] at held
      cases held
  | stampOnce text =>
      simp only [making] at held ⊢
      exact there held

/-- A task that is held back where it was not has its file there, and had it not. -/
theorem absent_of_isHeldBack (alike : e.Alike e') (free : t.isHeldBack e sink = false)
    (held : t.isHeldBack e' sink' = true) : sink.exists? t.path = false := by
  cases present : sink.exists? t.path with
  | false => rfl
  | true =>
      have gate (passes : e.admits sink t.path t.category = true) :
          e'.admits sink' t.path t.category = true := by
        simp only [Emitter.admits, alike.overwrite, decideWrite_congr (alike.allows t.path),
          decide_eq_true_eq, present] at passes ⊢
        exact decideWrite_of_present passes _
      simp only [isHeldBack] at free held
      cases making : t.making with
      | render template context =>
          simp only [making, Bool.not_eq_false'] at free
          simp [making, gate free] at held
      | provide name context =>
          simp only [making, Bool.not_eq_false'] at free
          simp [making, gate free] at held
      | stamp text =>
          simp only [making] at held
          cases held
      | stampOnce text =>
          simp only [making] at free
          rw [present] at free
          cases free

end Task

/-! ## Runs whose paths stay put -/

/-- No path goes back up out of a folder that is missing, and no file that is made is one
that a task is made from. -/
structure Steady (disk : Disk) (folders : TemplateFolders) (tasks : List Task)
    (produced : List ProducedFile) : Prop where
  wellFormed : disk.WellFormed
  destinations : ∀ t ∈ tasks, disk.Anchored t.path
  lookups : ∀ t ∈ tasks, ∀ q ∈ t.lookups folders, disk.Anchored q
  untouched : ∀ f ∈ produced, ∀ t ∈ tasks, ∀ q ∈ t.lookups folders,
    disk.destination f.path ≠ disk.destination q

/-- Paths that never go back up ask nothing of the folders that are there. -/
theorem Steady.of_level {disk : Disk} {folders : TemplateFolders} {tasks : List Task}
    {produced : List ProducedFile} (wf : disk.WellFormed)
    (destinations : ∀ t ∈ tasks, t.path.climbs = false)
    (lookups : ∀ t ∈ tasks, ∀ q ∈ t.lookups folders, q.climbs = false)
    (untouched : ∀ f ∈ produced, ∀ t ∈ tasks, ∀ q ∈ t.lookups folders,
      disk.destination f.path ≠ disk.destination q) : Steady disk folders tasks produced where
  wellFormed := wf
  destinations := fun t mem => disk.anchored_of_level (destinations t mem)
  lookups := fun t mem q looked => disk.anchored_of_level (lookups t mem q looked)
  untouched := untouched

end ApiForge
