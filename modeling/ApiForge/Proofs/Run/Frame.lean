import ApiForge.Proofs.Run.Plan
import ApiForge.Readers.Standard
/-
# ApiForge.Proofs.Run.Frame -- what a run may do to files that are there

A run takes nothing away.  What it changes is the file of one of its tasks, and a file that
was there before is replaced for one of three reasons (`Job.MayReplace`): it is the stamp of
the version, the backend wants it replaced and the rules allow that, or nobody saw the file.
The last happens where a path goes back up out of a folder that is missing: the path leads
nowhere, so the gate takes the file for a new one, and making room for it makes the folder
and with it the way to the file (`unseen_file_is_replaced`).
-/

namespace ApiForge

set_option autoImplicit false

namespace Task.Wrote

variable [Readers] {e : Emitter} {d d' : Disk} {t : Task} {name : String} {old : Contents}

/-- A file that was there, and that the gate did not see, has a path that led nowhere. -/
theorem unseen (w : Wrote e d d' t name) (stood : d.nodes.get? name = some (.file old))
    (missing : w.before.exists? t.path = false) :
    d.locate t.path = none ∧ (d.WellFormed → ¬ d.Anchored t.path) := by
  have stands : d.node? (d.destination t.path) ≠ none := by
    rw [← w.place_eq, Disk.node?_of_ne_nil _ w.puts.put.place_ne, w.here, stood]
    simp
  have blind : d.lookup t.path = none := by
    cases seen : d.lookup t.path with
    | none => rfl
    | some node =>
        have there : d.exists? t.path = true := by simp [Disk.exists?, seen]
        rw [w.earlier.exists? there] at missing
        cases missing
  constructor
  · cases located : d.locate t.path with
    | none => rfl
    | some place =>
        rw [Disk.lookup, located, Option.bind_some, Disk.eq_destination_of_locate located] at blind
        exact absurd blind stands
  · intro wf anchored
    rw [Disk.lookup_of_anchored wf anchored, Path.isEmpty_text w.puts.put.asksFile, w.puts.put.asksFile,
      if_neg Bool.false_ne_true, if_neg Bool.false_ne_true] at blind
    exact stands blind

end Task.Wrote

namespace Job

section Leaving

variable [Readers]

/-- Why a task of a run may replace a file that was there when the run started. -/
inductive MayReplace (disk : Disk) (config : Config) (backend : Backend) (t : Task) : Prop where
  /-- It stamps the version. -/
  | version : config.generateMetadata = true → t.category = .metadata →
      t.path = Product.versionFilePath backend.layout.outputFolder →
      MayReplace disk config backend t
  /-- The file is no test and no stamp, the rules allow it and the backend wants it
  replaced. -/
  | wanted : t.category ≠ .test → t.category ≠ .metadata →
      (rules disk config backend).allows t.path = true →
      backend.layout.shouldOverwrite t.path = true → MayReplace disk config backend t
  /-- Nobody saw the file, for its path went back up out of a folder that was missing. -/
  | unseen : disk.locate t.path = none → (disk.WellFormed → ¬ disk.Anchored t.path) →
      (t.category = .metadata ∨ (rules disk config backend).allows t.path = true) →
      MayReplace disk config backend t

variable {now : Moment} {config : Config} {backend : Backend} {description : Description}

theorem mayReplace_of_wrote {disk d' : Disk} {t : Task} {name : String} {old : Contents}
    (planned : t ∈ (planBundle now config backend description).tasks)
    (wrote : Task.Wrote (emitter disk config backend) disk d' t name)
    (stood : disk.nodes.get? name = some (.file old)) : MayReplace disk config backend t := by
  have made := wrote.puts.produces
  rcases asks_or_stamp now config backend description t planned with asks | ⟨metadata, stamp⟩
  · have admitted := (Task.admits_iff asks.category).1 (Task.admits_of_produces asks made)
    rw [Sink.exists?_writing] at admitted
    obtain ⟨allowed, missing | ⟨noTest, replace⟩⟩ := admitted
    · obtain ⟨lost, unanchored⟩ := wrote.unseen stood missing
      exact .unseen lost unanchored (Or.inr allowed)
    · exact .wanted noTest asks.category allowed replace
  · simp only [stampTasks, List.mem_cons, List.not_mem_nil, or_false] at stamp
    rcases stamp with rfl | rfl
    · simp only [Task.intent, Sink.exists?_writing] at made
      split at made
      · cases made
      · rename_i missing
        obtain ⟨lost, unanchored⟩ := wrote.unseen stood (by simpa using missing)
        exact .unseen lost unanchored (Or.inl rfl)
    · exact .version metadata rfl rfl

/-- What a run leaves of a disk, whatever came of the run. -/
structure Leaves (job : Job) (disk final : Disk) (result : Except Failure (List ProducedFile)) :
    Prop where
  /-- Folders stay folders and files stay files. -/
  keeps : Disk.Keeps disk final
  /-- What stands where a file stood and is not that file was put there by a task that may
  replace it. -/
  replaced : ∀ name old, disk.nodes.get? name = some (.file old) →
    final.nodes.get? name ≠ some (.file old) →
    ∃ backend, job.backend = some backend ∧ ∃ t ∈ job.tasks,
      MayReplace disk job.config backend t ∧
      ∃ place, final.locate t.path = some place ∧ Disk.placeName place = name
  /-- A run that succeeds reports every file that is new or has new contents. -/
  reported : ∀ files, result = .ok files → ∀ name contents,
    final.nodes.get? name = some (.file contents) →
    disk.nodes.get? name ≠ some (.file contents) →
    ∃ f ∈ files, ∃ place, final.locate f.path = some place ∧ Disk.placeName place = name
  /-- Whatever it reports is there. -/
  there : ∀ files, result = .ok files → ∀ f ∈ files, final.isFile f.path = true

theorem leaves_of_ran {disk final : Disk} {result : Except Failure (List ProducedFile)}
    (ran : Ran (emitter disk config backend) disk
      (planBundle now config backend description).tasks result final) :
    Leaves ⟨some description, some backend, config, now⟩ disk final result where
  keeps := ran.trace.keeps.trans ran.grows.keeps
  replaced := by
    intro name old stood changed
    rcases ran.trace.changed name with same | ⟨missing, -⟩ | ⟨t, mem, -, ⟨wrote⟩⟩
    · exact absurd (ran.grows.get?_of_some (same.trans stood)) changed
    · rw [stood] at missing
      cases missing
    · have planned := ran.reached.subset mem
      exact ⟨backend, rfl, t, planned, mayReplace_of_wrote planned wrote stood, wrote.place,
        ran.grows.keeps.locate wrote.located, wrote.here⟩
  reported := by
    intro files succeeded name contents stands changed
    obtain ⟨rfl, -, same⟩ := ran.whole files succeeded
    rcases ran.trace.changed name with kept | ⟨-, folder⟩ | ⟨t, -, listed, ⟨wrote⟩⟩
    · rw [same, stands] at kept
      exact absurd kept.symm changed
    · rw [same, stands] at folder
      cases folder
    · exact ⟨t.file, listed, wrote.place, ran.grows.keeps.locate wrote.located, wrote.here⟩
  there := by
    intro files succeeded f listed
    obtain ⟨rfl, -, same⟩ := ran.whole files succeeded
    exact same ▸ ran.trace.isFile listed

/-- **A run takes nothing away, replaces only what it may, and reports what it changes.** -/
theorem generate_leaves (job : Job) (disk : Disk) :
    ∃ final, (job.generate (.writing disk)).2 = .writing final ∧
      Leaves job disk final (job.generate (.writing disk)).1 := by
  obtain ⟨description, backend, config, now⟩ := job
  have nothing {failure : Failure} : Leaves ⟨description, backend, config, now⟩ disk disk
      (.error failure) :=
    { keeps := Disk.Keeps.refl disk
      replaced := fun _ _ stood changed => absurd stood changed
      reported := by rintro _ ⟨⟩
      there := by rintro _ ⟨⟩ }
  cases description with
  | none => exact ⟨disk, rfl, nothing⟩
  | some description =>
      cases backend with
      | none => exact ⟨disk, rfl, nothing⟩
      | some backend =>
          obtain ⟨final, same, ⟨ran⟩⟩ := generate_writing now config backend description disk
          exact ⟨final, same, leaves_of_ran ran⟩

end Leaving

/-- A disk with a file to copy and a file in the output folder. -/
def seededDisk : Disk :=
  ((Disk.emptyAt ["work"]).put ⟨"templates/a.txt"⟩ (.text "new")).put ⟨"out/x.txt"⟩ (.text "mine")

/-- A run that is not to replace anything, for a file whose path goes back up. -/
def roundaboutJob : Job :=
  .ofManifest { Manifest.standard with
    outputDir := ⟨"out"⟩
    overwrite := false
    supportingFiles := [⟨"a.txt", "gap/../x.txt", none⟩] }
    { Config.standard with generateMetadata := false } .empty

/-- **A file that nobody saw is replaced, though nothing was to be.** -/
theorem unseen_file_is_replaced :
    seededDisk.read ⟨"out/x.txt"⟩ = some (.text "mine") ∧
      (roundaboutJob.generate (.writing seededDisk)).1.toOption
        = some [⟨⟨"out/gap/../x.txt"⟩, .supporting⟩] ∧
      (roundaboutJob.generate (.writing seededDisk)).2.disk.read ⟨"out/x.txt"⟩
        = some (.text "new") := by
  decide +kernel

end Job

end ApiForge
