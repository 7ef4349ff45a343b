import ApiForge.Proofs.Run.DryRun
/-
# ApiForge.Proofs.Run.Again -- files that are produced again

What a sink has taken is there from then on, however its path is spelled (`Sink.Holds`).  A
task that comes to the same path later is therefore asked whether it may replace what is
there: a run produces a file again only if it is no test and the backend lets it be replaced
(`Job.generate_again`).
-/

namespace ApiForge

set_option autoImplicit false

namespace Sink

/-- The file of a path is there, under every spelling. -/
def Holds (s : Sink) (p : Path) : Prop :=
  ∀ q, p.same q = true → q.asksFolder = false → s.exists? q = true

theorem exists?_record {s : Sink} {files : Recorded} (recording : s.recorded = some files)
    (p q : Path) (contents : Contents) :
    (s.record files p contents).exists? q = (p.same q || s.exists? q) := by
  simp only [exists?, record, recording, Option.bind_some, Recorded.find?_put]
  cases p.same q <;> simp

end Sink

namespace Intent

variable {i : Intent} {sink sink' : Sink} {p : Path}

/-- What is there stays there. -/
theorem exists?_of_enact (done : i.enact p sink = (.ok (), sink')) {q : Path}
    (there : sink.exists? q = true) : sink'.exists? q = true := by
  rcases sink with ⟨d, _ | files⟩
  · rcases enact_writing_ok_iff.1 done with ⟨-, rfl⟩ | ⟨_, _, _, d', rfl, puts⟩
    · exact there
    · rw [Sink.exists?_writing]
      exact puts.put.keeps.exists? ((Sink.exists?_writing d q).symm.trans there)
  · cases i with
    | pass =>
        cases done
        exact there
    | refuse error => cases done
    | write contents =>
        cases done
        rw [Sink.exists?_record rfl, there, Bool.or_true]
    | copy source =>
        simp only [enact, Sink.copy] at done
        split at done
        · cases done
          rw [Sink.exists?_record rfl, there, Bool.or_true]
        · cases done

/-- What is made is there. -/
theorem holds_of_enact (done : i.enact p sink = (.ok (), sink')) (made : i.produces = true) :
    sink'.Holds p := by
  intro q same file
  rcases sink with ⟨d, _ | files⟩
  · rcases enact_writing_ok_iff.1 done with ⟨rfl, -⟩ | ⟨_, place, _, d', rfl, puts⟩
    · cases made
    · rw [Sink.exists?_writing, Disk.exists?, Disk.lookup,
        Disk.locate_of_same puts.put.located same file, Option.bind_some, puts.put.node]
      rfl
  · cases i with
    | pass => cases made
    | refuse error => cases made
    | write contents =>
        cases done
        rw [Sink.exists?_record rfl, same, Bool.true_or]
    | copy source =>
        simp only [enact, Sink.copy] at done
        split at done
        · cases done
          rw [Sink.exists?_record rfl, same, Bool.true_or]
        · cases done

end Intent

namespace Task

variable {e : Emitter} {ts : List Task} {output final : Output}

/-- The file may take the place of one that is there. -/
def Replaces (e : Emitter) (t : Task) : Prop :=
  t.category ≠ .test ∧ e.overwrite t.path = true

theorem replaces_of_there [Readers] {sink : Sink} {t : Task} (asks : t.Asks)
    (made : (t.intent e sink).produces = true) (there : sink.exists? t.path = true) :
    t.Replaces e := by
  rcases (admits_iff asks.category).1 (admits_of_produces asks made) with ⟨-, absent | replaces⟩
  · rw [there] at absent
    cases absent
  · exact replaces

/-- **Of tasks that all succeed, one that asks and makes its file replaces what was there,
also what an earlier one has made.** -/
theorem performAll_again [Readers] (files : ∀ t ∈ ts, t.path.asksFolder = false)
    (done : (performAll e ts).run output = (.ok (), final)) :
    ∃ made : List Task, made.Sublist ts ∧ final.files = output.files ++ made.map file ∧
      (∀ t ∈ made, t.Asks → output.sink.exists? t.path = true → t.Replaces e) ∧
      made.Pairwise fun t u => t.path.same u.path = true → u.Asks → u.Replaces e := by
  induction ts generalizing output with
  | nil =>
      cases done
      exact ⟨[], .slnil, by simp, (fun _ mem => nomatch mem), .nil⟩
  | cons t rest ih =>
      rw [performAll_cons_run] at done
      split at done
      · rename_i next settled
        obtain ⟨made, sub, listed, there, again⟩ :=
          ih (fun u mem => files u (List.mem_cons_of_mem _ mem)) done
        simp only [Intent.settle] at settled
        split at settled
        · rename_i sink enacted
          cases settled
          have still : ∀ u ∈ made, u.Asks → output.sink.exists? u.path = true → u.Replaces e :=
            fun u mem asks before => there u mem asks (Intent.exists?_of_enact enacted before)
          cases produces : (t.intent e output.sink).produces with
          | false =>
              refine ⟨made, sub.cons _, ?_, still, again⟩
              simpa [produces] using listed
          | true =>
              have holds := Intent.holds_of_enact enacted produces
              refine ⟨t :: made, sub.cons_cons _, ?_, ?_, ?_⟩
              · simpa [produces] using listed
              · intro u mem asks before
                rcases List.mem_cons.1 mem with rfl | later
                · exact replaces_of_there asks produces before
                · exact still u later asks before
              · refine List.pairwise_cons.2 ⟨fun u mem same asks => ?_, again⟩
                have file := files u (List.mem_cons_of_mem _ (sub.subset mem))
                exact there u mem asks (holds u.path same file)
        · cases settled
      · cases done

end Task

namespace Job

/-- **What a run produces again is no test, and the backend lets it be replaced.**  Stamps
are not asked. -/
theorem generate_again [Readers] {now : Moment} {config : Config} {backend : Backend}
    {description : Description} {sink : Sink} {files : List ProducedFile}
    (proper : ∀ t ∈ (planBundle now config backend description).tasks, t.path.asksFolder = false)
    (done : (generate ⟨some description, some backend, config, now⟩ sink).1 = .ok files) :
    files.Sublist ((planBundle now config backend description).tasks.map Task.file) ∧
      files.Pairwise fun f g => f.path.same g.path = true → g.category ≠ .metadata →
        g.category ≠ .test ∧ backend.layout.shouldOverwrite g.path = true := by
  rw [generate_eq] at done
  rcases performed : (Task.performAll (emitter sink.disk config backend)
    (planBundle now config backend description).tasks).run (Output.start sink) with
    ⟨result, output⟩
  simp only [performed] at done
  cases result with
  | error failure => cases done
  | ok _ =>
      obtain ⟨bundle, -, rfl⟩ := map_eq_ok_iff.1 done
      obtain ⟨made, sub, listed, -, again⟩ := Task.performAll_again proper performed
      have all : output.files = made.map Task.file := by simpa [Output.start] using listed
      rw [all]
      refine ⟨sub.map _, List.pairwise_map.2 (again.imp_of_mem fun {t u} _ mem second => ?_)⟩
      intro same notStamp
      rcases asks_or_mem_stampTasks now config backend description u (sub.subset mem) with
        asks | stamp
      · exact second same asks
      · simp only [stampTasks, List.mem_cons, List.not_mem_nil, or_false] at stamp
        rcases stamp with rfl | rfl <;> exact absurd rfl notStamp

end Job

end ApiForge
