import ApiForge.Proofs.Output.Intent
/-
# ApiForge.Proofs.Output.Trace -- what going through tasks does to a disk

Tasks that all succeed leave a trace (`Task.Trace`): every one of them passed its file over
or put it on the disk, and the files that were put are reported in order.  Tasks that stop at
a failure leave the trace of those before, and maybe some more folders
(`performAll_writing_error`).  Along a trace nothing is removed (`Trace.keeps`), what is
reported is there (`Trace.isFile`), and every change is a new folder or the work of a task
(`Trace.changed`).
-/

namespace ApiForge

set_option autoImplicit false

namespace Task

variable [Readers]

/-- What tasks that all succeed do to a disk, and what they report. -/
inductive Trace (e : Emitter) : Disk → List Task → List ProducedFile → Disk → Prop where
  | done (d : Disk) : Trace e d [] [] d
  | pass {d d' : Disk} {t : Task} {rest : List Task} {files : List ProducedFile} :
      t.intent e (.writing d) = .pass → Trace e d rest files d' →
      Trace e d (t :: rest) files d'
  | put {d next d' room : Disk} {place : List String} {contents : Contents} {t : Task}
      {rest : List Task} {files : List ProducedFile} :
      (t.intent e (.writing d)).Puts d next t.path room place contents →
      Trace e next rest files d' → Trace e d (t :: rest) (t.file :: files) d'

/-- Tasks that stopped at a failure, and the disk that they left. -/
structure Stopped (e : Emitter) (d : Disk) (ts : List Task) (files : List ProducedFile)
    (d' : Disk) (failure : Failure) where
  front : List Task
  task : Task
  rest : List Task
  before : Disk
  error : FileError
  split : ts = front ++ task :: rest
  trace : Trace e d front files before
  grows : Disk.Grows before d'
  failed : failure = task.subject.failure (.file error)
  reason : task.intent e (.writing before) = .refuse error ∨ error.isOfSink = true

section Running

variable {e : Emitter} {d : Disk} {ts : List Task} {files : List ProducedFile}
  {output : Output}

omit [Readers] in
theorem settle_writing_ok_iff {file : ProducedFile} {i : Intent} :
    i.settle file ⟨.writing d, files⟩ = (.ok (), output) ↔
      (i = .pass ∧ output = ⟨.writing d, files⟩) ∨
        ∃ room place contents d', output = ⟨.writing d', files ++ [file]⟩ ∧
          i.Puts d d' file.path room place contents := by
  rcases enacted : i.enact file.path (.writing d) with ⟨result, sink⟩
  simp only [Intent.settle, enacted]
  cases result with
  | error error =>
      simp only [Prod.mk.injEq, reduceCtorEq, false_and, false_iff, not_or]
      constructor
      · rintro ⟨rfl, -⟩
        cases enacted
      · rintro ⟨room, place, contents, d', -, puts⟩
        rw [Intent.enact_writing_ok_iff.2 (Or.inr ⟨_, _, _, _, rfl, puts⟩)] at enacted
        cases enacted
  | ok done =>
      cases done
      have puts := Intent.enact_writing_ok_iff.1 enacted
      simp only [Prod.mk.injEq, true_and]
      constructor
      · rintro rfl
        rcases puts with ⟨rfl, rfl⟩ | ⟨room, place, contents, d', rfl, puts⟩
        · exact Or.inl ⟨rfl, by simp [Intent.produces]⟩
        · exact Or.inr ⟨room, place, contents, d', by simp [puts.produces], puts⟩
      · rintro (⟨rfl, rfl⟩ | ⟨room, place, contents, d', rfl, put⟩)
        · cases enacted
          simp [Intent.produces]
        · rw [Intent.enact_writing_ok_iff.2 (Or.inr ⟨_, _, _, _, rfl, put⟩)] at enacted
          cases enacted
          simp [put.produces]

/-- Tasks that all succeed leave a trace. -/
theorem performAll_writing_ok
    (done : (performAll e ts).run ⟨.writing d, files⟩ = (.ok (), output)) :
    ∃ more d', output = ⟨.writing d', files ++ more⟩ ∧ Trace e d ts more d' := by
  induction ts generalizing d files with
  | nil =>
      cases done
      exact ⟨[], d, by simp, .done d⟩
  | cons t rest ih =>
      rw [performAll_cons_run] at done
      split at done
      · rename_i later settled
        rcases settle_writing_ok_iff.1 settled with ⟨pass, rfl⟩ | ⟨_, _, _, next, rfl, puts⟩
        · obtain ⟨more, d', rfl, trace⟩ := ih done
          exact ⟨more, d', rfl, .pass pass trace⟩
        · obtain ⟨more, d', rfl, trace⟩ := ih done
          exact ⟨t.file :: more, d', by simp, .put puts trace⟩
      · cases done

/-- Tasks that leave a trace all succeed. -/
theorem Trace.performAll {more : List ProducedFile} {d' : Disk} (trace : Trace e d ts more d') :
    (performAll e ts).run ⟨.writing d, files⟩ = (.ok (), ⟨.writing d', files ++ more⟩) := by
  induction trace generalizing files with
  | done d => simp [Task.performAll, Emission.pure_run]
  | pass pass trace ih =>
      rw [performAll_cons_run, settle_writing_ok_iff.2 (Or.inl ⟨pass, rfl⟩)]
      exact ih
  | @put d next d' room place contents t rest more puts trace ih =>
      rw [performAll_cons_run,
        settle_writing_ok_iff.2 (Or.inr ⟨_, _, _, _, rfl, puts⟩)]
      simpa using @ih (files ++ [t.file])

omit [Readers] in
theorem settle_writing_error {file : ProducedFile} {i : Intent} {error : FileError}
    (failed : i.settle file ⟨.writing d, files⟩ = (.error error, output)) :
    ∃ d', output = ⟨.writing d', files⟩ ∧ Disk.Grows d d' ∧
      (i = .refuse error ∨ error.isOfSink = true) := by
  rcases enacted : i.enact file.path (.writing d) with ⟨result, sink⟩
  simp only [Intent.settle, enacted] at failed
  cases result with
  | ok done => cases failed
  | error reason =>
      cases failed
      obtain ⟨d', rfl, grows⟩ := Intent.enact_writing_error enacted
      exact ⟨d', rfl, grows⟩

/-- **Tasks that stop leave the trace of those before, and maybe some more folders.** -/
theorem performAll_writing_error {failure : Failure}
    (failed : (performAll e ts).run ⟨.writing d, files⟩ = (.error failure, output)) :
    ∃ more d', output = ⟨.writing d', files ++ more⟩ ∧
      Nonempty (Stopped e d ts more d' failure) := by
  induction ts generalizing d files with
  | nil => cases failed
  | cons t rest ih =>
      rw [performAll_cons_run] at failed
      split at failed
      · rename_i later settled
        rcases settle_writing_ok_iff.1 settled with ⟨pass, rfl⟩ | ⟨_, _, _, next, rfl, puts⟩
        · obtain ⟨more, d', rfl, ⟨s⟩⟩ := ih failed
          exact ⟨more, d', rfl, ⟨{ s with
            front := t :: s.front
            split := congrArg (t :: ·) s.split
            trace := .pass pass s.trace }⟩⟩
        · obtain ⟨more, d', rfl, ⟨s⟩⟩ := ih failed
          exact ⟨t.file :: more, d', by simp, ⟨{ s with
            front := t :: s.front
            split := congrArg (t :: ·) s.split
            trace := .put puts s.trace }⟩⟩
      · rename_i error later settled
        cases failed
        obtain ⟨d', rfl, grows, reason⟩ := settle_writing_error settled
        exact ⟨[], d', by simp, ⟨{
          front := []
          task := t
          rest := rest
          before := d
          error := error
          split := rfl
          trace := .done d
          grows := grows
          failed := rfl
          reason := reason }⟩⟩

end Running

/-! ## What a trace does -/

namespace Trace

variable {e : Emitter} {d d' : Disk} {ts : List Task} {files : List ProducedFile}

theorem keeps (trace : Trace e d ts files d') : Disk.Keeps d d' := by
  induction trace with
  | done d => exact Disk.Keeps.refl d
  | pass _ _ ih => exact ih
  | put puts _ ih => exact puts.put.keeps.trans ih

theorem wellFormed (trace : Trace e d ts files d') (wf : d.WellFormed) : d'.WellFormed := by
  induction trace with
  | done d => exact wf
  | pass _ _ ih => exact ih wf
  | put puts _ ih => exact ih (puts.put.wellFormed wf)

/-- **What is reported is there.** -/
theorem isFile (trace : Trace e d ts files d') {f : ProducedFile} (listed : f ∈ files) :
    d'.isFile f.path = true := by
  induction trace with
  | done d => cases listed
  | pass _ _ ih => exact ih listed
  | put puts trace ih =>
      rcases List.mem_cons.1 listed with rfl | later
      · obtain ⟨contents, there⟩ := trace.keeps.node?_file puts.put.node
        exact Disk.isFile_iff.2 ⟨contents, Disk.read_eq_some_iff.2
          ⟨_, trace.keeps.locate puts.put.located, there⟩⟩
      · exact ih later

end Trace

/-- A task put its file at the place of a name, between one disk and another, and was the
last to do so. -/
structure Wrote (e : Emitter) (d d' : Disk) (t : Task) (name : String) where
  before : Disk
  room : Disk
  after : Disk
  place : List String
  contents : Contents
  earlier : Disk.Keeps d before
  later : Disk.Keeps after d'
  puts : (t.intent e (.writing before)).Puts before after t.path room place contents
  here : Disk.placeName place = name
  stands : d'.nodes.get? name = some (.file contents)

namespace Wrote

variable {e : Emitter} {d d' : Disk} {t : Task} {name : String}

theorem place_eq (w : Wrote e d d' t name) : w.place = d.destination t.path := by
  rw [w.puts.put.place_eq, Disk.destination_congr w.earlier.here]

theorem located (w : Wrote e d d' t name) : d'.locate t.path = some w.place :=
  w.later.locate w.puts.put.located

/-- A task that put its file where a path leads has a path that leads there. -/
theorem destination_eq {p : Path} (w : Wrote e d d' t (Disk.placeName (d.destination p)))
    (wf : d.WellFormed) : d.destination t.path = d.destination p := by
  have proper := Disk.proper_destination wf
  exact Disk.placeName_inj (proper _) (proper _) (w.place_eq ▸ w.here)

end Wrote

namespace Trace

variable {e : Emitter} {d d' : Disk} {ts : List Task} {files : List ProducedFile}

/-- **Every change is a new folder or the work of a task that is reported.** -/
theorem changed (trace : Trace e d ts files d') (name : String) :
    d'.nodes.get? name = d.nodes.get? name ∨
      (d.nodes.get? name = none ∧ d'.nodes.get? name = some .folder) ∨
      ∃ t ∈ ts, t.file ∈ files ∧ Nonempty (Wrote e d d' t name) := by
  induction trace with
  | done d => exact Or.inl rfl
  | pass _ _ ih =>
      refine ih.imp id (Or.imp id ?_)
      rintro ⟨t, mem, listed, wrote⟩
      exact ⟨t, List.mem_cons_of_mem _ mem, listed, wrote⟩
  | @put d next d' room place contents t rest files puts trace ih =>
      have first := puts.put.grows.nodes name
      have now := puts.put.get? name
      rcases ih with same | ⟨missing, folder⟩ | ⟨u, mem, listed, ⟨w⟩⟩
      · by_cases here : Disk.placeName place = name
        · rw [if_pos here] at now
          exact Or.inr (Or.inr ⟨t, List.mem_cons_self, List.mem_cons_self, ⟨{
            before := d
            room := room
            after := next
            place := place
            contents := contents
            earlier := Disk.Keeps.refl d
            later := trace.keeps
            puts := puts
            here := here
            stands := same.trans now }⟩⟩)
        · rw [if_neg here] at now
          rw [same, now]
          exact first.imp id Or.inl
      · by_cases here : Disk.placeName place = name
        · rw [if_pos here, missing] at now
          cases now
        · rw [if_neg here] at now
          rcases first with kept | ⟨-, new⟩
          · exact Or.inr (Or.inl ⟨kept.symm.trans (now.symm.trans missing), folder⟩)
          · rw [now, new] at missing
            cases missing
      · exact Or.inr (Or.inr ⟨u, List.mem_cons_of_mem _ mem, List.mem_cons_of_mem _ listed,
          ⟨{ w with earlier := puts.put.keeps.trans w.earlier }⟩⟩)

end Trace

end Task

end ApiForge
