import ApiForge.Output.Task
import ApiForge.Proofs.Disk.Put
/-
# ApiForge.Proofs.Output.Intent -- what a task wants to happen to its file

A task looks at the sink and then wants one of four things (`Task.intent`): to pass its file
over, to give up, to write a text, or to copy a file.  The rest is the same for all tasks
(`Task.emit_run`).  Where a file is wanted on a disk, it is put there after room was made for
it, or the disk has some more folders and the failure is one of the sink
(`Intent.enact_writing`).
-/

namespace ApiForge

set_option autoImplicit false

/-! ## Running emissions -/

namespace Emission

variable {ε ε' α β : Type}

theorem pure_run (a : α) (output : Output) :
    (pure a : Emission ε α).run output = (.ok a, output) := rfl

theorem bind_run (x : Emission ε α) (next : α → Emission ε β) (output : Output) :
    (x >>= next).run output =
      match x.run output with
      | (.ok a, later) => (next a).run later
      | (.error failure, later) => (.error failure, later) := by
  show (ExceptT.bindCont next (x.run output).1) (x.run output).2 = _
  rcases x.run output with ⟨result, later⟩
  cases result <;> rfl

theorem get_run (output : Output) :
    (get : Emission ε Output).run output = (.ok output, output) := rfl

theorem ofExcept_run (result : Except ε α) (output : Output) :
    (MonadExcept.ofExcept result : Emission ε α).run output = (result, output) := by
  cases result <;> rfl

theorem adapt_run (x : Emission ε α) (f : ε → ε') (output : Output) :
    (x.adapt f).run output = ((x.run output).1.mapError f, (x.run output).2) := rfl

theorem onSink_run (step : Sink → Except FileError Unit × Sink) (output : Output) :
    (onSink step).run output =
      ((step output.sink).1, { output with sink := (step output.sink).2 }) := rfl

theorem report_run (path : Path) (category : FileCategory) (output : Output) :
    (Emitter.report path category).run output =
      (.ok (), { output with files := output.files ++ [⟨path, category⟩] }) := rfl

end Emission

/-! ## Intents -/

/-- What may be wanted for a file. -/
inductive Intent where
  | pass
  | refuse (error : FileError)
  | write (contents : Contents)
  | copy (source : Path)

namespace Intent

/-- Does it make a file? -/
def produces : Intent → Bool
  | .pass => false
  | .refuse _ => false
  | .write _ => true
  | .copy _ => true

/-- Do what is wanted for the file at a path. -/
def enact (path : Path) (sink : Sink) : Intent → Except FileError Unit × Sink
  | .pass => (.ok (), sink)
  | .refuse error => (.error error, sink)
  | .write contents => sink.write path contents
  | .copy source => sink.copy source path

/-- Do what is wanted for a file, and report it if it was made. -/
def settle (file : ProducedFile) (output : Output) (i : Intent) :
    Except FileError Unit × Output :=
  match i.enact file.path output.sink with
  | (.ok (), sink) => (.ok (), ⟨sink, output.files ++ if i.produces then [file] else []⟩)
  | (.error error, sink) => (.error error, ⟨sink, output.files⟩)

/-- What is wanted for a file with the text that came out of a template. -/
def ofRendered : Except FileError String → Intent
  | .ok text => .write (.text text)
  | .error error => .refuse error

theorem ofRendered_ne_pass (rendered : Except FileError String) :
    ofRendered rendered ≠ .pass := by
  cases rendered <;> exact fun same => by cases same

theorem ofRendered_ne_copy (rendered : Except FileError String) (source : Path) :
    ofRendered rendered ≠ .copy source := by
  cases rendered <;> exact fun same => by cases same

/-- What is wanted for a file that a template makes. -/
def ofTemplate [Readers] (folders : TemplateFolders) (disk : Disk) (template : String)
    (context : Context) : Intent :=
  .ofRendered (folders.render disk template context)

/-- What is wanted for a file that is rendered. -/
def ofRender [Readers] (e : Emitter) (sink : Sink) (path : Path) (category : FileCategory)
    (template : String) (context : Context) : Intent :=
  if e.admits sink path category then .ofTemplate e.folders sink.disk template context else .pass

/-- What is wanted for a file that is copied. -/
def ofCopy (e : Emitter) (sink : Sink) (path : Path) (category : FileCategory)
    (source : Path) : Intent :=
  if e.admits sink path category then .copy source else .pass

end Intent

namespace Task

/-- The file of a task, as it is reported. -/
def file (t : Task) : ProducedFile := ⟨t.path, t.category⟩

/-- What a task wants to happen to its file. -/
def intent [Readers] (e : Emitter) (sink : Sink) (t : Task) : Intent :=
  match t.making with
  | .render template context => .ofRender e sink t.path t.category template context
  | .provide name context =>
    match e.folders.locate sink.disk name with
    | none => .pass
    | some source =>
      if TemplateFolders.isTemplate name then .ofRender e sink t.path t.category name context
      else .ofCopy e sink t.path t.category source
  | .stamp text => .write (.text text)
  | .stampOnce text => if sink.exists? t.path then .pass else .write (.text text)

/-! ## Tasks that ask the gate -/

/-- Is the file made only if the gate lets it pass? -/
def isGated (t : Task) : Bool :=
  match t.making with
  | .render _ _ => true
  | .provide _ _ => true
  | .stamp _ => false
  | .stampOnce _ => false

/-- The gate is asked about the file: it is no stamp, and what comes from a file of the
template folders as it is found there is a supporting file. -/
structure Asks (t : Task) : Prop where
  gated : t.isGated = true
  category : t.category ≠ .metadata
  provided : ∀ name context, t.making = .provide name context → t.category = .supporting

/-- What the gate lets pass, stamps apart: what the rules allow, and does not replace
anything or may. -/
theorem admits_iff {e : Emitter} {sink : Sink} {path : Path} {category : FileCategory}
    (notStamp : category ≠ .metadata) :
    e.admits sink path category = true ↔ e.rules.allows path = true ∧
      (sink.exists? path = false ∨ (category ≠ .test ∧ e.overwrite path = true)) := by
  simp only [Emitter.admits, decideWrite, if_neg notStamp, decide_eq_true_eq]
  cases e.rules.allows path with
  | false => simp
  | true =>
      cases sink.exists? path with
      | false => simp
      | true =>
          by_cases test : category = .test
          · simp [test]
          · by_cases replace : e.overwrite path = true
            · simp [test, replace]
            · simp [test, replace]

theorem admits_of_produces [Readers] {e : Emitter} {sink : Sink} {t : Task} (asks : t.Asks)
    (made : (t.intent e sink).produces = true) : e.admits sink t.path t.category = true := by
  have gated := asks.gated
  simp only [isGated, intent] at gated made
  cases refused : e.admits sink t.path t.category with
  | true => rfl
  | false =>
      cases making : t.making with
      | render template context =>
          simp [making, Intent.ofRender, refused, Intent.produces] at made
      | provide name context =>
          simp only [making, Intent.ofRender, Intent.ofCopy, refused] at made
          split at made
          · cases made
          · split at made <;> cases made
      | stamp text => simp [making] at gated
      | stampOnce text => simp [making] at gated

/-! ## Running a task -/

section Running

open Emission

variable (e : Emitter) (output : Output) (path : Path) (category : FileCategory)

theorem settle_pass (file : ProducedFile) : Intent.pass.settle file output = (.ok (), output) := by
  simp [Intent.settle, Intent.enact, Intent.produces]

theorem writeFile_run (contents : Contents) :
    (Emitter.writeFile path contents category).run output =
      (Intent.write contents).settle ⟨path, category⟩ output := by
  simp only [Emitter.writeFile, bind_run, onSink_run, report_run, Intent.settle, Intent.enact]
  rcases output.sink.write path contents with ⟨result, sink⟩
  cases result <;> rfl

theorem renderFile_run [Readers] (template : String) (context : Context) :
    (do let _ ← e.renderFile template context path category : Emission FileError Unit).run output
      = (Intent.ofRender e output.sink path category template context).settle
          ⟨path, category⟩ output := by
  simp only [Emitter.renderFile, Intent.ofRender, Intent.ofTemplate, bind_run, get_run]
  by_cases admitted : e.admits output.sink path category = true
  · simp only [if_pos admitted, bind_run, ofExcept_run]
    cases e.folders.render output.sink.disk template context with
    | error error => rfl
    | ok text =>
        simp only [writeFile_run, pure_run, Intent.ofRendered]
        rcases (Intent.write (.text text)).settle ⟨path, category⟩ output with ⟨result, later⟩
        cases result <;> rfl
  · simp only [if_neg admitted, pure_run, settle_pass]

theorem copyFile_run (source : Path) :
    (do let _ ← e.copyFile source path category : Emission FileError Unit).run output
      = (Intent.ofCopy e output.sink path category source).settle ⟨path, category⟩ output := by
  simp only [Emitter.copyFile, Intent.ofCopy, bind_run, get_run]
  by_cases admitted : e.admits output.sink path category = true
  · simp only [if_pos admitted, bind_run, onSink_run, report_run, pure_run, Intent.settle,
      Intent.enact]
    rcases output.sink.copy source path with ⟨result, sink⟩
    cases result <;> rfl
  · simp only [if_neg admitted, pure_run, settle_pass]

/-- **Producing the file of a task is doing what the task wants.** -/
theorem emit_run [Readers] (t : Task) :
    (t.emit e).run output = (t.intent e output.sink).settle t.file output := by
  simp only [emit, intent]
  cases t.making with
  | render template context => exact renderFile_run e output t.path t.category template context
  | provide name context =>
      simp only [bind_run, get_run]
      cases e.folders.locate output.sink.disk name with
      | none => simp only [pure_run, settle_pass]
      | some source =>
          simp only
          by_cases template : TemplateFolders.isTemplate name = true
          · simp only [if_pos template]
            exact renderFile_run e output t.path t.category name context
          · simp only [if_neg template]
            exact copyFile_run e output t.path t.category source
  | stamp text => exact writeFile_run output t.path t.category (.text text)
  | stampOnce text =>
      simp only [bind_run, get_run]
      by_cases present : output.sink.exists? t.path = true
      · simp only [if_pos present, pure_run, settle_pass]
      · simp only [if_neg present]
        exact writeFile_run output t.path t.category (.text text)

theorem perform_run [Readers] (t : Task) :
    (t.perform e).run output =
      (((t.intent e output.sink).settle t.file output).1.mapError
          fun error => t.subject.failure (.file error),
        ((t.intent e output.sink).settle t.file output).2) := by
  rw [perform, adapt_run, emit_run]

/-- The first of some tasks is done before the others, which are done where it succeeds. -/
theorem performAll_cons_run [Readers] (t : Task) (rest : List Task) :
    (performAll e (t :: rest)).run output =
      match (t.intent e output.sink).settle t.file output with
      | (.ok (), later) => (performAll e rest).run later
      | (.error error, later) => (.error (t.subject.failure (.file error)), later) := by
  simp only [performAll, bind_run, perform_run]
  rcases (t.intent e output.sink).settle t.file output with ⟨result, later⟩
  cases result <;> rfl

variable {output}

/-- A task that succeeds passes its file over, or it makes and reports it. -/
theorem settle_ok {file : ProducedFile} {i : Intent} {later : Output}
    (done : i.settle file output = (.ok (), later)) :
    (i = .pass ∧ later = output) ∨
      (i.produces = true ∧ later.files = output.files ++ [file]) := by
  simp only [Intent.settle] at done
  split at done
  · rename_i sink enacted
    cases done
    cases i with
    | pass =>
        cases enacted
        exact Or.inl ⟨rfl, by simp [Intent.produces]⟩
    | refuse error => cases enacted
    | write contents => exact Or.inr ⟨rfl, rfl⟩
    | copy source => exact Or.inr ⟨rfl, rfl⟩
  · cases done

end Running

end Task

/-! ## Disks that are written to -/

/-- Is it a failure of the sink, and not one of a template? -/
def FileError.isOfSink : FileError → Bool
  | .templateNotFound _ => false
  | .templateUnreadable _ => false
  | .templateInvalid _ => false
  | .renderFailed _ => false
  | .folderNotMade _ => true
  | .notWritten _ => true
  | .notCopied _ _ => true
  | .unreadable _ => true

/-- Does a failure of the sink lie below it? -/
def Failure.isOfSink (f : Failure) : Bool :=
  match f.cause? with
  | some (.file error) => error.isOfSink
  | _ => false

theorem Subject.failure_isOfSink (subject : Subject) (error : FileError) :
    (subject.failure (.file error)).isOfSink = error.isOfSink := by
  cases subject <;> rfl

namespace Sink

variable {d d' : Disk} {p : Path} {put : Disk → Option Disk} {error failure : FileError}

theorem exists?_writing (d : Disk) (p : Path) : (writing d).exists? p = d.exists? p := by
  simp [exists?, writing]

theorem place_eq_ok_iff : place d p put error = (.ok (), d') ↔
    ∃ room, makeRoom d p = (room, .ok ()) ∧ put room = some d' := by
  rcases made : makeRoom d p with ⟨room, result⟩
  simp only [place, made, Prod.mk.injEq]
  cases result with
  | error reason => simp
  | ok done =>
      cases there : put room with
      | none => simp [there]
      | some d'' => simp [there]

theorem place_eq_error (failed : place d p put error = (.error failure, d')) :
    Disk.Grows d d' ∧ (failure = error ∨ ∃ folder, failure = .folderNotMade folder) := by
  have grows := Disk.makeRoom_grows d p
  rcases made : makeRoom d p with ⟨room, result⟩
  simp only [place, made] at failed grows
  cases result with
  | error reason =>
      cases failed
      refine ⟨grows, Or.inr ?_⟩
      simp only [makeRoom] at made
      split at made
      · cases made
      · split at made
        · cases made
        · cases made
          exact ⟨_, rfl⟩
  | ok done =>
      cases there : put room with
      | none =>
          simp only [there] at failed
          cases failed
          exact ⟨grows, Or.inl rfl⟩
      | some d'' =>
          simp only [there] at failed
          cases failed

end Sink

namespace Intent

variable {p : Path} {d d' : Disk} {sink : Sink} {i : Intent}

/-- What comes into a file that is put at a place of a disk where there is room for it.  A
file that is copied onto itself loses what it holds. -/
def contents? (room : Disk) (place : List String) : Intent → Option Contents
  | .pass => none
  | .refuse _ => none
  | .write contents => some contents
  | .copy source => (room.read source).map fun contents =>
      if room.locate source = some place then .text "" else contents

/-- A file is wanted, and it is put on the disk. -/
structure Puts (i : Intent) (d d' : Disk) (p : Path) (room : Disk) (place : List String)
    (contents : Contents) : Prop where
  put : Disk.Put d room d' p place contents
  wanted : i.contents? room place = some contents

theorem Puts.produces {room : Disk} {place : List String} {contents : Contents}
    (puts : i.Puts d d' p room place contents) : i.produces = true := by
  have wanted := puts.wanted
  cases i <;> first | rfl | cases wanted

theorem Puts.ne_pass {room : Disk} {place : List String} {contents : Contents}
    (puts : i.Puts d d' p room place contents) : i ≠ .pass := by
  rintro rfl
  cases puts.wanted

/-- **What an intent that is carried out does to a disk.** -/
theorem enact_writing_ok_iff : i.enact p (.writing d) = (.ok (), sink) ↔
    (i = .pass ∧ sink = .writing d) ∨
      ∃ room place contents d', sink = .writing d' ∧ i.Puts d d' p room place contents := by
  cases i with
  | pass =>
      constructor
      · intro done
        cases done
        exact Or.inl ⟨rfl, rfl⟩
      · rintro (⟨-, rfl⟩ | ⟨_, _, _, _, -, puts⟩)
        · rfl
        · cases puts.wanted
  | refuse error =>
      constructor
      · exact fun done => by cases done
      · rintro (⟨h, -⟩ | ⟨_, _, _, _, -, puts⟩)
        · cases h
        · cases puts.wanted
  | write contents =>
      simp only [enact, Sink.write, Sink.writing, reduceCtorEq, false_and, false_or]
      constructor
      · intro done
        obtain ⟨result, rfl⟩ := Prod.mk.inj done
        obtain ⟨room, made, there⟩ := Sink.place_eq_ok_iff.1 (Prod.ext result rfl)
        obtain ⟨place, leads, same⟩ := Option.map_eq_some_iff.1 there
        exact ⟨room, place, contents, _, rfl, ⟨made, leads, same.symm⟩, rfl⟩
      · rintro ⟨room, place, _, d', rfl, ⟨made, leads, same⟩, wanted⟩
        cases wanted
        have there : room.write p contents = some d' := by
          rw [Disk.write, leads, Option.map_some, same]
          rfl
        rw [Sink.place_eq_ok_iff.2 ⟨room, made, there⟩]
  | copy source =>
      simp only [enact, Sink.copy, Sink.writing, reduceCtorEq, false_and, false_or]
      constructor
      · intro done
        obtain ⟨result, rfl⟩ := Prod.mk.inj done
        obtain ⟨room, made, there⟩ := Sink.place_eq_ok_iff.1 (Prod.ext result rfl)
        simp only [Disk.copy] at there
        split at there
        · rename_i contents place there' leads
          exact ⟨room, place, _, _, rfl, ⟨made, leads, (Option.some.inj there).symm⟩,
            by simp [contents?, there']⟩
        · cases there
      · rintro ⟨room, place, contents, d', rfl, ⟨made, leads, same⟩, wanted⟩
        obtain ⟨held, there, rfl⟩ := Option.map_eq_some_iff.1 wanted
        have there : room.copy source p = some d' := by
          simp only [Disk.copy, there, leads, same]
          rfl
        rw [Sink.place_eq_ok_iff.2 ⟨room, made, there⟩]

/-- What fails leaves some more folders, and it is the sink that failed if nothing was
refused. -/
theorem enact_writing_error {error : FileError}
    (failed : i.enact p (.writing d) = (.error error, sink)) :
    ∃ d', sink = .writing d' ∧ Disk.Grows d d' ∧
      (i = .refuse error ∨ error.isOfSink = true) := by
  cases i with
  | pass => cases failed
  | refuse error =>
      cases failed
      exact ⟨d, rfl, Disk.Grows.refl d, Or.inl rfl⟩
  | write contents =>
      obtain ⟨result, rfl⟩ := Prod.mk.inj failed
      obtain ⟨grows, reason⟩ := Sink.place_eq_error (Prod.ext result rfl)
      refine ⟨_, rfl, grows, Or.inr ?_⟩
      rcases reason with rfl | ⟨folder, rfl⟩ <;> rfl
  | copy source =>
      obtain ⟨result, rfl⟩ := Prod.mk.inj failed
      obtain ⟨grows, reason⟩ := Sink.place_eq_error (Prod.ext result rfl)
      refine ⟨_, rfl, grows, Or.inr ?_⟩
      rcases reason with rfl | ⟨folder, rfl⟩ <;> rfl

end Intent

end ApiForge
