import ApiForge.Bundle
import ApiForge.Models.Files
import ApiForge.Operations.Files
import Mathlib.Data.List.Forall2
/-
# ApiForge.Proofs.Output.Rendered -- what files are made from

The files of a model and those of a group come from templates, and all of them see the context
of the model or of the group (`Task.Renders`).  A supporting file comes from the file of the
template folders that its own descriptor names, and that file sees the bundle (`Task.Provides`).
-/

namespace ApiForge

set_option autoImplicit false

/-- The task makes a file for the subject, from a template that sees the context. -/
structure Task.Renders (subject : Subject) (context : Context) (t : Task) : Prop where
  subject : t.subject = subject
  notStamp : t.category ≠ .metadata
  making : ∃ template, t.making = .render template context

theorem Task.renders_of_mem_ofTemplates {subject : Subject} {category : FileCategory}
    {folder : Path} {filename : String} {templates : Dict String} {context : Context} {t : Task}
    (notStamp : category ≠ .metadata)
    (mem : t ∈ ofTemplates subject category folder filename templates context) :
    t.Renders subject context := by
  obtain ⟨entry, -, rfl⟩ := List.mem_map.1 mem
  exact ⟨rfl, notStamp, entry.1, rfl⟩

theorem TableModel.renders_of_mem_tasks {backend : Backend} {options : Options}
    {m : TableModel} {t : Task} (mem : t ∈ m.tasks backend options) :
    t.Renders (.model m.name) m.context := by
  simp only [tasks, sources, tests, documentation, List.mem_append] at mem
  rcases mem with (source | test) | documentation
  · split at source
    · cases source
    · exact Task.renders_of_mem_ofTemplates (by decide) source
  · split at test
    · exact Task.renders_of_mem_ofTemplates (by decide) test
    · cases test
  · split at documentation
    · exact Task.renders_of_mem_ofTemplates (by decide) documentation
    · cases documentation

theorem renders_of_mem_groupTasks {backend : Backend} {options : Options} {tag : String}
    {context : Context} {t : Task} (mem : t ∈ groupTasks backend options tag context) :
    t.Renders (.api tag) context := by
  simp only [groupTasks, List.mem_append] at mem
  rcases mem with (source | test) | documentation
  · exact Task.renders_of_mem_ofTemplates (by decide) source
  · split at test
    · exact Task.renders_of_mem_ofTemplates (by decide) test
    · cases test
  · split at documentation
    · exact Task.renders_of_mem_ofTemplates (by decide) documentation
    · cases documentation

/-- The task makes the supporting file of a descriptor, from the file that the descriptor names,
which sees the context. -/
structure Task.Provides (output : Path) (context : Context) (f : SupportingFile) (t : Task) :
    Prop where
  subject : t.subject = .supportingFile f.text
  path : t.path = (f.target output).join f.destination
  category : t.category = .supporting
  making : t.making = .provide f.template context

/-- The wanted descriptors have a task each, in the order in which they are declared. -/
theorem forall₂_supportingTasks (backend : Backend) (config : Config) (bundle : Context) :
    List.Forall₂ (Task.Provides backend.layout.outputFolder bundle)
      (backend.layout.supportingFiles.filter fun f => config.wants f.destination)
      (supportingTasks backend config bundle) := by
  rw [supportingTasks, List.forall₂_map_right_iff, List.forall₂_same]
  exact fun f _ => ⟨rfl, rfl, rfl, rfl⟩

end ApiForge
