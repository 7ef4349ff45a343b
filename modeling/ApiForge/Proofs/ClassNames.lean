import ApiForge.Proofs.FileNames
import ApiForge.Proofs.Models.Admission
import ApiForge.Proofs.Run.Obliging
import Mathlib.Data.Set.Function
/-
# ApiForge.Proofs.ClassNames -- what the files of a class give away

The backend of a manifest calls files by the snake case of class names.  Snake case is not
injective: separators are merged and other characters are dropped.  Class names have neither,
for they are type names (`ManifestBackend.isTypeName_of_mem_classNames`), also where a name
starts with a digit and where nothing is left of it.  So the class can be read off the name of
its file, and files are called apart exactly where classes are
(`ManifestBackend.filenames_separate`).
-/

namespace ApiForge

set_option autoImplicit false

open ApiForge.Text

/-- The class names that there can be, of models and of groups. -/
def Naming.classNames (n : Naming) : Set String :=
  Set.range n.modelName ∪ Set.range fun tag => n.apiName (n.sanitizeTag tag)

namespace ManifestBackend

variable (b : ManifestBackend)

theorem modelFilename_eq (name : String) :
    b.naming.modelFilename name = snakeCase (b.naming.modelName name) := rfl

theorem apiFilename_eq (tag : String) :
    b.naming.apiFilename tag = snakeCase (b.naming.apiName tag) := rfl

theorem isTypeName_of_mem_classNames {className : String}
    (mem : className ∈ b.naming.classNames) : IsTypeName className := by
  have model : b.naming.modelName = Naming.typeName := rfl
  have api : b.naming.apiName = Naming.apiTypeName := rfl
  have key : b.naming.sanitizeTag = Naming.typeName := rfl
  rw [Naming.classNames, model, api, key] at mem
  rcases mem with ⟨name, rfl⟩ | ⟨tag, rfl⟩
  · exact Naming.isTypeName_typeName name
  · exact Naming.isTypeName_apiTypeName (Naming.isTypeName_typeName tag)

/-- **The class can be read off the name of its file.** -/
theorem leftInvOn_snakeCase :
    Set.LeftInvOn typeNameOfSnakeCase snakeCase b.naming.classNames :=
  fun _ mem => typeNameOfSnakeCase_snakeCase (b.isTypeName_of_mem_classNames mem)

theorem injOn_snakeCase : Set.InjOn snakeCase b.naming.classNames :=
  b.leftInvOn_snakeCase.injOn

-- names that are no class names may share their snake case
example : snakeCase "pet-store" = snakeCase "pet_store" ∧ snakeCase "a.b" = snakeCase "ab" := by
  decide

theorem modelFilename_eq_iff (s t : String) :
    b.naming.modelFilename s = b.naming.modelFilename t ↔
      b.naming.modelName s = b.naming.modelName t := by
  rw [modelFilename_eq, modelFilename_eq]
  exact b.injOn_snakeCase.eq_iff (Or.inl ⟨s, rfl⟩) (Or.inl ⟨t, rfl⟩)

/-- The files of groups are called alike where their classes are, if the keys are sanitized. -/
theorem apiFilename_eq_iff (s t : String) :
    b.naming.apiFilename (b.naming.sanitizeTag s) = b.naming.apiFilename (b.naming.sanitizeTag t) ↔
      b.naming.apiName (b.naming.sanitizeTag s) = b.naming.apiName (b.naming.sanitizeTag t) := by
  rw [apiFilename_eq, apiFilename_eq]
  exact b.injOn_snakeCase.eq_iff (Or.inr ⟨s, rfl⟩) (Or.inr ⟨t, rfl⟩)

/-- Models of one table have sources of different names. -/
theorem nodup_filenames {table : ModelTable} (named : table.Named b.toBackend) (suffix : String) :
    ((Dict.values table).map fun m => b.naming.modelFilename m.name ++ suffix).Nodup := by
  refine List.pairwise_map.2 ((List.pairwise_map.1
    (ModelTable.pairwise_classNames named)).imp fun {m m'} before same => ?_)
  have alike : b.naming.modelFilename m.name = b.naming.modelFilename m'.name := by
    rwa [← String.toList_inj, String.toList_append, String.toList_append,
      List.append_cancel_right_eq, String.toList_inj] at same
  exact String.ne_of_lt before ((b.modelFilename_eq_iff _ _).1 alike)

/-- **Files are called apart exactly where classes are.**  The names of the files of two models,
or of two groups, are the same only where their class names are; the class can be read off the
name of the file, so that snake case is injective on all class names; and the models of a table
have sources of different names under every suffix. -/
theorem filenames_separate :
    (∀ s t, b.naming.modelFilename s = b.naming.modelFilename t ↔
        b.naming.modelName s = b.naming.modelName t) ∧
      (∀ s t, b.naming.apiFilename (b.naming.sanitizeTag s)
          = b.naming.apiFilename (b.naming.sanitizeTag t) ↔
        b.naming.apiName (b.naming.sanitizeTag s) = b.naming.apiName (b.naming.sanitizeTag t)) ∧
      Set.LeftInvOn typeNameOfSnakeCase snakeCase b.naming.classNames ∧
      Set.InjOn snakeCase b.naming.classNames ∧
      ∀ schemas allowed properties, ∃ table,
        ModelTable.build b.toBackend schemas allowed properties = .ok table ∧
        ∀ suffix,
          ((Dict.values table).map fun m => b.naming.modelFilename m.name ++ suffix).Nodup := by
  refine ⟨b.modelFilename_eq_iff, b.apiFilename_eq_iff, b.leftInvOn_snakeCase,
    b.injOn_snakeCase, fun schemas allowed properties => ?_⟩
  obtain ⟨table, built⟩ := b.obliging.build schemas properties allowed
  exact ⟨table, built, b.nodup_filenames (ModelTable.named_of_build (fun _ => rfl) built)⟩

/-- A name that starts with a digit, one that nothing is left of, two spellings of a third, and
two keys of groups that are called alike. -/
theorem filenames_separate_odd_names :
    let n := ManifestBackend.naming ⟨.standard, ⟨""⟩, none⟩
    n.modelFilename "1st" ≠ n.modelFilename "-" ∧
      n.modelFilename "pet store" = n.modelFilename "PetStore" ∧
      n.apiFilename (n.sanitizeTag "_") = n.apiFilename (n.sanitizeTag "default") := by
  obtain ⟨models, groups, -⟩ := filenames_separate ⟨.standard, ⟨""⟩, none⟩
  exact ⟨(models _ _).not.2 (by decide), (models _ _).2 (by decide),
    (groups _ _).2 (by decide)⟩

end ManifestBackend

end ApiForge
