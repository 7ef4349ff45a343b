import ApiForge.Context
import ApiForge.Proofs.Dict
/-
# ApiForge.Proofs.Context -- looking things up in contexts

A field of an object is a lookup in its entries, whether the object was written down, made
from a map, or changed in a field.  A name without a dot is an entry of a context, and a name
with one dot is a field of an entry.
-/

namespace ApiForge

set_option autoImplicit false

open ApiForge.Text

namespace Json

theorem field?_ofDict (d : Dict Json) (name : String) : (ofDict d).field? name = d.get? name :=
  rfl

/-- Of the fields with one name the last one counts. -/
theorem field?_object (fields : List (String × Json)) (name : String) :
    (object fields).field? name = Entries.get? fields.reverse name :=
  Entries.get?_ofList fields name

theorem field?_setField_of_ne (j : Json) {name other : String} (value : Json)
    (ne : name ≠ other) : (j.setField name value).field? other = j.field? other := by
  cases j with
  | obj fields =>
      show Entries.get? (Entries.insert fields name value) other = Entries.get? fields other
      rw [Entries.get?_insert, if_neg ne]
  | _ => rfl

theorem field?_setField {j old : Json} {name : String} (stands : j.field? name = some old)
    (value : Json) : (j.setField name value).field? name = some value := by
  cases j with
  | obj fields => exact (Entries.get?_insert fields name name value).trans (if_pos rfl)
  | _ => cases stands

/-- A field that is set again takes the place of what was there. -/
theorem setField_object_append (front back : List (String × Json)) {name : String}
    (old new : Json) (last : ∀ e ∈ back, e.1 ≠ name) :
    (object (front ++ (name, old) :: back)).setField name new
      = object (front ++ (name, new) :: back) := by
  have same : (Dict.ofList (front ++ (name, old) :: back)).insert name new
      = .ofList (front ++ (name, new) :: back) := by
    refine Dict.ext_get? fun other => ?_
    have behind : Entries.get? back.reverse name = none :=
      Entries.get?_eq_none_of_forall_ne fun e mem => last e (List.mem_reverse.1 mem)
    by_cases here : name = other
    · subst here
      simp [Dict.get?_ofList, Entries.get?_append, Entries.get?, behind]
    · simp [Dict.get?_insert, Dict.get?_ofList, Entries.get?_append, Entries.get?, here]
  exact congrArg (fun d => obj (Dict.entries d)) same

theorem setField_setField (j : Json) (name : String) (first second : Json) :
    (j.setField name first).setField name second = j.setField name second := by
  cases j with
  | obj fields => exact congrArg obj (Entries.insert_insert fields name first second)
  | _ => rfl

theorem field?_modifyField (j : Json) (name other : String) (f : Json → Json) :
    (j.modifyField name f).field? other =
      if name = other then (j.field? other).map f else j.field? other := by
  cases found : j.field? name with
  | none =>
      simp only [modifyField, found]
      split
      · rename_i same
        rw [← same, found]
        rfl
      · rfl
  | some v =>
      cases j with
      | obj fields =>
          simp only [modifyField, found, setField]
          show Entries.get? (Entries.insert fields name (f v)) other = _
          rw [Entries.get?_insert]
          split
          · rename_i same
            rw [← same, found]
            rfl
          · rfl
      | _ => cases found

theorem modifyField_modifyField (j : Json) (name : String) (f g : Json → Json) :
    (j.modifyField name f).modifyField name g = j.modifyField name (g ∘ f) := by
  cases stands : j.field? name with
  | none =>
      have absent (h : Json → Json) : j.modifyField name h = j := by simp only [modifyField, stands]
      rw [absent, absent, absent]
  | some value =>
      have made (h : Json → Json) : j.modifyField name h = j.setField name (h value) := by
        simp only [modifyField, stands]
      rw [made, made, modifyField, field?_setField stands]
      exact setField_setField j name (f value) (g (f value))

end Json

namespace Context

variable {c : Context} {name : String}

theorem mem_missing_iff {names : List String} :
    name ∈ c.missing names ↔ name ∈ names ∧ c.lookup name = none := by
  simp [missing]

theorem missing_eq_nil_iff {names : List String} :
    c.missing names = [] ↔ ∀ name ∈ names, (c.lookup name).isSome := by
  simp [missing, List.filter_eq_nil_iff, Option.isSome_iff_ne_none]

theorem lookup_plain (plain : splitString (· = '.') name = [name]) :
    c.lookup name = c.get? name := by
  simp only [lookup, plain]
  cases c.get? name <;> rfl

theorem lookup_dotted {first second : String}
    (dotted : splitString (· = '.') name = [first, second]) :
    c.lookup name = (c.get? first).bind (·.field? second) := by
  simp only [lookup, dotted]
  cases c.get? first with
  | none => rfl
  | some j =>
      show (j.field? second).bind _ = j.field? second
      cases j.field? second <;> rfl

end Context

end ApiForge
