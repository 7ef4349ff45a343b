import ApiForge.Description.Load
import ApiForge.Proofs.Bundle
import ApiForge.Proofs.Description.Security
import ApiForge.Proofs.Description.Straight
import ApiForge.Proofs.Operations.Groups
/-
# ApiForge.Proofs.Description.RoundTrip -- a loaded description can be loaded again

The written form of a description that was loaded has nothing left to straighten
(`Normalize.document_toJson`): its path items have the names of fields and verbs only, in lower
case, and a parameter that is no reference is not replaced.  Since every record is read back as
it is, the description comes out again (`Description.parse_returns`).

References are followed once.  A shared parameter that is itself a reference to another one is
therefore put in place as it stands, and it would be replaced when the description is read again.
-/

namespace ApiForge

set_option autoImplicit false

universe u

/-! ## Values that do not change -/

theorem Entries.mapValues_eq_self {α : Type u} {f : String → α → α} {es : List (String × α)}
    (fixed : ∀ e ∈ es, f e.1 e.2 = e.2) : mapValues f es = es := by
  have same : es.map (fun e => (e.1, f e.1 e.2)) = es.map id :=
    List.map_congr_left fun e mem => by rw [fixed e mem, id]
  exact same.trans (List.map_id es)

namespace Json

variable {fields : List (String × Json)} {name : String}

/-- Putting in again what is there changes nothing. -/
theorem setField_object {value : Json} (stands : (object fields).field? name = some value) :
    (object fields).setField name value = object fields :=
  congrArg obj ((Entries.Sorted.ofList fields).insert_eq stands)

theorem modifyField_object {f : Json → Json}
    (fixed : ∀ value, (object fields).field? name = some value → f value = value) :
    (object fields).modifyField name f = object fields := by
  rw [modifyField]
  split
  · rename_i value stands
    rw [fixed value stands, setField_object stands]
  · rfl

end Json

/-! ## What is straight already -/

namespace Normalize

theorem mapPathItems_object {f : Json → Json} {fields : List (String × Json)}
    (fixed : ∀ items, (Json.object fields).field? "paths" = some (.obj items) →
      ∀ e ∈ items, f e.2 = e.2) :
    mapPathItems f (.object fields) = .object fields := by
  rw [mapPathItems]
  split
  · rename_i items stands
    rw [Entries.mapValues_eq_self (fixed items stands), Json.setField_object stands]
  · rfl

/-- Names that a path item keeps as they are. -/
def IsPlain (name : String) : Prop :=
  isKept name = true ∧ Text.asciiLowerText name = name

instance (name : String) : Decidable (IsPlain name) :=
  inferInstanceAs (Decidable (_ ∧ _))

theorem IsPlain.isSettled {name : String} (plain : IsPlain name) : IsSettled name :=
  ⟨plain.1, settledName_of_still fun moved => moved.1 plain.2⟩

/-- A path item with plain names only is straight already. -/
theorem normalizeItem_object {fields : List (String × Json)}
    (plain : ∀ e ∈ fields, IsPlain e.1) : normalizeItem (.object fields) = .object fields :=
  normalizeItem_of_settled fun e mem => (plain e (Entries.mem_of_mem_ofList mem)).isSettled

/-- Parameters that refer to nothing are not replaced. -/
theorem inlineParameters_eq_self (shared : List (String × Json)) {items : List Json}
    (own : ∀ item ∈ items, item.field? "$ref" = none) :
    inlineParameters shared (.arr items) = .arr items := by
  refine congrArg Json.arr (Eq.trans (List.map_congr_left fun item mem => ?_) (List.map_id items))
  rw [referredParameter?, own item mem]
  rfl

/-- A path item is left as it is if its parameters and those of its operations are. -/
theorem inlineInItem_object {shared : List (String × Json)} {fields : List (String × Json)}
    (fixed : ∀ e ∈ fields, inlineInField shared e.1 e.2 = e.2) :
    inlineInItem shared (.object fields) = .object fields :=
  congrArg Json.obj (Entries.mapValues_eq_self fun e mem =>
    fixed e (Entries.mem_of_mem_ofList mem))

end Normalize

/-! ## Parameters that are no references -/

/-- Is the parameter written down in place? -/
def Parameter.IsOwn (p : Parameter) : Prop := p.extensions.contains "$ref" = false

instance (p : Parameter) : Decidable p.IsOwn := inferInstanceAs (Decidable (_ = _))

/-- The parameters that a path lists for itself and for its operations. -/
def PathItem.listedParameters (p : PathItem) : List Parameter :=
  p.parameters ++ p.operations.flatMap fun op => op.2.parameters.getD []

/-- Every parameter that a path lists is written down in place. -/
def Description.Dereferenced (d : Description) : Prop :=
  ∀ paths ∈ d.paths, ∀ e ∈ paths.entries, ∀ p ∈ e.2.listedParameters, p.IsOwn

instance (d : Description) : Decidable d.Dereferenced :=
  inferInstanceAs (Decidable (∀ paths ∈ d.paths, _))

theorem Parameter.IsOwn.field?_toJson {p : Parameter} (own : p.IsOwn) :
    p.toJson.field? "$ref" = none := by
  have absent : p.extensions.get? "$ref" = none :=
    Option.isNone_iff_eq_none.1 (by simpa [IsOwn, Dict.contains] using own)
  rw [toJson, Json.field?_object]
  simp [Entries.get?_append, Entries.get?, Dict.get?_entries_reverse, absent]

theorem inlineParameters_toJson (shared : List (String × Json)) {parameters : List Parameter}
    (own : ∀ p ∈ parameters, p.IsOwn) :
    Normalize.inlineParameters shared (.arr (parameters.map Parameter.toJson))
      = .arr (parameters.map Parameter.toJson) := by
  refine Normalize.inlineParameters_eq_self shared ?_
  rw [List.forall_mem_map]
  exact fun p mem => (own p mem).field?_toJson

namespace Operation

variable {j : Json} {o : Operation}

theorem get?_extensions (read : decode j = some o) {name : String} (mem : name ∈ fieldNames) :
    o.extensions.get? name = none := by
  simp only [decode, Option.bind_eq_bind, Option.bind_eq_some_iff, Option.pure_def,
    Option.some.injEq] at read
  obtain ⟨_, -, _, -, _, -, _, -, _, -, _, -, _, -, _, -, _, -, _, -, rfl⟩ := read
  exact get?_surplusFields mem

theorem field?_parameters (read : decode j = some o) :
    o.toJson.field? "parameters"
      = o.parameters.map fun ps => .arr (ps.map Parameter.toJson) := by
  have absent := get?_extensions read (show "parameters" ∈ fieldNames by decide)
  rw [toJson, Json.field?_object]
  simp [Entries.get?_append, Dict.get?_entries_reverse, absent]

/-- An operation without references is left as it is. -/
theorem modifyField_toJson (read : decode j = some o)
    (own : ∀ p ∈ o.parameters.getD [], p.IsOwn) (shared : List (String × Json)) :
    o.toJson.modifyField "parameters" (Normalize.inlineParameters shared) = o.toJson := by
  refine Json.modifyField_object fun value stands => ?_
  rw [← toJson, field?_parameters read] at stands
  obtain ⟨parameters, listed, rfl⟩ := Option.map_eq_some_iff.1 stands
  rw [listed, Option.getD_some] at own
  exact inlineParameters_toJson shared own

end Operation

/-! ## Path items -/

namespace PathItem

variable {j : Json} {p : PathItem}

theorem exists_decode_of_mem (read : decode j = some p) {op : Verb × Operation}
    (mem : op ∈ p.operations) : ∃ written, Operation.decode written = some op.2 := by
  obtain ⟨verb, operation⟩ := op
  have found : p.operation? verb = some operation := PlacedOperation.mem_operations_iff.1 mem
  simp only [decode, Option.bind_eq_bind, Option.bind_eq_some_iff, Option.pure_def,
    Option.some.injEq] at read
  obtain ⟨r, -, summary, -, description, -, get, readGet, head, readHead, put, readPut, post,
    readPost, delete, readDelete, patch, readPatch, options, readOptions, parameters, -, rfl⟩ :=
    read
  have reads : r.optional verb.name Operation.decode = some (some operation) := by
    cases verb <;> cases found <;> assumption
  obtain ⟨written, -, one⟩ := Json.Decode.exists_of_optional reads
  exact ⟨written, one⟩

/-- A path item is written as texts, its operations under their verbs, and its parameters. -/
theorem forall_mem_fields (P : String × Json → Prop)
    (texts : ∀ name ∈ ["summary", "description"], ∀ text : String, P (name, .str text))
    (operations : ∀ op ∈ p.operations, P (op.1.name, op.2.toJson))
    (parameters : P ("parameters", .arr (p.parameters.map Parameter.toJson))) :
    ∀ e ∈ optionalText "summary" p.summary ++ optionalText "description" p.description
      ++ (p.operations.map fun op => (op.1.name, op.2.toJson))
      ++ nonEmptyField "parameters" (p.parameters.map Parameter.toJson), P e := by
  simp only [List.forall_mem_append, optionalText, forall_mem_optionalField,
    forall_mem_nonEmptyField, List.forall_mem_map, Option.map_eq_some_iff]
  refine ⟨⟨⟨?_, ?_⟩, operations⟩, fun _ => parameters⟩
  · rintro _ ⟨text, -, rfl⟩
    exact texts _ (by decide) text
  · rintro _ ⟨text, -, rfl⟩
    exact texts _ (by decide) text

theorem normalizeItem_toJson (p : PathItem) : Normalize.normalizeItem p.toJson = p.toJson := by
  refine Normalize.normalizeItem_object (forall_mem_fields _ ?_ ?_ ?_)
  · exact fun name mem _ => (by decide : ∀ n ∈ ["summary", "description"], Normalize.IsPlain n)
      name mem
  · exact fun op _ => (by decide : ∀ v ∈ Verb.all, Normalize.IsPlain v.name) op.1 op.1.mem_all
  · exact (by decide : Normalize.IsPlain "parameters")

/-- A path item without references is left as it is. -/
theorem inlineInItem_toJson (read : decode j = some p)
    (own : ∀ parameter ∈ p.listedParameters, parameter.IsOwn) (shared : List (String × Json)) :
    Normalize.inlineInItem shared p.toJson = p.toJson := by
  rw [listedParameters, List.forall_mem_append, List.forall_mem_flatMap] at own
  refine Normalize.inlineInItem_object
    (forall_mem_fields (fun e => Normalize.inlineInField shared e.1 e.2 = e.2) ?_ ?_ ?_)
  · intro name mem text
    have other : name ≠ "parameters" ∧ Verb.isName name = false :=
      (by decide : ∀ n ∈ ["summary", "description"], n ≠ "parameters" ∧ Verb.isName n = false)
        name mem
    simp [Normalize.inlineInField, other.1, other.2]
  · intro op mem
    have verb : op.1.name ≠ "parameters" ∧ Verb.isName op.1.name = true :=
      (by decide : ∀ v ∈ Verb.all, v.name ≠ "parameters" ∧ Verb.isName v.name = true)
        op.1 op.1.mem_all
    obtain ⟨written, one⟩ := exists_decode_of_mem read mem
    simp only [Normalize.inlineInField, verb.1, verb.2, if_false, if_true]
    exact Operation.modifyField_toJson one (own.2 op mem) shared
  · exact inlineParameters_toJson shared own.1

end PathItem

/-! ## Descriptions -/

namespace Description

variable {j : Json} {d : Description}

theorem get?_extensions (read : decode j = some d) {name : String} (mem : name ∈ fieldNames) :
    d.extensions.get? name = none := by
  simp only [decode, Option.bind_eq_bind, Option.bind_eq_some_iff, Option.pure_def,
    Option.some.injEq] at read
  obtain ⟨_, -, _, -, _, -, _, -, _, -, _, -, _, -, _, -, _, -, rfl⟩ := read
  exact get?_surplusFields mem

theorem field?_paths (read : decode j = some d) :
    d.toJson.field? "paths" = d.paths.map fun ps => .ofDict (ps.mapValues fun _ p => p.toJson) := by
  have absent := get?_extensions read (show "paths" ∈ fieldNames by decide)
  rw [toJson, Json.field?_object]
  simp [Entries.get?_append, Dict.get?_entries_reverse, absent]

theorem exists_decode_of_mem (read : decode j = some d) {paths : Dict PathItem}
    (declared : d.paths = some paths) {e : String × PathItem} (mem : e ∈ paths.entries) :
    ∃ written, PathItem.decode written = some e.2 := by
  simp only [decode, Option.bind_eq_bind, Option.bind_eq_some_iff, Option.pure_def,
    Option.some.injEq] at read
  obtain ⟨_, -, _, -, _, -, _, -, found, readPaths, _, -, _, -, _, -, _, -, rfl⟩ := read
  obtain rfl : found = some paths := declared
  obtain ⟨_, -, one⟩ := Json.Decode.exists_of_optional readPaths
  exact Json.Decode.exists_of_get?_dict one (Dict.mem_entries_iff.1 mem)

/-- A step over the path items leaves a description as it is if it leaves them so. -/
theorem mapPathItems_toJson (read : decode j = some d) {f : Json → Json}
    (fixed : ∀ paths, d.paths = some paths → ∀ e ∈ paths.entries, f e.2.toJson = e.2.toJson) :
    Normalize.mapPathItems f d.toJson = d.toJson := by
  refine Normalize.mapPathItems_object fun items stands => ?_
  rw [← toJson, field?_paths read] at stands
  obtain ⟨paths, declared, same⟩ := Option.map_eq_some_iff.1 stands
  obtain rfl : Entries.mapValues (fun _ p => p.toJson) paths.entries = items := Json.obj.inj same
  rw [Entries.mapValues, List.forall_mem_map]
  exact fixed paths declared

end Description

/-- **Nothing is left to straighten in the written form of a description that was decoded.** -/
theorem Normalize.document_toJson {j : Json} {d : Description}
    (read : Description.decode j = some d) (dereferenced : d.Dereferenced) :
    document d.toJson = d.toJson := by
  have verbs : normalizeVerbs d.toJson = d.toJson :=
    d.mapPathItems_toJson read fun _ _ e _ => e.2.normalizeItem_toJson
  rw [document, verbs, inlineSharedParameters]
  split
  · rfl
  · refine d.mapPathItems_toJson read fun paths declared e mem => ?_
    obtain ⟨written, one⟩ := Description.exists_decode_of_mem read declared mem
    exact PathItem.inlineInItem_toJson one (dereferenced paths declared e mem) _

namespace Description

/-- The URLs of the declared security schemes. -/
def schemeUrls (d : Description) : List String := d.securitySchemes.values.flatMap (·.urls)

theorem exists_decode_scheme {j : Json} {d : Description} (read : decode j = some d)
    {name : String} {scheme : SecurityScheme}
    (declared : d.securitySchemes.get? name = some scheme) :
    ∃ written, SecurityScheme.decode written = some scheme := by
  simp only [decode, Option.bind_eq_bind, Option.bind_eq_some_iff, Option.pure_def,
    Option.some.injEq] at read
  obtain ⟨_, -, _, -, _, -, _, -, _, -, found, readComponents, _, -, _, -, _, -, rfl⟩ := read
  cases found with
  | none => cases declared
  | some components =>
      obtain ⟨_, -, one⟩ := Json.Decode.exists_of_optional readComponents
      simp only [Components.decode, Option.bind_eq_bind, Option.bind_eq_some_iff,
        Option.pure_def, Option.some.injEq] at one
      obtain ⟨r, -, _, -, schemes, readSchemes, _, -, rfl⟩ := one
      rw [Json.Decode.Record.withDefault] at readSchemes
      split at readSchemes
      · exact Json.Decode.exists_of_get?_dict readSchemes declared
      · cases readSchemes
        cases declared

theorem exists_decode_of_parse {format : Format} {text : String} {d : Description}
    (parsed : parse format text = .ok d) : ∃ j, decode j = some d := by
  rw [parse] at parsed
  split at parsed
  · cases parsed
  · split at parsed
    · cases parsed
    · rename_i read
      cases parsed
      exact ⟨_, read⟩

/-- **A description that was parsed comes out again when its written form, which is what the
bundle holds, goes the same way.**  The parameters that its paths list are no references, and
the URLs of its security schemes are read as they are written. -/
theorem parse_returns {format : Format} {text : String} {d : Description}
    (parsed : parse format text = .ok d) (dereferenced : d.Dereferenced)
    (urls : ∀ url ∈ d.schemeUrls, IsReadAsWritten url) :
    decode (Normalize.document d.toJson) = some d ∧
      ∀ models operations run,
        (Bundle.draft d models operations run).get? Key.openApi = some d.toJson := by
  obtain ⟨j, read⟩ := exists_decode_of_parse parsed
  refine ⟨?_, fun models operations run => ?_⟩
  · rw [Normalize.document_toJson read dereferenced]
    refine decode_toJson read fun name scheme declared => ?_
    obtain ⟨written, one⟩ := exists_decode_scheme read declared
    refine SecurityScheme.decode_toJson one fun url mem => urls url (List.mem_flatMap.2 ?_)
    exact ⟨scheme, List.mem_map.2 ⟨(name, scheme), Dict.mem_entries_iff.2 declared, rfl⟩, mem⟩
  · have stands : (Key.openApi, d.toJson) ∈ Bundle.ownFields d models operations run := by
      simp [Bundle.ownFields]
    exact Bundle.get?_draft_of_mem stands

/-- A description with empty lists, flags that are not set, surplus fields and a reference. -/
def petText : String :=
  "openapi: 3.0.0
x-stage: null
security: []
tags: []
components:
  securitySchemes:
    session:
      type: oauth2
      flows:
        password:
          tokenUrl: http://localhost/token
  parameters:
    Limit:
      name: limit
      in: query
      x-unit: null
paths:
  /pets:
    GET:
      tags: []
      security: []
      deprecated: false
      x-rank: 1
      parameters:
        - $ref: '#/components/parameters/Limit'
    parameters:
      - name: trace
        in: header
        required: false
"

set_option maxRecDepth 4000 in
theorem parse_returns_pets : ∃ d, parse .yaml petText = .ok d ∧ d.Dereferenced ∧
    d.schemeUrls = ["http://localhost/token"] ∧ (∀ url ∈ d.schemeUrls, IsReadAsWritten url) ∧
    decode (Normalize.document d.toJson) = some d := by
  have made : ((parse .yaml petText).toOption.any fun d => decide (d.Dereferenced ∧
      d.schemeUrls = ["http://localhost/token"] ∧
      ∀ url ∈ d.schemeUrls, IsReadAsWritten url)) = true := by
    -- The kernel is slow at taking a string apart, so its characters are put in first.
    rw [parse, readSyntax, Yaml.parse, Yaml.Token.list, show petText = .ofList _ from rfl,
      String.toList_ofList]
    decide +kernel
  obtain ⟨d, parsed, holds⟩ := (Option.any_eq_true _ _).1 made
  obtain ⟨dereferenced, listed, urls⟩ := of_decide_eq_true holds
  have done := eq_ok_of_toOption parsed
  exact ⟨d, done, dereferenced, listed, urls, (parse_returns done dereferenced urls).1⟩

end Description

end ApiForge
