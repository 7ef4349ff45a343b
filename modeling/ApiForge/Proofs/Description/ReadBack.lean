import ApiForge.Description.Decode
import ApiForge.Description.Encode
import ApiForge.Proofs.Json.ReadBack
import ApiForge.Proofs.Properties
/-
# ApiForge.Proofs.Description.ReadBack -- descriptions are read back as they are

For every record of a description what its decoder gives is written so that it is read back
(`Operation.returns`, `PathItem.returns`).  A field is left out of the written form exactly
where the decoder puts the same value in again.  Surplus fields have none of the names that the
record knows, so they do not come between the named ones, and they are found again as they were
(`surplusFields_object`).  Security schemes are left open (`Description.decode_toJson`).
-/

namespace ApiForge

set_option autoImplicit false

open Json.Decode

/-! ## What is written under a name -/

section Written

variable (name other : String)

@[simp] theorem get?_reverse_single (value : Json) :
    Entries.get? [(name, value)].reverse other = if name = other then some value else none := rfl

@[simp] theorem get?_reverse_optionalField (value : Option Json) :
    Entries.get? (optionalField name value).reverse other
      = if name = other then value else none := by
  cases value <;> simp [optionalField, Entries.get?]

@[simp] theorem get?_reverse_optionalText (value : Option String) :
    Entries.get? (optionalText name value).reverse other
      = if name = other then value.map .str else none :=
  get?_reverse_optionalField name other _

@[simp] theorem get?_reverse_flagField (value : Bool) :
    Entries.get? (flagField name value).reverse other
      = if name = other then (if value then some (.bool true) else none) else none := by
  cases value <;> simp [flagField, Entries.get?]

@[simp] theorem get?_reverse_nonEmptyField (items : List Json) :
    Entries.get? (nonEmptyField name items).reverse other
      = if name = other then (if items.isEmpty then none else some (.arr items)) else none := by
  rw [nonEmptyField]
  split <;> simp [Entries.get?]

@[simp] theorem get?_reverse_nonEmptyMap (entries : Dict Json) :
    Entries.get? (nonEmptyMap name entries).reverse other
      = if name = other then (if entries.isEmpty then none else some (.ofDict entries))
        else none := by
  rw [nonEmptyMap]
  split <;> simp [Entries.get?]

theorem forall_mem_flagField {value : Bool} {P : String × Json → Prop} :
    (∀ e ∈ flagField name value, P e) ↔ (value = true → P (name, .bool true)) := by
  cases value <;> simp [flagField]

theorem forall_mem_nonEmptyField {items : List Json} {P : String × Json → Prop} :
    (∀ e ∈ nonEmptyField name items, P e) ↔ (items ≠ [] → P (name, .arr items)) := by
  cases items <;> simp [nonEmptyField]

end Written

/-! ## Fields beside the named ones -/

section Beside

variable {keep : String → Bool} {extensions : Dict Json} {named : List (String × Json)}

/-- What is kept beside the named fields is found again as it was. -/
theorem ofList_filter_object (apart : ∀ name, keep name = false → extensions.get? name = none)
    (own : ∀ e ∈ named, keep e.1 = false) :
    Dict.ofList ((Entries.ofList (extensions.entries ++ named)).filter fun e => keep e.1)
      = extensions := by
  refine Dict.ext_get? fun name => ?_
  have sorted := Entries.Sorted.ofList (extensions.entries ++ named)
  rw [Dict.get?_ofList, Entries.Sorted.get?_reverse (sorted.filter _),
    Entries.get?_filter_fst keep, Entries.get?_ofList, Entries.get?_reverse_append,
    Dict.get?_entries_reverse]
  cases kept : keep name with
  | false => simp [apart name kept]
  | true =>
      have absent : Entries.get? named.reverse name = none :=
        Entries.get?_eq_none_of_forall_ne fun e mem same => by
          simpa [same, kept] using own e (List.mem_reverse.1 mem)
      simp [absent]

/-- Where nothing is kept under a name, the named fields have their say. -/
theorem get?_object_of_apart {name : String} (apart : extensions.get? name = none) :
    Entries.get? (Entries.ofList (extensions.entries ++ named)) name
      = Entries.get? named.reverse name := by
  rw [Entries.get?_ofList, Entries.get?_reverse_append, Dict.get?_entries_reverse, apart,
    Option.or_none]

theorem get?_filter_eq_none {fields : List (String × Json)} {name : String}
    (dropped : keep name = false) :
    (Dict.ofList (fields.filter fun e => keep e.1)).get? name = none := by
  refine Dict.get?_ofList_eq_none fun e kept same => ?_
  simpa [same, dropped] using (List.mem_filter.1 kept).2

end Beside

section Surplus

variable {names : List String} {extensions : Dict Json} {named : List (String × Json)}

/-- Surplus fields have none of the names that a record knows. -/
theorem get?_surplusFields {j : Json} {name : String} (mem : name ∈ names) :
    (surplusFields names j).get? name = none := by
  cases j with
  | obj fields =>
      exact @get?_filter_eq_none (fun n => !names.contains n) fields name (by simpa using mem)
  | _ => rfl

theorem exists_surplusFields (names : List String) (j : Json) :
    ∃ extensions, surplusFields names j = extensions ∧
      ∀ name ∈ names, extensions.get? name = none :=
  ⟨_, rfl, fun _ mem => get?_surplusFields mem⟩

/-- Surplus fields do not come between the named ones. -/
theorem get?_object_of_mem (apart : ∀ name ∈ names, extensions.get? name = none)
    {name : String} (mem : name ∈ names) :
    Entries.get? (Entries.ofList (extensions.entries ++ named)) name
      = Entries.get? named.reverse name :=
  get?_object_of_apart (apart name mem)

/-- **Surplus fields are found again as they were.** -/
theorem surplusFields_object (apart : ∀ name ∈ names, extensions.get? name = none)
    (own : ∀ e ∈ named, e.1 ∈ names) :
    surplusFields names (.object (extensions.entries ++ named)) = extensions :=
  @ofList_filter_object (fun n => !names.contains n) extensions named
    (fun name known => apart name (by simpa using known)) fun e mem => by simpa using own e mem

end Surplus

/-! ## Records without surplus fields -/

theorem Contact.returns : Returns Contact.decode Contact.toJson where
  reads := by
    intro j c read
    simp only [Contact.decode, Option.bind_eq_bind, Option.bind_eq_some_iff, Option.pure_def,
      Option.some.injEq] at read ⊢
    obtain ⟨r, -, name, readName, url, readUrl, email, readEmail, rfl⟩ := read
    refine ⟨_, rfl, name, Returns.string.optional readName ?_, url,
      Returns.string.optional readUrl ?_, email, Returns.string.optional readEmail ?_, rfl⟩
    all_goals simp [Entries.get?_ofList, Entries.get?_append]
  present := fun _ _ same => nomatch same

theorem License.returns : Returns License.decode License.toJson where
  reads := by
    intro j l read
    simp only [License.decode, Option.bind_eq_bind, Option.bind_eq_some_iff, Option.pure_def,
      Option.some.injEq] at read ⊢
    obtain ⟨r, -, name, readName, url, readUrl, rfl⟩ := read
    refine ⟨_, rfl, name, Returns.string.nullable readName ?_, url,
      Returns.string.optional readUrl ?_, rfl⟩
    all_goals simp [Entries.get?_ofList, Entries.get?_append, Entries.get?]
  present := fun _ _ same => nomatch same

theorem Info.returns : Returns Info.decode Info.toJson where
  reads := by
    intro j i read
    simp only [Info.decode, Option.bind_eq_bind, Option.bind_eq_some_iff, Option.pure_def,
      Option.some.injEq] at read ⊢
    obtain ⟨r, -, title, readTitle, version, readVersion, description, readDescription,
      terms, readTerms, contact, readContact, license, readLicense, rfl⟩ := read
    refine ⟨_, rfl, title, Returns.string.optional readTitle ?_, version,
      Returns.string.optional readVersion ?_, description,
      Returns.string.optional readDescription ?_, terms, Returns.string.optional readTerms ?_,
      contact, Contact.returns.optional readContact ?_, license,
      License.returns.optional readLicense ?_, rfl⟩
    all_goals simp [Entries.get?_ofList, Entries.get?_append]
  present := fun _ _ same => nomatch same

theorem ServerVariable.returns : Returns ServerVariable.decode ServerVariable.toJson where
  reads := by
    intro j v read
    simp only [ServerVariable.decode, Option.bind_eq_bind, Option.bind_eq_some_iff,
      Option.pure_def, Option.some.injEq] at read ⊢
    obtain ⟨r, -, default, readDefault, allowed, readAllowed, description, readDescription,
      rfl⟩ := read
    refine ⟨_, rfl, default, Returns.string.required readDefault ?_, allowed,
      Returns.string.nonEmpty readAllowed ?_, description,
      Returns.string.optional readDescription ?_, rfl⟩
    all_goals simp [Entries.get?_ofList, Entries.get?_append, Entries.get?]
  present := fun _ _ same => nomatch same

theorem Server.returns : Returns Server.decode Server.toJson where
  reads := by
    intro j s read
    simp only [Server.decode, Option.bind_eq_bind, Option.bind_eq_some_iff, Option.pure_def,
      Option.some.injEq] at read ⊢
    obtain ⟨r, -, url, readUrl, description, readDescription, placeholders, readPlaceholders,
      rfl⟩ := read
    refine ⟨_, rfl, url, Returns.string.required readUrl ?_, description,
      Returns.string.optional readDescription ?_, placeholders,
      ServerVariable.returns.nonEmptyDict readPlaceholders ?_, rfl⟩
    all_goals simp [Entries.get?_ofList, Entries.get?_append, Entries.get?]
  present := fun _ _ same => nomatch same

theorem ExternalDocs.returns : Returns ExternalDocs.decode ExternalDocs.toJson where
  reads := by
    intro j d read
    simp only [ExternalDocs.decode, Option.bind_eq_bind, Option.bind_eq_some_iff,
      Option.pure_def, Option.some.injEq] at read ⊢
    obtain ⟨r, -, url, readUrl, description, readDescription, rfl⟩ := read
    refine ⟨_, rfl, url, Returns.string.required readUrl ?_, description,
      Returns.string.optional readDescription ?_, rfl⟩
    all_goals simp [Entries.get?_ofList, Entries.get?_append, Entries.get?]
  present := fun _ _ same => nomatch same

theorem Tag.returns : Returns Tag.decode Tag.toJson where
  reads := by
    intro j t read
    simp only [Tag.decode, Option.bind_eq_bind, Option.bind_eq_some_iff, Option.pure_def,
      Option.some.injEq] at read ⊢
    obtain ⟨r, -, name, readName, description, readDescription, docs, readDocs, rfl⟩ := read
    refine ⟨_, rfl, name, Returns.string.required readName ?_, description,
      Returns.string.optional readDescription ?_, docs, ExternalDocs.returns.optional readDocs ?_,
      rfl⟩
    all_goals simp [Entries.get?_ofList, Entries.get?_append, Entries.get?]
  present := fun _ _ same => nomatch same

theorem ParameterLocation.returns :
    Returns ParameterLocation.decode fun l => .str l.name where
  reads := fun {_ l} _ => by cases l <;> rfl
  present := fun _ _ same => nomatch same

theorem returns_strings : Returns (list string) .ofStrings := Returns.string.list

theorem returns_requirement : Returns decodeRequirement encodeRequirement :=
  returns_strings.dict

theorem returns_requirements : Returns (list decodeRequirement) encodeRequirements :=
  returns_requirement.list

/-! ## Parameters and operations -/

theorem Parameter.returns : Returns Parameter.decode Parameter.toJson where
  reads := by
    intro j p read
    simp only [Parameter.decode, Option.bind_eq_bind, Option.bind_eq_some_iff, Option.pure_def,
      Option.some.injEq] at read ⊢
    obtain ⟨r, -, name, readName, location, readLocation, required, -, description,
      readDescription, schema, readSchema, rfl⟩ := read
    obtain ⟨extensions, same, apart⟩ := exists_surplusFields
      ["name", "in", "required", "description", "schema"] j
    simp only [same, Parameter.toJson, List.append_assoc]
    refine ⟨_, rfl, name, Returns.string.required readName ?_, location,
      ParameterLocation.returns.required readLocation ?_, required, flag_of_field ?_,
      description, Returns.string.optional readDescription ?_, schema,
      Returns.any.optional readSchema ?_, ?_⟩
    case refine_6 =>
      rw [surplusFields_object apart]
      simp only [List.forall_mem_append, List.forall_mem_cons, forall_mem_optionalField,
        forall_mem_flagField, optionalText]
      simp
    all_goals simp [get?_object_of_mem apart, Entries.get?_append, Entries.get?]
  present := fun _ _ same => nomatch same

theorem Operation.returns : Returns Operation.decode Operation.toJson where
  reads := by
    intro j o read
    simp only [Operation.decode, Option.bind_eq_bind, Option.bind_eq_some_iff, Option.pure_def,
      Option.some.injEq] at read ⊢
    obtain ⟨r, -, operationId, readId, summary, readSummary, description, readDescription,
      tags, readTags, parameters, readParameters, body, readBody, responses, readResponses,
      security, readSecurity, deprecated, -, rfl⟩ := read
    obtain ⟨extensions, same, apart⟩ := exists_surplusFields fieldNames j
    simp only [same, Operation.toJson, List.append_assoc]
    refine ⟨_, rfl, operationId, Returns.string.optional readId ?_, summary,
      Returns.string.optional readSummary ?_, description,
      Returns.string.optional readDescription ?_, tags, returns_strings.optional readTags ?_,
      parameters, Parameter.returns.list.optional readParameters ?_, body,
      Returns.any.optional readBody ?_, responses, Returns.dictAny.optional readResponses ?_,
      security, returns_requirements.optional readSecurity ?_, deprecated, flag_of_field ?_, ?_⟩
    case refine_10 =>
      rw [surplusFields_object apart]
      simp only [List.forall_mem_append, forall_mem_optionalField, forall_mem_flagField,
        optionalText]
      simp [fieldNames]
    all_goals
      rw [fieldNames] at apart
      simp [get?_object_of_mem apart, Entries.get?_append]
  present := fun _ _ same => nomatch same

/-! ## Paths -/

/-- The operations of a path are written under their verbs. -/
theorem PathItem.map_operations (p : PathItem) :
    (p.operations.map fun op => (op.1.name, op.2.toJson)) =
      Verb.all.flatMap fun v => optionalField v.name ((p.operation? v).map Operation.toJson) := by
  rw [operations]
  induction Verb.all with
  | nil => rfl
  | cons v rest ih =>
      rw [List.flatMap_cons, ← ih]
      cases found : p.operation? v <;> simp [found, optionalField]

theorem PathItem.returns : Returns PathItem.decode PathItem.toJson where
  reads := by
    intro j p read
    simp only [PathItem.decode, Option.bind_eq_bind, Option.bind_eq_some_iff, Option.pure_def,
      Option.some.injEq] at read ⊢
    obtain ⟨r, -, summary, readSummary, description, readDescription, get, readGet, head,
      readHead, put, readPut, post, readPost, delete, readDelete, patch, readPatch, options,
      readOptions, parameters, readParameters, rfl⟩ := read
    simp only [PathItem.toJson, PathItem.map_operations]
    refine ⟨_, rfl, summary, Returns.string.optional readSummary ?_, description,
      Returns.string.optional readDescription ?_, get, Operation.returns.optional readGet ?_,
      head, Operation.returns.optional readHead ?_, put, Operation.returns.optional readPut ?_,
      post, Operation.returns.optional readPost ?_, delete,
      Operation.returns.optional readDelete ?_, patch, Operation.returns.optional readPatch ?_,
      options, Operation.returns.optional readOptions ?_, parameters,
      Parameter.returns.nonEmpty readParameters ?_, rfl⟩
    all_goals simp [Entries.get?_ofList, Entries.get?_append, Verb.all, Verb.name, operation?]
  present := fun _ _ same => nomatch same

/-! ## The whole -/

/-- Components are read back if their security schemes are. -/
theorem Components.decode_toJson {j : Json} {c : Components} (read : decode j = some c)
    (schemes : ∀ name scheme, c.securitySchemes.get? name = some scheme →
      SecurityScheme.decode scheme.toJson = some scheme) : decode c.toJson = some c := by
  simp only [Components.decode, Option.bind_eq_bind, Option.bind_eq_some_iff, Option.pure_def,
    Option.some.injEq] at read ⊢
  obtain ⟨r, -, schemas, -, security, -, parameters, readParameters, rfl⟩ := read
  refine ⟨_, rfl, schemas, withDefault_of_field ?_ (dictAny_ofDict schemas), security,
    withDefault_of_field ?_ (dict_ofDict schemes), parameters,
    Parameter.returns.nonEmptyDict readParameters ?_, rfl⟩
  all_goals simp [Entries.get?_ofList, Entries.get?_append, Entries.get?]

/-- **A description is read back as it is, if its security schemes are.** -/
theorem Description.decode_toJson {j : Json} {d : Description} (read : decode j = some d)
    (schemes : ∀ name scheme, d.securitySchemes.get? name = some scheme →
      SecurityScheme.decode scheme.toJson = some scheme) : decode d.toJson = some d := by
  simp only [Description.decode, Option.bind_eq_bind, Option.bind_eq_some_iff, Option.pure_def,
    Option.some.injEq] at read ⊢
  obtain ⟨r, -, openapi, readVersion, info, readInfo, servers, readServers, paths, readPaths,
    components, readComponents, security, readSecurity, tags, readTags, docs, readDocs, rfl⟩ :=
    read
  obtain ⟨extensions, same, apart⟩ := exists_surplusFields fieldNames j
  have known : ∀ c, components = some c → Components.decode c.toJson = some c ∧
      c.toJson ≠ .null := by
    rintro c rfl
    obtain ⟨_, -, one⟩ := exists_of_optional readComponents
    exact ⟨Components.decode_toJson one schemes, fun same => nomatch same⟩
  simp only [same, Description.toJson, List.append_assoc]
  refine ⟨_, rfl, openapi, Returns.string.optional readVersion ?_, info,
    Info.returns.optional readInfo ?_, servers, Server.returns.nonEmpty readServers ?_, paths,
    PathItem.returns.dict.optional readPaths ?_, components, optional_of_field ?_ known,
    security, returns_requirements.optional readSecurity ?_, tags,
    Tag.returns.list.optional readTags ?_, docs, ExternalDocs.returns.optional readDocs ?_, ?_⟩
  case refine_9 =>
    rw [surplusFields_object apart]
    simp only [List.forall_mem_append, forall_mem_optionalField, forall_mem_nonEmptyField,
      optionalText]
    simp [fieldNames]
  all_goals
    rw [fieldNames] at apart
    simp [get?_object_of_mem apart, Entries.get?_append]

end ApiForge
