import ApiForge.Description.Load
import ApiForge.Proofs.Description.Straight
import ApiForge.Proofs.Json.ReadBack
/-
# ApiForge.Proofs.Description.WrittenOut -- loading sees neither the case of verbs nor references

A document is written out (`Normalize.writtenOut`) if in its path items the verbs come in lower
case, the unknown names are gone, and the shared parameters stand where they are referred to.
This is said of the document in one go, field by field, without the steps that straightening
takes.  A document and the same document written out are decoded to the same description, or
both to none (`Description.decode_document_writtenOut`): decoding a path item sees ten of its
names only, and under these names the two have the same.
-/

namespace ApiForge

set_option autoImplicit false

universe u

open ApiForge.Text

namespace Normalize

/-! ## Documents that are written out -/

/-- Which names are those of known fields: all that path items have beside their verbs, and no
others but for the case of letters. -/
structure Knows (known : String → Bool) : Prop where
  all : ∀ name ∈ plainNames, known name = true
  only : ∀ name, known name = true → asciiLowerText name ∈ plainNames

/-- One field of a path item with its verb in lower case and with shared parameters in place;
nothing where the name is not known. -/
def writtenOutField (known : String → Bool) (shared : List (String × Json))
    (e : String × Json) : Option (String × Json) :=
  if Verb.isName (asciiLowerText e.1) then
    some (asciiLowerText e.1, e.2.modifyField "parameters" (inlineParameters shared))
  else if e.1 = "parameters" then some (e.1, inlineParameters shared e.2)
  else if known e.1 || startsWith e.1 "x-" then some e
  else none

def writtenOutItem (known : String → Bool) (shared : List (String × Json)) : Json → Json
  | .obj fields => .object (fields.filterMap (writtenOutField known shared))
  | other => other

/-- A document with all its path items written out. -/
def writtenOut (known : String → Bool) (j : Json) : Json :=
  mapPathItems (writtenOutItem known (sharedParameters j)) j

section WrittenOut

variable {known : String → Bool} {shared fields : List (String × Json)}

theorem Knows.isKept {name : String} (knows : Knows known)
    (named : (known name || startsWith name "x-") = true) : isKept name = true := by
  rw [Bool.or_eq_true] at named
  rcases named with isKnown | extension
  · simp [Normalize.isKept, knows.only name isKnown]
  · simp [Normalize.isKept, extension]

theorem asciiLowerText_writtenOutField {e e' : String × Json}
    (written : writtenOutField known shared e = some e') :
    asciiLowerText e'.1 = asciiLowerText e.1 ∧ (Knows known → IsSettled e'.1) := by
  rw [writtenOutField] at written
  split at written
  · rename_i verb
    cases written
    exact ⟨asciiLowerText_of_isName verb, fun _ => isSettled_of_isName verb⟩
  · rename_i noVerb
    have still : settledName e.1 = e.1 := if_neg noVerb
    split at written
    · rename_i list
      cases written
      refine ⟨rfl, fun _ => ?_⟩
      rw [list]
      decide
    · split at written
      · rename_i named
        cases written
        exact ⟨rfl, fun knows => ⟨knows.isKept named, still⟩⟩
      · cases written

theorem normalizeItem_writtenOutItem (knows : Knows known) :
    normalizeItem (writtenOutItem known shared (.obj fields))
      = writtenOutItem known shared (.obj fields) := by
  refine normalizeItem_of_settled fun e mem => ?_
  obtain ⟨e', -, written⟩ := List.mem_filterMap.1 (Entries.mem_of_mem_ofList mem)
  exact (asciiLowerText_writtenOutField written).2 knows

/-- A field that is decoded is written out as it is treated. -/
theorem get?_writtenOutField (knows : Knows known) {name : String}
    (decoded : name ∈ plainNames ∨ Verb.isName name = true) (e : String × Json) :
    Entries.get? (writtenOutField known shared e).toList name
      = (Entries.get? (settledField e).toList name).map (inlineInField shared name) := by
  obtain ⟨k, value⟩ := e
  -- the only entry that is left comes under the name `here` with the value `given`
  have only (here : String) (given : Json)
      (same : here = name → given = inlineInField shared name value) :
      Entries.get? [(here, given)] name
        = (Entries.get? [(here, value)] name).map (inlineInField shared name) := by
    simp only [Entries.get?]
    split
    · rename_i meets
      rw [same meets, Option.map_some]
    · rfl
  by_cases verb : Verb.isName (asciiLowerText k) = true
  · simp only [writtenOutField, settledField, settledName, if_pos verb,
      if_pos (isKept_of_verb verb)]
    refine only _ _ fun meets => ?_
    rw [← meets, inlineInField, if_neg (ne_parameters_of_isName verb), if_pos verb]
  have still : settledName k = k := if_neg verb
  by_cases list : k = "parameters"
  · have kept : isKept k = true := by rw [list]; decide
    simp only [writtenOutField, settledField, if_neg verb, if_pos list, if_pos kept, still]
    refine only _ _ fun meets => ?_
    rw [← meets, inlineInField, if_pos list]
  have own (meets : k = name) : value = inlineInField shared name value := by
    have noName : Verb.isName k = true → False := fun isName =>
      verb (by rwa [asciiLowerText_of_isName isName])
    rw [← meets, inlineInField, if_neg list, if_neg noName]
  by_cases named : (known k || startsWith k "x-") = true
  · simp only [writtenOutField, settledField, if_neg verb, if_neg list, if_pos named,
      if_pos (knows.isKept named), still]
    exact only _ _ own
  · -- what is not written out is not decoded either
    have other : k ≠ name := by
      rintro rfl
      rw [Bool.or_eq_true, not_or] at named
      rcases decoded with plain | isName
      · exact named.1 (knows.all k plain)
      · exact verb (by rwa [asciiLowerText_of_isName isName])
    simp only [writtenOutField, settledField, if_neg verb, if_neg list, if_neg named, still]
    split <;> simp [Entries.get?, other]

theorem get?_writtenOut (knows : Knows known) {name : String}
    (decoded : name ∈ plainNames ∨ Verb.isName name = true) (fields : List (String × Json)) :
    Entries.get? (fields.filterMap (writtenOutField known shared)) name
      = (Entries.get? (fields.filterMap settledField) name).map (inlineInField shared name) := by
  induction fields with
  | nil => rfl
  | cons e rest ih =>
      rw [filterMap_cons_eq_append, filterMap_cons_eq_append, Entries.get?_append,
        Entries.get?_append, ih, get?_writtenOutField knows decoded, Option.map_or]

/-- The fields of a path item that was written out and then went through both steps. -/
theorem field?_straightenItem_writtenOutItem (knows : Knows known) (apart : Apart fields)
    {name : String} (decoded : name ∈ plainNames ∨ Verb.isName name = true) :
    (straightenItem shared (writtenOutItem known shared (.obj fields))).field? name =
      ((Entries.get? (fields.filterMap settledField) name).map (inlineInField shared name)).map
        fun value => if shared.isEmpty then value else inlineInField shared name value := by
  have apartToo : Apart (fields.filterMap (writtenOutField known shared)) :=
    apart.filterMap fun _ _ written => (asciiLowerText_writtenOutField written).1
  rw [straightenItem, normalizeItem_writtenOutItem knows, ← get?_writtenOut knows decoded,
    ← Entries.get?_ofList_of_nodup apartToo.nodup]
  split
  · simp [writtenOutItem, Json.object, Json.field?]
  · exact Entries.get?_mapValues _ _ name

end WrittenOut

end Normalize

/-! ## What decoding sees -/

namespace Json.Decode

variable {α : Type u} {r r' : Record} {name : String} {item : Json → Option α}

theorem Record.withDefault_congr {default : α}
    (same : (r.field? name).map item = (r'.field? name).map item) :
    r.withDefault name item default = r'.withDefault name item default := by
  have read (r : Record) :
      r.withDefault name item default = ((r.field? name).map item).getD (some default) := by
    rw [Record.withDefault]
    cases r.field? name <;> rfl
  rw [read, read, same]

theorem Record.optional_congr
    (same : (r.field? name).map (Decode.nullable item)
      = (r'.field? name).map (Decode.nullable item)) :
    r.optional name item = r'.optional name item :=
  withDefault_congr same

end Json.Decode

open Json.Decode in
/-- Decoding an operation does not see that its parameters were put in again. -/
theorem Operation.nullable_decode_modifyField (j : Json) :
    nullable decode (j.modifyField "parameters" id) = nullable decode j := by
  cases j with
  | obj fields =>
      rw [Json.modifyField]
      split
      · rename_i value stands
        have lookups : Entries.get? (Entries.insert fields "parameters" value)
            = Entries.get? fields := by
          funext name
          rw [Entries.get?_insert]
          split
          · rename_i same
            rw [← same, ← stands]
            rfl
          · rfl
        have surplus : surplusFields fieldNames (.obj (Entries.insert fields "parameters" value))
            = surplusFields fieldNames (.obj fields) := by
          have dropped : (!fieldNames.contains "parameters") = false := by decide
          exact congrArg Dict.ofList
            (Entries.filter_insert (fun k => !fieldNames.contains k) dropped fields value)
        simp only [id, Json.setField, nullable_of_ne (j := .obj _) Json.noConfusion, decode,
          openRecord, lookups, surplus]
      · rfl
  | _ => rfl

open Json.Decode in
/-- Decoding a path item sees its texts, its parameters and its operations. -/
theorem PathItem.decode_congr {a b : List (String × Json)}
    (plain : ∀ name ∈ ["summary", "description", "parameters"],
      Entries.get? a name = Entries.get? b name)
    (operations : ∀ verb : Verb, (Entries.get? a verb.name).map (nullable Operation.decode)
      = (Entries.get? b verb.name).map (nullable Operation.decode)) :
    decode (.obj a) = decode (.obj b) := by
  have summary : Entries.get? a "summary" = Entries.get? b "summary" := plain _ (by decide)
  have description : Entries.get? a "description" = Entries.get? b "description" :=
    plain _ (by decide)
  have parameters : Entries.get? a "parameters" = Entries.get? b "parameters" :=
    plain _ (by decide)
  have texts {name : String} (same : Entries.get? a name = Entries.get? b name) :
      (Record.mk (Entries.get? a) false).optional name string
        = (Record.mk (Entries.get? b) false).optional name string :=
    Record.optional_congr (congrArg (Option.map _) same)
  have operation (verb : Verb) :
      (Record.mk (Entries.get? a) false).optional verb.name Operation.decode
        = (Record.mk (Entries.get? b) false).optional verb.name Operation.decode :=
    Record.optional_congr (operations verb)
  have listed :
      (Record.mk (Entries.get? a) false).withDefault "parameters" (list Parameter.decode) []
        = (Record.mk (Entries.get? b) false).withDefault "parameters" (list Parameter.decode) [] :=
    Record.withDefault_congr (congrArg (Option.map _) parameters)
  have get := operation .get
  have head := operation .head
  have put := operation .put
  have post := operation .post
  have delete := operation .delete
  have patch := operation .patch
  have options := operation .options
  simp only [Verb.name] at get head put post delete patch options
  simp only [decode, record, Option.bind_eq_bind, Option.bind_some, texts summary,
    texts description, get, head, put, post, delete, patch, options, listed]

namespace Normalize

/-- **A path item that is written out is decoded as it was.** -/
theorem decode_straightenItem_writtenOutItem {known : String → Bool}
    {shared fields : List (String × Json)} (knows : Knows known) (own : AreOwn shared)
    (apart : Apart fields) :
    PathItem.decode (straightenItem shared (writtenOutItem known shared (.obj fields)))
      = PathItem.decode (straightenItem shared (.obj fields)) := by
  obtain ⟨a, treatedA⟩ := exists_straightenItem_obj shared
    (Entries.ofList (fields.filterMap (writtenOutField known shared)))
  obtain ⟨b, treatedB⟩ := exists_straightenItem_obj shared fields
  have fieldsA {name : String} (decoded : name ∈ plainNames ∨ Verb.isName name = true) :=
    @field?_straightenItem_writtenOutItem known shared fields knows apart name decoded
  have fieldsB := @field?_straightenItem fields shared apart
  simp only [writtenOutItem, Json.object, treatedA, treatedB, Json.field?] at fieldsA fieldsB ⊢
  have texts : ∀ name ∈ ["summary", "description", "parameters"], name ∈ plainNames := by decide
  have isName_name (verb : Verb) : Verb.isName verb.name = true := by cases verb <;> decide
  -- where there is something to put in place, doing so twice is doing so once
  have twice (some : shared.isEmpty = false) {name : String}
      (decoded : name ∈ plainNames ∨ Verb.isName name = true) :
      Entries.get? a name = Entries.get? b name := by
    rw [fieldsA decoded, fieldsB, some, Option.map_map]
    refine congrArg (Option.map · _) (funext fun value => ?_)
    exact inlineInField_inlineInField own name value
  rcases Bool.eq_false_or_eq_true shared.isEmpty with none | some
  · obtain rfl := List.isEmpty_iff.1 none
    simp only [List.isEmpty_nil, if_true, Option.map_id'] at fieldsA fieldsB
    refine PathItem.decode_congr (fun name mem => ?_) fun verb => ?_
    · rw [fieldsA (.inl (texts name mem)), fieldsB, inlineInField_nil (texts name mem),
        Option.map_id]
      rfl
    · rw [fieldsA (.inr (isName_name verb)), fieldsB, Option.map_map]
      refine congrArg (Option.map · _) (funext fun value => ?_)
      simp only [Function.comp_apply, inlineInField, isName_name verb, if_true,
        if_neg (ne_parameters_of_isName (isName_name verb)), inlineParameters_nil]
      exact Operation.nullable_decode_modifyField value
  · exact PathItem.decode_congr (fun name mem => twice some (.inl (texts name mem)))
      fun verb => congrArg (Option.map _) (twice some (.inr (isName_name verb)))

end Normalize

/-! ## Loading -/

namespace Description

open Json.Decode Normalize

/-- Decoding a document sees what its path items are decoded to. -/
theorem decode_insert_paths {fields : List (String × Json)} {x y : Json}
    (same : nullable (dict PathItem.decode) x = nullable (dict PathItem.decode) y) :
    decode (.obj (Entries.insert fields "paths" x))
      = decode (.obj (Entries.insert fields "paths" y)) := by
  have other {name : String} (ne : name ≠ "paths") :
      Entries.get? (Entries.insert fields "paths" x) name
        = Entries.get? (Entries.insert fields "paths" y) name := by
    rw [Entries.get?_insert, Entries.get?_insert, if_neg ne.symm, if_neg ne.symm]
  have optional {α : Type} (name : String) (item : Json → Option α) (ne : name ≠ "paths") :
      (Record.mk (Entries.get? (Entries.insert fields "paths" x)) false).optional name item
        = (Record.mk (Entries.get? (Entries.insert fields "paths" y)) false).optional name item :=
    Record.optional_congr (congrArg (Option.map _) (other ne))
  have servers :
      (Record.mk (Entries.get? (Entries.insert fields "paths" x)) false).withDefault "servers"
          (list Server.decode) []
        = (Record.mk (Entries.get? (Entries.insert fields "paths" y)) false).withDefault "servers"
          (list Server.decode) [] :=
    Record.withDefault_congr (congrArg (Option.map _) (other (by decide)))
  have paths :
      (Record.mk (Entries.get? (Entries.insert fields "paths" x)) false).optional "paths"
          (dict PathItem.decode)
        = (Record.mk (Entries.get? (Entries.insert fields "paths" y)) false).optional "paths"
          (dict PathItem.decode) := by
    refine Record.optional_congr ?_
    simp only [Entries.get?_insert, if_true, Option.map_some, same]
  have surplus : surplusFields fieldNames (.obj (Entries.insert fields "paths" x))
      = surplusFields fieldNames (.obj (Entries.insert fields "paths" y)) := by
    have dropped : (!fieldNames.contains "paths") = false := by decide
    have filtered := Entries.filter_insert (fun k => !fieldNames.contains k) dropped fields
    exact congrArg Dict.ofList ((filtered x).trans (filtered y).symm)
  simp only [decode, openRecord, Option.bind_eq_bind, Option.bind_some,
    optional "openapi" string (by decide), optional "info" Info.decode (by decide), servers,
    paths, optional "components" Components.decode (by decide),
    optional "security" (list decodeRequirement) (by decide),
    optional "tags" (list Tag.decode) (by decide),
    optional "externalDocs" ExternalDocs.decode (by decide), surplus]

theorem decode_mapPathItems_congr {f g : Json → Json} {j : Json}
    (same : ∀ items, j.field? "paths" = some (.obj items) →
      ∀ e ∈ items, PathItem.decode (f e.2) = PathItem.decode (g e.2)) :
    decode (mapPathItems f j) = decode (mapPathItems g j) := by
  by_cases shape : ∃ items, j.field? "paths" = some (.obj items)
  · obtain ⟨items, stands⟩ := shape
    cases j with
    | obj fields =>
        simp only [mapPathItems, stands, Json.setField]
        refine decode_insert_paths ?_
        simp only [nullable_of_ne (j := .obj _) Json.noConfusion, dict]
        rw [Entries.mapValues?_congr (f := fun _ => f) (g := fun _ => g) (same items stands)]
    | _ => cases stands
  · have shapeless := not_exists.1 shape
    rw [mapPathItems_of_shapeless shapeless, mapPathItems_of_shapeless shapeless]

/-- **A document that is written out is decoded as it was.** -/
theorem decode_document_writtenOut {known : String → Bool} (knows : Knows known) {j : Json}
    (own : AreOwn (sharedParameters j)) (apart : ItemsApart j) :
    decode (document (writtenOut known j)) = decode (document j) := by
  rw [document_eq (writtenOut known j), document_eq j, writtenOut, sharedParameters_mapPathItems,
    mapPathItems_mapPathItems]
  refine decode_mapPathItems_congr fun items stands e mem => ?_
  obtain ⟨path, item⟩ := e
  cases item with
  | obj fields =>
      refine decode_straightenItem_writtenOutItem knows own ?_
      refine apart (path, .obj fields) ?_ fields rfl
      rwa [pathItems_eq stands]
  | _ => rfl

/-- **Loading sees neither the case of verbs nor references to shared parameters.**  A document
and the same document written out give the same description, or both give none.  Normalizing the
verbs again changes nothing in any document, and neither does straightening this one again.  The
references below verbs in other letters are followed too, and what is no path item stays as it
is. -/
theorem parse_writtenOut {known : String → Bool} (knows : Knows known) {j : Json}
    (own : AreOwn (sharedParameters j)) (apart : ItemsApart j) :
    decode (document (writtenOut known j)) = decode (document j) ∧
      (∀ format text format' text', readSyntax format text = some j →
        readSyntax format' text' = some (writtenOut known j) →
        parse format' text' = parse format text) ∧
      (∀ k, normalizeVerbs (normalizeVerbs k) = normalizeVerbs k) ∧
      document (document j) = document j ∧ FollowsReferences j (document j) ∧
      ∀ k, KeepsOutside k (document k) := by
  have same := decode_document_writtenOut knows own apart
  refine ⟨same, fun format text format' text' read read' => ?_, normalizeVerbs_normalizeVerbs,
    document_document own, followsReferences_document apart, keepsOutside_document⟩
  rw [parse, parse, read, read']
  simp only [same]

/-- A document with a verb in capitals, a known field in other letters, an unknown one, and a
reference to a shared parameter. -/
def mixedText : String :=
  "components:
  parameters:
    Limit:
      name: limit
      in: query
paths:
  /pets:
    GET:
      parameters:
        - $ref: '#/components/parameters/Limit'
    Summary: all pets
    note: []
    x-team: core
"

/-- The names of the parameters that the operations of a document list. -/
def operationParameters (j : Json) : List String :=
  ((decode (document j)).bind (·.paths)).toList.flatMap fun paths =>
    paths.entries.flatMap fun e => e.2.operations.flatMap fun operation =>
      (operation.2.parameters.getD []).map (·.name)

set_option maxRecDepth 4000 in
theorem parse_writtenOut_mixed : ∃ j, readSyntax .yaml mixedText = some j ∧
    Knows plainNames.contains ∧ AreOwn (sharedParameters j) ∧ ItemsApart j ∧
    decode (document (writtenOut plainNames.contains j)) = decode (document j) ∧
    operationParameters j = ["limit"] := by
  have made : ((readSyntax .yaml mixedText).any fun j => decide (AreOwn (sharedParameters j) ∧
      ItemsApart j ∧ operationParameters j = ["limit"])) = true := by
    -- The kernel is slow at taking a string apart, so its characters are put in first.
    rw [readSyntax, Yaml.parse, Yaml.Token.list, show mixedText = .ofList _ from rfl,
      String.toList_ofList]
    decide +kernel
  obtain ⟨j, read, holds⟩ := (Option.any_eq_true _ _).1 made
  obtain ⟨own, apart, names⟩ := of_decide_eq_true holds
  have knows : Knows plainNames.contains := by
    refine ⟨fun name mem => List.contains_iff_mem.2 mem, fun name listed => ?_⟩
    exact (by decide : ∀ n ∈ plainNames, asciiLowerText n ∈ plainNames) name
      (List.contains_iff_mem.1 listed)
  exact ⟨j, read, knows, own, apart, (parse_writtenOut knows own apart).1, names⟩

end Description

end ApiForge
