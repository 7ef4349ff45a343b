import ApiForge.Proofs.Description.ReadBack
import Mathlib.Tactic.SplitIfs
/-
# ApiForge.Proofs.Description.Security -- security schemes are read back

A scheme is read back as it is if the URLs of its OAuth flows are read as they are
(`SecurityScheme.decode_toJson`).  A URL that was read stands in its normal form; that its
normal form is read as itself is asked of the URLs that a scheme has.
-/

namespace ApiForge

set_option autoImplicit false

open Json.Decode

/-! ## URLs -/

/-- Is the URL read as it is written? -/
def IsReadAsWritten (url : String) : Prop := decodeUrl (.str url) = some url

instance (url : String) : Decidable (IsReadAsWritten url) := inferInstanceAs (Decidable (_ = _))

def OAuthFlow.urls (f : OAuthFlow) : List String :=
  f.authorizationUrl.toList ++ f.tokenUrl.toList ++ f.refreshUrl.toList

def OAuthFlows.offered (f : OAuthFlows) : List OAuthFlow :=
  f.implicit.toList ++ f.password.toList ++ f.clientCredentials.toList
    ++ f.authorizationCode.toList

/-- The URLs that are brought into their normal form when a scheme is read. -/
def SecurityScheme.urls : SecurityScheme → List String
  | .oauth2 flows _ => flows.offered.flatMap OAuthFlow.urls
  | _ => []

/-! ## Fields that mark extensions -/

section Marked

variable {extensions : Dict Json} {named : List (String × Json)}

theorem exists_extensionFields (j : Json) :
    ∃ extensions, extensionFields j = extensions ∧
      ∀ name, Text.startsWith name "x-" = false → extensions.get? name = none := by
  refine ⟨_, rfl, fun name unmarked => ?_⟩
  cases j with
  | obj fields => exact @get?_filter_eq_none (Text.startsWith · "x-") fields name unmarked
  | _ => rfl

theorem extensionFields_object
    (apart : ∀ name, Text.startsWith name "x-" = false → extensions.get? name = none)
    (own : ∀ e ∈ named, Text.startsWith e.1 "x-" = false) :
    extensionFields (.object (extensions.entries ++ named)) = extensions :=
  @ofList_filter_object (Text.startsWith · "x-") extensions named apart own

end Marked

/-! ## Fields of schemes -/

theorem dict_ofStringDict (d : Dict String) : dict string (.ofStringDict d) = some d :=
  dict_ofDict fun _ _ _ => rfl

theorem nullable_url {r : Record} {name : String} {url : Option String}
    (unlisted : r.listed = false) (field : r.field? name = url.map .str)
    (asWritten : ∀ u ∈ url.toList, IsReadAsWritten u) : r.nullable name decodeUrl = some url :=
  nullable_of_field unlisted field fun u same =>
    ⟨asWritten u (Option.mem_toList.2 same), fun null => nomatch null⟩

theorem nullable_text {r : Record} {name : String} {text : Option String}
    (unlisted : r.listed = false) (field : r.field? name = text.map .str) :
    r.nullable name string = some text :=
  nullable_of_field unlisted field fun _ _ => ⟨rfl, fun null => nomatch null⟩

theorem required_text {r : Record} {name text : String}
    (field : r.field? name = some (.str text)) : r.required name string = some text :=
  required_of_field field rfl

theorem nullable_text_or_null {r : Record} {name : String} {text : Option String}
    (field : r.field? name = some (.ofOption (text.map .str))) :
    r.nullable name string = some text := by
  rw [Record.nullable, field]
  cases text <;> rfl

/-! ## OAuth flows -/

namespace OAuthFlow

variable {j : Json} {f : OAuthFlow}

theorem decodeImplicit_toJson (read : decodeImplicit j = some f)
    (asWritten : ∀ url ∈ f.urls, IsReadAsWritten url) : decodeImplicit f.toJson = some f := by
  simp only [decodeImplicit, Option.bind_eq_bind, Option.bind_eq_some_iff, Option.pure_def,
    Option.some.injEq] at read ⊢
  obtain ⟨r, -, authorization, -, refresh, -, scopes, -, rfl⟩ := read
  obtain ⟨extensions, same, apart⟩ := exists_extensionFields j
  simp only [same, toJson, List.append_assoc] at asWritten ⊢
  have noUrl := apart "authorizationUrl" (by decide)
  have noRefresh := apart "refreshUrl" (by decide)
  have noScopes := apart "scopes" (by decide)
  refine ⟨_, rfl, authorization, required_of_field ?_ (asWritten _ (by simp [urls])), refresh,
    nullable_url rfl ?_ (fun u mem => asWritten u (by simpa [urls] using Or.inr mem)), scopes,
    withDefault_of_field ?_ (dict_ofStringDict scopes), ?_⟩
  case refine_4 =>
    rw [extensionFields_object apart]
    simp only [List.forall_mem_append, List.forall_mem_singleton, forall_mem_optionalField,
      optionalText]
    exact ⟨fun _ _ => by decide, fun _ _ => by decide, fun _ _ => by decide, by decide⟩
  all_goals simp [get?_object_of_apart, noUrl, noRefresh, noScopes, Entries.get?_append,
    Entries.get?]

theorem decodeToken_toJson (read : decodeToken j = some f)
    (asWritten : ∀ url ∈ f.urls, IsReadAsWritten url) : decodeToken f.toJson = some f := by
  simp only [decodeToken, Option.bind_eq_bind, Option.bind_eq_some_iff, Option.pure_def,
    Option.some.injEq] at read ⊢
  obtain ⟨r, -, token, -, refresh, -, scopes, -, rfl⟩ := read
  refine ⟨_, rfl, token, required_of_field ?_ (asWritten _ (by simp [urls])), refresh,
    nullable_url rfl ?_ (fun u mem => asWritten u (by simpa [urls] using Or.inr mem)), scopes,
    withDefault_of_field ?_ (dict_ofStringDict scopes), rfl⟩
  all_goals simp [Entries.get?_ofList, Entries.get?_append, Entries.get?, Dict.empty]

theorem decodeAuthorizationCode_toJson (read : decodeAuthorizationCode j = some f)
    (asWritten : ∀ url ∈ f.urls, IsReadAsWritten url) :
    decodeAuthorizationCode f.toJson = some f := by
  simp only [decodeAuthorizationCode, Option.bind_eq_bind, Option.bind_eq_some_iff,
    Option.pure_def, Option.some.injEq] at read ⊢
  obtain ⟨r, -, authorization, -, token, -, refresh, -, scopes, -, rfl⟩ := read
  refine ⟨_, rfl, authorization, required_of_field ?_ (asWritten _ (by simp [urls])), token,
    required_of_field ?_ (asWritten _ (by simp [urls])), refresh,
    nullable_url rfl ?_ (fun u mem => asWritten u (by simpa [urls] using Or.inr (Or.inr mem))),
    scopes, withDefault_of_field ?_ (dict_ofStringDict scopes), rfl⟩
  all_goals simp [Entries.get?_ofList, Entries.get?_append, Entries.get?, Dict.empty]

end OAuthFlow

/-- A kind of flow is read back if its URLs are. -/
theorem nullable_flow {item : Json → Option OAuthFlow} {r r' : Record} {name : String}
    {flow : Option OAuthFlow}
    (back : ∀ {j : Json} {f : OAuthFlow}, item j = some f →
      (∀ url ∈ f.urls, IsReadAsWritten url) → item f.toJson = some f)
    (read : r.nullable name item = some flow) (unlisted : r'.listed = false)
    (field : r'.field? name = flow.map OAuthFlow.toJson)
    (asWritten : ∀ f ∈ flow.toList, ∀ url ∈ f.urls, IsReadAsWritten url) :
    r'.nullable name item = some flow := by
  refine nullable_of_field unlisted field ?_
  rintro f rfl
  obtain ⟨j, -, one⟩ := exists_of_nullable read
  exact ⟨back one (asWritten f (by simp)), fun null => nomatch null⟩

theorem OAuthFlows.decode_toJson {j : Json} {f : OAuthFlows} (read : decode j = some f)
    (asWritten : ∀ flow ∈ f.offered, ∀ url ∈ flow.urls, IsReadAsWritten url) :
    decode f.toJson = some f := by
  simp only [decode, Option.bind_eq_bind, Option.bind_eq_some_iff, Option.pure_def,
    Option.some.injEq] at read ⊢
  obtain ⟨r, -, implicit, readImplicit, password, readPassword, credentials, readCredentials,
    code, readCode, rfl⟩ := read
  obtain ⟨extensions, same, apart⟩ := exists_extensionFields j
  simp only [offered, List.forall_mem_append] at asWritten
  obtain ⟨⟨⟨ofImplicit, ofPassword⟩, ofCredentials⟩, ofCode⟩ := asWritten
  simp only [same, toJson, List.append_assoc]
  have noImplicit := apart "implicit" (by decide)
  have noPassword := apart "password" (by decide)
  have noCredentials := apart "clientCredentials" (by decide)
  have noCode := apart "authorizationCode" (by decide)
  refine ⟨_, rfl,
    implicit, nullable_flow OAuthFlow.decodeImplicit_toJson readImplicit rfl ?_ ofImplicit,
    password, nullable_flow OAuthFlow.decodeToken_toJson readPassword rfl ?_ ofPassword,
    credentials, nullable_flow OAuthFlow.decodeToken_toJson readCredentials rfl ?_ ofCredentials,
    code, nullable_flow OAuthFlow.decodeAuthorizationCode_toJson readCode rfl ?_ ofCode, ?_⟩
  case refine_5 =>
    rw [extensionFields_object apart]
    simp only [List.forall_mem_append, forall_mem_optionalField]
    exact ⟨fun _ _ => by decide, fun _ _ => by decide, fun _ _ => by decide,
      fun _ _ => by decide⟩
  all_goals simp [get?_object_of_apart, noImplicit, noPassword, noCredentials, noCode,
    Entries.get?_append]

/-! ## Schemes -/

namespace SecurityScheme

/-- The kind of a scheme stands beside the fields that describe it. -/
theorem kindAndBody_object {kind : String} {named : List (String × Json)}
    (apart : ∀ e ∈ named, e.1 ≠ "type") :
    ∃ body, kindAndBody (.object (("type", .str kind) :: named)) = some (kind, .obj body) ∧
      ∀ name, name ≠ "type" → Entries.get? body name = Entries.get? named.reverse name := by
  have absent : Entries.get? named.reverse "type" = none :=
    Entries.get?_eq_none_of_forall_ne fun e mem => apart e (List.mem_reverse.1 mem)
  have stands : Entries.get? (Entries.ofList (("type", Json.str kind) :: named)) "type"
      = some (.str kind) := by
    simp [Entries.get?_ofList, Entries.get?_append, absent, Entries.get?]
  refine ⟨_, by rw [Json.object, kindAndBody, stands], fun name ne => ?_⟩
  rw [Entries.erase, Entries.get?_filter_fst (fun n => decide (n ≠ "type")),
    if_pos (decide_eq_true ne), Entries.get?_ofList, List.reverse_cons, Entries.get?_append]
  simp [Entries.get?, ne.symm]

theorem exists_decode_flows {j : Json} {flows : OAuthFlows} {description : Option String}
    (read : decode j = some (.oauth2 flows description)) :
    ∃ written, OAuthFlows.decode written = some flows := by
  simp only [decode, Option.bind_eq_bind, Option.bind_eq_some_iff, Option.pure_def] at read
  obtain ⟨⟨kind, body⟩, -, read⟩ := read
  split_ifs at read
  all_goals
    simp only [Option.bind_eq_some_iff, Option.some.injEq, oauth2.injEq, reduceCtorEq, and_false,
      exists_false] at read
  obtain ⟨r, -, _, required, _, -, rfl, -⟩ := read
  exact exists_of_required required

/-- **A scheme is read back as it is if the URLs of its flows are read as they are.** -/
theorem decode_toJson {j : Json} {s : SecurityScheme} (read : decode j = some s)
    (asWritten : ∀ url ∈ s.urls, IsReadAsWritten url) : decode s.toJson = some s := by
  cases s with
  | apiKey name location description =>
      obtain ⟨body, split, field⟩ := @kindAndBody_object "apiKey"
        ([("name", .str name), ("in", .str location)] ++ optionalText "description" description)
        (by cases description <;> simp [optionalText, optionalField])
      rw [decode, show kindAndBody (toJson (.apiKey name location description)) = _ from split]
      simp only [Option.bind_eq_bind, Option.bind_some, if_true, Option.bind_eq_some_iff]
      refine ⟨_, rfl, name, required_text ?_, location, required_text ?_,
        description, nullable_text rfl ?_, rfl⟩
      all_goals simp [field, Entries.get?_append, Entries.get?]
  | http scheme bearerFormat description =>
      obtain ⟨body, split, field⟩ := @kindAndBody_object "http"
        ([("scheme", .str scheme), ("bearerFormat", .ofOption (bearerFormat.map .str))]
          ++ optionalText "description" description)
        (by cases description <;> simp [optionalText, optionalField])
      rw [decode, show kindAndBody (toJson (.http scheme bearerFormat description)) = _ from split]
      simp only [Option.bind_eq_bind, Option.bind_some, String.reduceEq, if_true, if_false,
        Option.bind_eq_some_iff]
      refine ⟨_, rfl, scheme, required_text ?_, bearerFormat, nullable_text_or_null ?_,
        description, nullable_text rfl ?_, rfl⟩
      all_goals simp [field, Entries.get?_append, Entries.get?]
  | oauth2 flows description =>
      obtain ⟨written, one⟩ := exists_decode_flows read
      rw [urls, List.forall_mem_flatMap] at asWritten
      obtain ⟨body, split, field⟩ := @kindAndBody_object "oauth2"
        ([("flows", flows.toJson)] ++ optionalText "description" description)
        (by cases description <;> simp [optionalText, optionalField])
      rw [decode, show kindAndBody (toJson (.oauth2 flows description)) = _ from split]
      simp only [Option.bind_eq_bind, Option.bind_some, String.reduceEq, if_true, if_false,
        Option.bind_eq_some_iff]
      refine ⟨_, rfl, flows, required_of_field ?_ (OAuthFlows.decode_toJson one asWritten),
        description, nullable_text rfl ?_, rfl⟩
      all_goals simp [field, Entries.get?_append, Entries.get?]
  | openIdConnect url description =>
      obtain ⟨body, split, field⟩ := @kindAndBody_object "openIdConnect"
        ([("openIdConnectUrl", .str url)] ++ optionalText "description" description)
        (by cases description <;> simp [optionalText, optionalField])
      rw [decode, show kindAndBody (toJson (.openIdConnect url description)) = _ from split]
      simp only [Option.bind_eq_bind, Option.bind_some, String.reduceEq, if_true, if_false,
        Option.bind_eq_some_iff]
      refine ⟨_, rfl, url, required_text ?_, description, nullable_text rfl ?_, rfl⟩
      all_goals simp [field, Entries.get?_append, Entries.get?]
  | mutualTls description =>
      obtain ⟨body, split, field⟩ := @kindAndBody_object "mutualTLS"
        (optionalText "description" description)
        (by cases description <;> simp [optionalText, optionalField])
      rw [decode, show kindAndBody (toJson (.mutualTls description)) = _ from split]
      simp only [Option.bind_eq_bind, Option.bind_some, String.reduceEq, if_true, if_false,
        Option.bind_eq_some_iff]
      refine ⟨_, rfl, description, nullable_text rfl ?_, rfl⟩
      simp [field]

end SecurityScheme

end ApiForge
