import ApiForge.Json.Decode
import ApiForge.Url.Basic
/-
# ApiForge.Description.Security -- security schemes

How a client proves who it is: an API key, an HTTP scheme, an OAuth flow, OpenID
Connect or a certificate.  The URLs of the flows are checked when they are read and
kept in their normal form.
-/

namespace ApiForge

set_option autoImplicit false

/-- The URLs and scopes of one OAuth flow; which URLs it has depends on its kind. -/
structure OAuthFlow where
  authorizationUrl : Option String
  tokenUrl : Option String
  refreshUrl : Option String
  scopes : Dict String
  extensions : Dict Json
deriving Inhabited

/-- The OAuth flows that a scheme offers. -/
structure OAuthFlows where
  implicit : Option OAuthFlow
  password : Option OAuthFlow
  clientCredentials : Option OAuthFlow
  authorizationCode : Option OAuthFlow
  extensions : Dict Json
deriving Inhabited

/-- One way to authenticate. -/
inductive SecurityScheme where
  | apiKey (name location : String) (description : Option String)
  | http (scheme : String) (bearerFormat description : Option String)
  | oauth2 (flows : OAuthFlows) (description : Option String)
  | openIdConnect (url : String) (description : Option String)
  | mutualTls (description : Option String)
deriving Inhabited

open Json.Decode

/-! ## Decoding -/

/-- A URL in its normal form. -/
def decodeUrl : Json → Option String
  | .str s => (Url.parse s).map Url.text
  | _ => none

/-- The fields of an object whose names mark extensions. -/
def extensionFields : Json → Dict Json
  | .obj fields => Dict.ofList (fields.filter fun f => Text.startsWith f.1 "x-")
  | _ => .empty

namespace OAuthFlow

def decodeImplicit (j : Json) : Option OAuthFlow := do
  let r ← openRecord j
  let authorizationUrl ← r.required "authorizationUrl" decodeUrl
  let refreshUrl ← r.nullable "refreshUrl" decodeUrl
  let scopes ← r.withDefault "scopes" (dict string) .empty
  return ⟨some authorizationUrl, none, refreshUrl, scopes, extensionFields j⟩

/-- A flow with a token URL only. -/
def decodeToken (j : Json) : Option OAuthFlow := do
  let r ← record ["tokenUrl", "refreshUrl", "scopes"] j
  let tokenUrl ← r.required "tokenUrl" decodeUrl
  let refreshUrl ← r.nullable "refreshUrl" decodeUrl
  let scopes ← r.withDefault "scopes" (dict string) .empty
  return ⟨none, some tokenUrl, refreshUrl, scopes, .empty⟩

def decodeAuthorizationCode (j : Json) : Option OAuthFlow := do
  let r ← record ["authorizationUrl", "tokenUrl", "refreshUrl", "scopes"] j
  let authorizationUrl ← r.required "authorizationUrl" decodeUrl
  let tokenUrl ← r.required "tokenUrl" decodeUrl
  let refreshUrl ← r.nullable "refreshUrl" decodeUrl
  let scopes ← r.withDefault "scopes" (dict string) .empty
  return ⟨some authorizationUrl, some tokenUrl, refreshUrl, scopes, .empty⟩

end OAuthFlow

def OAuthFlows.decode (j : Json) : Option OAuthFlows := do
  let r ← openRecord j
  let implicit ← r.nullable "implicit" OAuthFlow.decodeImplicit
  let password ← r.nullable "password" OAuthFlow.decodeToken
  let clientCredentials ← r.nullable "clientCredentials" OAuthFlow.decodeToken
  let authorizationCode ← r.nullable "authorizationCode" OAuthFlow.decodeAuthorizationCode
  return ⟨implicit, password, clientCredentials, authorizationCode, extensionFields j⟩

namespace SecurityScheme

/-- The kind of a scheme and what describes it: by name beside the kind, or after it in
a list. -/
def kindAndBody : Json → Option (String × Json)
  | .obj fields =>
    match Entries.get? fields "type" with
    | some (.str kind) => some (kind, .obj (Entries.erase fields "type"))
    | _ => none
  | .arr (.str kind :: rest) => some (kind, .arr rest)
  | _ => none

def decode (j : Json) : Option SecurityScheme := do
  let (kind, body) ← kindAndBody j
  if kind = "apiKey" then
    let r ← record ["name", "in", "description"] body
    let name ← r.required "name" string
    let location ← r.required "in" string
    let description ← r.nullable "description" string
    return .apiKey name location description
  else if kind = "http" then
    let r ← record ["scheme", "bearerFormat", "description"] body
    let scheme ← r.required "scheme" string
    let bearerFormat ← r.nullable "bearerFormat" string
    let description ← r.nullable "description" string
    return .http scheme bearerFormat description
  else if kind = "oauth2" then
    let r ← record ["flows", "description"] body
    let flows ← r.required "flows" OAuthFlows.decode
    let description ← r.nullable "description" string
    return .oauth2 flows description
  else if kind = "openIdConnect" then
    let r ← record ["openIdConnectUrl", "description"] body
    let url ← r.required "openIdConnectUrl" string
    let description ← r.nullable "description" string
    return .openIdConnect url description
  else if kind = "mutualTLS" then
    let r ← record ["description"] body
    let description ← r.nullable "description" string
    return .mutualTls description
  else none

end SecurityScheme

/-! ## Encoding -/

/-- A field that is left out when there is no value. -/
def optionalField (name : String) (value : Option Json) : List (String × Json) :=
  match value with
  | some v => [(name, v)]
  | none => []

def optionalText (name : String) (value : Option String) : List (String × Json) :=
  optionalField name (value.map .str)

def OAuthFlow.toJson (f : OAuthFlow) : Json :=
  .object (f.extensions.entries ++ optionalText "authorizationUrl" f.authorizationUrl
    ++ optionalText "tokenUrl" f.tokenUrl ++ optionalText "refreshUrl" f.refreshUrl
    ++ [("scopes", .ofStringDict f.scopes)])

def OAuthFlows.toJson (f : OAuthFlows) : Json :=
  .object (f.extensions.entries
    ++ optionalField "implicit" (f.implicit.map OAuthFlow.toJson)
    ++ optionalField "password" (f.password.map OAuthFlow.toJson)
    ++ optionalField "clientCredentials" (f.clientCredentials.map OAuthFlow.toJson)
    ++ optionalField "authorizationCode" (f.authorizationCode.map OAuthFlow.toJson))

def SecurityScheme.toJson : SecurityScheme → Json
  | .apiKey name location description =>
    .object ([("type", .str "apiKey"), ("name", .str name), ("in", .str location)]
      ++ optionalText "description" description)
  | .http scheme bearerFormat description =>
    .object ([("type", .str "http"), ("scheme", .str scheme),
      ("bearerFormat", .ofOption (bearerFormat.map .str))]
      ++ optionalText "description" description)
  | .oauth2 flows description =>
    .object ([("type", .str "oauth2"), ("flows", flows.toJson)]
      ++ optionalText "description" description)
  | .openIdConnect url description =>
    .object ([("type", .str "openIdConnect"), ("openIdConnectUrl", .str url)]
      ++ optionalText "description" description)
  | .mutualTls description =>
    .object ([("type", .str "mutualTLS")] ++ optionalText "description" description)

end ApiForge
