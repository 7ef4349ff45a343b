import ApiForge.Description.Basic
import ApiForge.Readers.Basic
/-
# ApiForge.Server -- where an API is served

Scheme, base path and host come from the first server of a description.  A server URL
without a scheme is taken to be relative to the local host.
-/

namespace ApiForge

set_option autoImplicit false

open ApiForge.Text

/-- What the first server says. -/
structure ServerInfo where
  scheme : String
  /-- The server URL without slashes at its end. -/
  basePath : String
  /-- The path of the server URL without slashes at its end. -/
  contextPath : String
  basePathWithoutHost : String
  host : Option String
deriving DecidableEq, Inhabited

namespace ServerInfo

/-- The host that relative URLs are relative to. -/
def localBase : String := "http://localhost"

/-- Put the default of every variable in its place, one variable after the other. -/
def expandVariables (server : Server) : String :=
  server.placeholders.entries.foldl
    (fun url v => replaceString url ("\x7b" ++ v.1 ++ "\x7d") v.2.default) server.url

def dropLeadingSlashes (s : String) : String := String.ofList (trimStart (· = '/') s.toList)

def dropTrailingSlashes (s : String) : String := String.ofList (trimEnd (· = '/') s.toList)

variable [Readers]

/-- The URL of a server, and whether it names its scheme. -/
def urlOf (server : Server) : Option (Url × Bool) :=
  let expanded := expandVariables server
  let named := contains expanded "://"
  let absolute := if named then expanded else localBase ++ "/" ++ dropLeadingSlashes expanded
  (Readers.url absolute).map fun url => (url, named)

/-- What the first of the servers says, with text made safe by `escape`. -/
def ofServers (escape : String → String) (servers : List Server) : ServerInfo :=
  match servers.head?.bind urlOf with
  | none =>
    { scheme := escape "https"
      basePath := escape localBase
      contextPath := escape ""
      basePathWithoutHost := escape (escape "")
      host := none }
  | some (url, named) =>
    let contextPath := escape (dropTrailingSlashes url.path)
    { scheme := escape (if named && !isBlankString url.scheme then url.scheme else "https")
      basePath := escape (dropTrailingSlashes url.text)
      contextPath := contextPath
      basePathWithoutHost := escape contextPath
      host := url.host? }

end ServerInfo

end ApiForge
