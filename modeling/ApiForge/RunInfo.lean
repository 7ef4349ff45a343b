import ApiForge.Backend
import ApiForge.Server
/-
# ApiForge.RunInfo -- what groups of operations and the bundle share

Values of the run as a whole, worked out once: where the API is served, the properties,
the vendor extensions, every security scheme, the packages.
-/

namespace ApiForge

set_option autoImplicit false

structure RunInfo where
  server : ServerInfo
  /-- The properties of the run as one map. -/
  properties : Dict Json
  vendorExtensions : Dict Json
  /-- Every declared security scheme that the backend leaves standing. -/
  authMethods : List AuthMethod
  apiPackage : String
  modelPackage : String

namespace RunInfo

def ofDescription [Readers] (backend : Backend) (description : Description)
    (properties : Properties) : RunInfo :=
  { server := ServerInfo.ofServers backend.naming.escapeText description.servers
    properties := properties.entries
    vendorExtensions := description.vendorExtensions
    authMethods := backend.projector.ofSecurity (allAuthMethods description.securitySchemes)
    apiPackage := backend.layout.apiPackage
    modelPackage := backend.layout.modelPackage }

/-- The entries for security, where there is any. -/
def authEntries (run : RunInfo) : Dict Json :=
  if run.authMethods.isEmpty then .empty
  else .ofList [(Key.authMethods, .arr (run.authMethods.map AuthMethod.toJson)),
    (Key.hasAuthMethods, .bool true)]

end RunInfo

end ApiForge
