import ApiForge.Description.Basic
import ApiForge.Product
import ApiForge.Toggles
/-
# ApiForge.Properties -- what every context of a run holds

Some entries belong to the run itself: its version and date, its switches, what the
description says about the API.  Everything else comes from outside and is kept beside
them.  Where both have an entry of one name, the run's own is the one that counts.
-/

namespace ApiForge

set_option autoImplicit false

/-- When a run takes place, as it is written into the properties. -/
structure Moment where
  date : String
  year : String
deriving DecidableEq

/-- What the info block says, ready for templates. -/
structure AppInfo where
  appName : Option String
  appVersion : String
  appDescription : String
  unescapedAppDescription : String
  infoEmail : Option String
  infoName : Option String
  infoUrl : Option String
  licenseInfo : Option String
  licenseUrl : Option String
  version : String
  termsOfService : Option String
deriving DecidableEq

namespace AppInfo

/-- The entries that an info block makes; an absent one makes nothing. -/
def fields (a : AppInfo) : List (String × Json) :=
  optionalText "appName" a.appName ++ [("appVersion", .str a.appVersion),
    ("appDescription", .str a.appDescription),
    ("unescapedAppDescription", .str a.unescapedAppDescription)]
    ++ optionalText "infoEmail" a.infoEmail ++ optionalText "infoName" a.infoName
    ++ optionalText "infoUrl" a.infoUrl ++ optionalText "licenseInfo" a.licenseInfo
    ++ optionalText "licenseUrl" a.licenseUrl ++ [("version", .str a.version)]
    ++ optionalText "termsOfService" a.termsOfService

def toJson (a : AppInfo) : Json := .object a.fields

/-- Project an info block; `escape` makes text safe inside a quoted literal. -/
def ofInfo (escape : String → String) (info : Info) : AppInfo :=
  let version := match info.version with
    | some v => escape v
    | none => Product.defaultVersion
  let (escaped, plain) := match info.description with
    | some d =>
      if d.isEmpty then (Product.defaultDescription, Product.defaultDescription)
      else (escape d, d)
    | none => (Product.defaultDescription, Product.defaultDescription)
  let contact (f : Contact → Option String) := (info.contact.bind f).map escape
  let license (f : License → Option String) := (info.license.bind f).map escape
  { appName := info.title.map escape
    appVersion := version
    appDescription := escaped
    unescapedAppDescription := plain
    infoEmail := contact Contact.email
    infoName := contact Contact.name
    infoUrl := contact Contact.url
    licenseInfo := license License.name
    licenseUrl := license License.url
    version := version
    termsOfService := info.termsOfService.map escape }

end AppInfo

/-- The properties of a run. -/
structure Properties where
  generatorVersion : String
  generatedDate : String
  generatedYear : String
  generatorClass : String
  inputSpec : Option String
  generateApiTests : Bool
  generateModelTests : Bool
  generateApiDocs : Bool
  generateModelDocs : Bool
  useOas2 : Option Bool
  excludeTests : Option Bool
  app : Option AppInfo
  /-- What comes from outside. -/
  extra : Dict Json

namespace Properties

/-- Properties that say nothing. -/
def blank : Properties :=
  ⟨"", "", "", "", none, false, false, false, false, none, none, none, .empty⟩

/-- The properties that a run starts with. -/
def forRun (now : Moment) (generatorClass : String) (inputSpec : Option String) : Properties :=
  { blank with
    generatorVersion := Product.version
    generatedDate := now.date
    generatedYear := now.year
    generatorClass := generatorClass
    inputSpec := inputSpec }

def insert (p : Properties) (name : String) (value : Json) : Properties :=
  { p with extra := p.extra.insert name value }

/-- The run's own entries. -/
def ownFields (p : Properties) : List (String × Json) :=
  [("generatorVersion", .str p.generatorVersion), ("generatedDate", .str p.generatedDate),
    ("generatedYear", .str p.generatedYear), ("generatorClass", .str p.generatorClass)]
    ++ optionalText "inputSpec" p.inputSpec
    ++ [("generateApiTests", .bool p.generateApiTests),
      ("generateModelTests", .bool p.generateModelTests),
      ("generateApiDocs", .bool p.generateApiDocs),
      ("generateModelDocs", .bool p.generateModelDocs)]
    ++ optionalField "useOas2" (p.useOas2.map .bool)
    ++ optionalField "excludeTests" (p.excludeTests.map .bool)
    ++ (p.app.map AppInfo.fields).getD []

/-- Everything in one map; the run's own entries win. -/
def entries (p : Properties) : Dict Json := p.extra.extend (.ofList p.ownFields)

def get? (p : Properties) (name : String) : Option Json := p.entries.get? name

/-- Write the decided switches down.  The switch for the older format is written only
where a run or a property asks for it and no entry from outside stands under its name. -/
def stamp (p : Properties) (sources : ToggleSources) (options : Options) : Properties :=
  let asked := (sources.explicit.get .useOas2).or (sources.external.get .useOas2)
  { p with
    generateApiTests := options.apiTests
    generateModelTests := options.modelTests
    generateApiDocs := options.apiDocs
    generateModelDocs := options.modelDocs
    useOas2 :=
      if asked.isSome && !p.extra.contains Toggle.useOas2.key then some options.useOas2
      else p.useOas2
    excludeTests := if !options.apiTests && !options.modelTests then some true else p.excludeTests }

end Properties

end ApiForge
