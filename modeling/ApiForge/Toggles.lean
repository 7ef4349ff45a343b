import ApiForge.Json.Decode
/-
# ApiForge.Toggles -- what a run produces

Every toggle is looked up in three layers, and the first layer that sets it wins: what
the run asks for, what properties from outside say, what the backend prefers.  The three
categories stand together: when no layer mentions any of them all are on, and as soon as
one is mentioned the others have to be asked for.
-/

namespace ApiForge

set_option autoImplicit false

/-- The switches of a run. -/
inductive Toggle where
  | apis
  | models
  | supportingFiles
  | modelTests
  | modelDocs
  | apiTests
  | apiDocs
  | useOas2
deriving DecidableEq

namespace Toggle

def all : List Toggle :=
  [.apis, .models, .supportingFiles, .modelTests, .modelDocs, .apiTests, .apiDocs, .useOas2]

/-- The name of the property that sets the toggle. -/
def key : Toggle → String
  | .apis => "apis"
  | .models => "models"
  | .supportingFiles => "supportingFiles"
  | .modelTests => "modelTests"
  | .modelDocs => "modelDocs"
  | .apiTests => "apiTests"
  | .apiDocs => "apiDocs"
  | .useOas2 => "useOas2"

/-- The three categories of files. -/
def isCategory (t : Toggle) : Bool := t = .apis || t = .models || t = .supportingFiles

end Toggle

/-- One layer of toggles; a toggle without a value is left to the next layer. -/
structure ToggleLayer where
  apis : Option Bool
  models : Option Bool
  supportingFiles : Option Bool
  modelTests : Option Bool
  modelDocs : Option Bool
  apiTests : Option Bool
  apiDocs : Option Bool
  useOas2 : Option Bool
deriving DecidableEq, Inhabited

namespace ToggleLayer

/-- A layer that sets nothing. -/
def empty : ToggleLayer := ⟨none, none, none, none, none, none, none, none⟩

def get (l : ToggleLayer) : Toggle → Option Bool
  | .apis => l.apis
  | .models => l.models
  | .supportingFiles => l.supportingFiles
  | .modelTests => l.modelTests
  | .modelDocs => l.modelDocs
  | .apiTests => l.apiTests
  | .apiDocs => l.apiDocs
  | .useOas2 => l.useOas2

def set (l : ToggleLayer) (t : Toggle) (value : Option Bool) : ToggleLayer :=
  match t with
  | .apis => { l with apis := value }
  | .models => { l with models := value }
  | .supportingFiles => { l with supportingFiles := value }
  | .modelTests => { l with modelTests := value }
  | .modelDocs => { l with modelDocs := value }
  | .apiTests => { l with apiTests := value }
  | .apiDocs => { l with apiDocs := value }
  | .useOas2 => { l with useOas2 := value }

@[simp] theorem get_set_self (l : ToggleLayer) (t : Toggle) (value : Option Bool) :
    (l.set t value).get t = value := by cases t <;> rfl

theorem get_set_of_ne (l : ToggleLayer) {t u : Toggle} (value : Option Bool) (ne : u ≠ t) :
    (l.set t value).get u = l.get u := by
  cases t <;> cases u <;> first | rfl | exact absurd rfl ne

open Json.Decode in
def decode (j : Json) : Option ToggleLayer := do
  let r ← record (Toggle.all.map Toggle.key) j
  return {
    apis := ← r.optional "apis" bool
    models := ← r.optional "models" bool
    supportingFiles := ← r.optional "supportingFiles" bool
    modelTests := ← r.optional "modelTests" bool
    modelDocs := ← r.optional "modelDocs" bool
    apiTests := ← r.optional "apiTests" bool
    apiDocs := ← r.optional "apiDocs" bool
    useOas2 := ← r.optional "useOas2" bool }

/-- Every toggle with its value, `null` where there is none. -/
def toJson (l : ToggleLayer) : Json :=
  .object (Toggle.all.map fun t => (t.key, .ofOption ((l.get t).map .bool)))

end ToggleLayer

/-- The layers of a run, the strongest first. -/
structure ToggleSources where
  explicit : ToggleLayer
  external : ToggleLayer
  backend : ToggleLayer

namespace ToggleSources

/-- The value of the first layer that sets the toggle. -/
def probe (s : ToggleSources) (t : Toggle) : Option Bool :=
  (s.explicit.get t).or ((s.external.get t).or (s.backend.get t))

/-- Does any layer mention a category? -/
def mentionsCategory (s : ToggleSources) : Bool :=
  Toggle.all.any fun t => t.isCategory && (s.probe t).isSome

/-- The value of a toggle that no layer sets. -/
def fallback (s : ToggleSources) (t : Toggle) : Bool :=
  if t.isCategory then !s.mentionsCategory
  else t ≠ .useOas2

end ToggleSources

/-- Every toggle, decided. -/
structure Options where
  apis : Bool
  models : Bool
  supportingFiles : Bool
  modelTests : Bool
  modelDocs : Bool
  apiTests : Bool
  apiDocs : Bool
  useOas2 : Bool
deriving DecidableEq

namespace Options

/-- Decide every toggle. -/
def resolve (s : ToggleSources) : Options :=
  let decided (t : Toggle) : Bool := (s.probe t).getD (s.fallback t)
  { apis := decided .apis
    models := decided .models
    supportingFiles := decided .supportingFiles
    modelTests := decided .modelTests
    modelDocs := decided .modelDocs
    apiTests := decided .apiTests
    apiDocs := decided .apiDocs
    useOas2 := decided .useOas2 }

/-- What a run produces when nothing is set. -/
def standard : Options := resolve ⟨.empty, .empty, .empty⟩

def toJson (o : Options) : Json :=
  .object [
    ("apis", .bool o.apis),
    ("models", .bool o.models),
    ("supportingFiles", .bool o.supportingFiles),
    ("modelTests", .bool o.modelTests),
    ("modelDocs", .bool o.modelDocs),
    ("apiTests", .bool o.apiTests),
    ("apiDocs", .bool o.apiDocs),
    ("useOas2", .bool o.useOas2)]

end Options

end ApiForge
