import ApiForge.Description.Basic
/-
# ApiForge.Parameters -- parameters that a path hands down to its operations

Two parameters of one name and one location are the same parameter.  An operation keeps
its own list as it is and inherits, of each further parameter of its path, the first
declaration.
-/

namespace ApiForge

set_option autoImplicit false

/-- What tells parameters apart. -/
structure ParameterId where
  name : String
  location : ParameterLocation
deriving DecidableEq

def Parameter.id (p : Parameter) : ParameterId := ⟨p.name, p.location⟩

def ParameterId.text (i : ParameterId) : String := i.name ++ ":" ++ i.location.name

/-- The parameters whose identity is not in `seen` and has not come before. -/
def newParameters (seen : List ParameterId) : List Parameter → List Parameter
  | [] => []
  | p :: rest =>
    if seen.contains p.id then newParameters seen rest
    else p :: newParameters (p.id :: seen) rest

/-- The parameters of an operation, with those that it inherits behind them. -/
def mergeParameters (own : Option (List Parameter)) (inherited : List Parameter) :
    List Parameter :=
  own.getD [] ++ newParameters ((own.getD []).map Parameter.id) inherited

end ApiForge
