import ApiForge.Context
import ApiForge.Path
import ApiForge.Url.Basic
/-
# ApiForge.Readers.Basic -- what reads templates, rules and URLs

A run relies on others to read three kinds of text.  What it does with the results is the same
whoever reads them, so the readers are a parameter of everything that depends on them.
-/

namespace ApiForge

set_option autoImplicit false

/-- The readers that a run relies on. -/
class Readers where
  /-- What a template makes of a context.  There is nothing where the template cannot be read,
  and nothing again where it cannot be rendered. -/
  template : String → Option (Context → Option String)
  /-- Which paths the rules in a text keep untouched, below the folder that they belong to. -/
  rules : Path → String → Option (Path → Bool)
  /-- A URL in normal form. -/
  url : String → Option Url

end ApiForge
