import ApiForge.Ignore.Rules
import ApiForge.Readers.Basic
import ApiForge.Template.Parse
import ApiForge.Template.Render
/-
# ApiForge.Readers.Standard -- the readers of the program
-/

namespace ApiForge

set_option autoImplicit false

instance Readers.standard : Readers where
  template source := (Template.parse source).map Template.render
  rules := Ignore.ofText
  url := Url.parse

end ApiForge
