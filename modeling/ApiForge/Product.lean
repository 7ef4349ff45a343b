import ApiForge.Path
/-
# ApiForge.Product -- the names that the tool goes by

Its version, the files it looks for and leaves behind, and the texts it puts in place of
what a description does not say.
-/

namespace ApiForge.Product

set_option autoImplicit false

def name : String := "brrtrouter-codegen"

def version : String := "0.1.0-alpha.1"

/-- The rule file at the root of an output folder. -/
def ignoreFileName : String := ".brrtrouter-codegen-ignore"

/-- The folder for stamps at the root of an output folder. -/
def metadataFolder : String := ".brrtrouter-codegen"

def versionFileName : String := "VERSION"

/-- The manifest that is looked for beside a description. -/
def manifestFileName : String := "brrtrouter-codegen.toml"

/-- What a backend without a name of its own is called. -/
def manifestBackendName : String := "brrtrouter_codegen::generator::manifest::ManifestBackend"

def defaultVersion : String := "1.0.0"

def defaultDescription : String :=
  "No description provided (generated by brrtrouter-codegen)"

def ignoreFilePath (output : Path) : Path := output.join ignoreFileName

def versionFilePath (output : Path) : Path := (output.join metadataFolder).join versionFileName

/-- The rule file that a first run leaves behind. -/
def ignoreFileText (version : String) : String :=
  Text.joinStrings "\n" [
    "# brrtrouter-codegen ignore file (generated by brrtrouter-codegen " ++ version ++ ")",
    "#",
    "# Paths listed here are never written by the generator. Patterns follow",
    "# .gitignore syntax and are matched relative to the output directory.",
    "#",
    "# Skip a single file:",
    "#   src/models/pet.rs",
    "#",
    "# Skip a whole folder:",
    "#   docs/",
    "#",
    "# Skip by extension, with an exception:",
    "#   *.md",
    "#   !README.md"]

def versionFileText : String := version ++ "\n"

end ApiForge.Product
