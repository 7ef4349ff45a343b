import ApiForge.Text.Pieces
/-
# ApiForge.Text.Identifier -- names for symbols and files

The case conventions of generated sources (`PetStore`, `petStore`, `pet_store`)
and the shape of an identifier.  `IsIdentifier` says what an identifier is;
`toIdentifier` makes one from any text.
-/

namespace ApiForge.Text

set_option autoImplicit false

/-- A word separator: an underscore, a hyphen or a blank. -/
def isWordGap (c : Char) : Bool := c = '_' || c = '-' || isBlank c

/-- A word with its first letter capital; capitals inside it stay. -/
def capitalize : List Char → List Char
  | [] => []
  | c :: rest => upper c ++ rest

/-- `pet_store` and `pet store` become `PetStore`. -/
def camelCaseChars (s : List Char) : List Char :=
  (splitAt isWordGap s).flatMap capitalize

def camelCase (s : String) : String := String.ofList (camelCaseChars s.toList)

/-- `pet_store` becomes `petStore`. -/
def lowerCamelCaseChars (s : List Char) : List Char :=
  match camelCaseChars s with
  | [] => []
  | c :: rest => lower c ++ rest

def lowerCamelCase (s : String) : String := String.ofList (lowerCamelCaseChars s.toList)

/-- Close the word written so far (`done`, last character first), unless nothing is
written or it is closed. -/
def closeWord (done : List Char) : List Char :=
  match done with
  | [] => []
  | c :: rest => if c = '_' then c :: rest else '_' :: c :: rest

/-- One character of the snake-case form: a capital opens a word, a hyphen or a
blank closes one, characters other than small letters, digits and underscores go. -/
def snakeStep (done : List Char) (c : Char) : List Char :=
  if isUpper c then (lower c).reverse ++ closeWord done
  else if isLower c || isAsciiDigit c || c = '_' then c :: done
  else if c = '-' || isBlank c then closeWord done
  else done

/-- `petStore` and `Pet-Store` become `pet_store`. -/
def snakeCaseChars (s : List Char) : List Char := (s.foldl snakeStep []).reverse

def snakeCase (s : String) : String := String.ofList (snakeCaseChars s.toList)

/-- A character that may stand in an identifier. -/
def isIdentifierChar (c : Char) : Bool := isAsciiLetter c || isAsciiDigit c || c = '_'

/-- ASCII letters, digits and underscores, at least one, and no digit in front. -/
def IsIdentifier (s : List Char) : Prop :=
  s ≠ [] ∧ (∀ c ∈ s, isIdentifierChar c = true) ∧ ∀ c, s.head? = some c → isAsciiDigit c = false

instance (s : List Char) : Decidable (IsIdentifier s) :=
  match s with
  | [] => isFalse fun h => h.1 rfl
  | c :: rest =>
    if all : (c :: rest).all isIdentifierChar = true then
      if digit : isAsciiDigit c = false then
        isTrue ⟨by simp, List.all_eq_true.1 all, fun d h => by cases h; exact digit⟩
      else isFalse fun h => digit (h.2.2 c rfl)
    else isFalse fun h => all (List.all_eq_true.2 h.2.1)

/-- Put an underscore for every character that may not stand in an identifier, and
one in front of nothing or of a digit. -/
def toIdentifierChars (s : List Char) : List Char :=
  match s.map fun c => if isIdentifierChar c then c else '_' with
  | [] => ['_']
  | c :: rest => if isAsciiDigit c then '_' :: c :: rest else c :: rest

def toIdentifier (s : String) : String := String.ofList (toIdentifierChars s.toList)

end ApiForge.Text
