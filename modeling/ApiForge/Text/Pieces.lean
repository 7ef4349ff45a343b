import ApiForge.Text.Letter
/-
# ApiForge.Text.Pieces -- cutting text up and putting it together

Splitting at separators, trimming, and replacing, over lists of characters.
Splitting loses nothing: there is always one piece more than there are
separators, and no piece holds one.
-/

namespace ApiForge.Text

set_option autoImplicit false

/-- The pieces between the characters that satisfy `sep`, empty ones included. -/
def splitAt (sep : Char → Bool) : List Char → List (List Char)
  | [] => [[]]
  | c :: rest =>
    if sep c then [] :: splitAt sep rest
    else
      match splitAt sep rest with
      | [] => [[c]]
      | piece :: pieces => (c :: piece) :: pieces

theorem splitAt_ne_nil (sep : Char → Bool) (s : List Char) : splitAt sep s ≠ [] := by
  cases s with
  | nil => simp [splitAt]
  | cons c rest =>
    simp only [splitAt]
    split
    · simp
    · split <;> simp

/-- Pieces with `sep` between them. -/
def joinWith (sep : List Char) : List (List Char) → List Char
  | [] => []
  | [piece] => piece
  | piece :: pieces => piece ++ sep ++ joinWith sep pieces

/-- The text before the first character that satisfies `sep`, and the text after it. -/
def cutAt (sep : Char → Bool) : List Char → Option (List Char × List Char)
  | [] => none
  | c :: rest =>
    if sep c then some ([], rest)
    else (cutAt sep rest).map fun cut => (c :: cut.1, cut.2)

def trimStart (drop : Char → Bool) (s : List Char) : List Char := s.dropWhile drop

def trimEnd (drop : Char → Bool) (s : List Char) : List Char :=
  (s.reverse.dropWhile drop).reverse

/-- Text without the blanks at its two ends. -/
def trim (s : List Char) : List Char := trimEnd isBlank (trimStart isBlank s)

/-- What follows `head` in `s`, if `s` starts with it. -/
def afterHead? (head s : List Char) : Option (List Char) :=
  match head, s with
  | [], s => some s
  | _ :: _, [] => none
  | h :: hs, c :: cs => if h = c then afterHead? hs cs else none

theorem afterHead?_length {head s rest : List Char} (found : afterHead? head s = some rest) :
    rest.length + head.length = s.length := by
  induction head generalizing s with
  | nil => cases found; rfl
  | cons h hs ih =>
    cases s with
    | nil => simp [afterHead?] at found
    | cons c cs =>
      simp only [afterHead?] at found
      split at found
      · have := ih found; simp only [List.length_cons]; omega
      · cases found

/-- Put `image` for every occurrence of `pattern`, from left to right and without
looking into what was put.  An empty pattern occurs nowhere. -/
def replaceAll (pattern image : List Char) (s : List Char) : List Char :=
  match pattern with
  | [] => s
  | p :: ps =>
    match s with
    | [] => []
    | c :: cs =>
      match _found : afterHead? (p :: ps) (c :: cs) with
      | some rest => image ++ replaceAll (p :: ps) image rest
      | none => c :: replaceAll (p :: ps) image cs
  termination_by s.length
  decreasing_by
    · have := afterHead?_length _found; simp only [List.length_cons] at *; omega
    · simp

section ReplaceAll

variable {p : Char} {ps image : List Char}

@[simp] theorem replaceAll_nil : replaceAll (p :: ps) image [] = [] := by rw [replaceAll]

theorem replaceAll_of_found {s rest : List Char} (found : afterHead? (p :: ps) s = some rest) :
    replaceAll (p :: ps) image s = image ++ replaceAll (p :: ps) image rest := by
  cases s with
  | nil => cases found
  | cons c cs =>
    rw [replaceAll]
    split
    · rename_i found'
      rw [found] at found'
      cases found'
      rfl
    · rename_i none
      rw [found] at none
      cases none

theorem replaceAll_of_not_found {c : Char} {cs : List Char}
    (none : afterHead? (p :: ps) (c :: cs) = none) :
    replaceAll (p :: ps) image (c :: cs) = c :: replaceAll (p :: ps) image cs := by
  rw [replaceAll]
  split
  · rename_i found
    rw [none] at found
    cases found
  · rfl

end ReplaceAll

/-! ## The same on strings -/

def splitString (sep : Char → Bool) (s : String) : List String :=
  (splitAt sep s.toList).map String.ofList

def joinStrings (sep : String) (pieces : List String) : String :=
  String.ofList (joinWith sep.toList (pieces.map String.toList))

def trimString (s : String) : String := String.ofList (trim s.toList)

def isBlankString (s : String) : Bool := s.toList.all isBlank

def startsWith (s head : String) : Bool := (afterHead? head.toList s.toList).isSome

def endsWith (s tail : String) : Bool :=
  (afterHead? tail.toList.reverse s.toList.reverse).isSome

/-- What follows `head` in `s`, if `s` starts with it. -/
def stripHead? (s head : String) : Option String :=
  (afterHead? head.toList s.toList).map String.ofList

def contains (s part : String) : Bool :=
  let rec go (part : List Char) : List Char → Bool
    | [] => part.isEmpty
    | c :: cs => (afterHead? part (c :: cs)).isSome || go part cs
  go part.toList s.toList

def replaceString (s pattern image : String) : String :=
  String.ofList (replaceAll pattern.toList image.toList s.toList)

end ApiForge.Text
