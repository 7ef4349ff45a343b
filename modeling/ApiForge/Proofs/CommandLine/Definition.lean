import ApiForge.CommandLine.Definition
import ApiForge.Proofs.Naming
import ApiForge.Proofs.Text.Pieces
import Mathlib.Data.Nat.Digits.Lemmas
/-
# ApiForge.Proofs.CommandLine.Definition -- what a definition says

A definition is read at its first `=`; without one, or with nothing but blanks in front of it,
it is none.  What follows is a flag where it is one of two words, and a number where it spells
one that has a place in 64 bits (`Spells`, `signedValue?_eq_some_iff`).  Everything else is text
and stays as it is written, so nothing of a definition is lost (`parse_keeps_text`).  A number
that is written in decimals comes back, the two at the ends of the range included
(`spells_toString`).
-/

namespace ApiForge

set_option autoImplicit false

open ApiForge.Text

namespace Definition

/-! ## Numerals -/

/-- One decimal digit or more. -/
def IsNumeral (digits : List Char) : Prop :=
  digits ≠ [] ∧ ∀ c ∈ digits, isAsciiDigit c = true

/-- The number that a numeral denotes: every digit counts for the place where it stands. -/
def placeValue (digits : List Char) : Nat :=
  Nat.ofDigits 10 (digits.reverse.map fun c => c.toNat - 48)

/-- The text is a numeral, perhaps with a sign in front, and denotes the number. -/
inductive Spells : List Char → Int → Prop
  | unsigned {digits : List Char} : IsNumeral digits → Spells digits (placeValue digits)
  | positive {digits : List Char} : IsNumeral digits → Spells ('+' :: digits) (placeValue digits)
  | negative {digits : List Char} : IsNumeral digits →
      Spells ('-' :: digits) (-(placeValue digits : Int))

section Reading

variable {digits s : List Char} {n : Int}

theorem placeValue_eq_foldl (digits : List Char) :
    placeValue digits = digits.foldl (fun n d => n * 10 + (d.toNat - 48)) 0 := by
  rw [placeValue, Nat.ofDigits_eq_foldr, List.foldr_map, List.foldr_reverse]
  congr 1
  funext n d
  rw [Nat.cast_id, Nat.add_comm, Nat.mul_comm]

theorem digitsValue?_eq_some_iff {m : Nat} :
    digitsValue? digits = some m ↔ IsNumeral digits ∧ placeValue digits = m := by
  rw [digitsValue?, placeValue_eq_foldl, IsNumeral]
  simp

/-- What a numeral is read as, whatever sign stands in front of it. -/
theorem exists_numeral {sign : Int → Int}
    (read : Option.map sign (digitsValue? digits) = some n) :
    IsNumeral digits ∧ n = sign (placeValue digits) := by
  obtain ⟨m, found, rfl⟩ := Option.map_eq_some_iff.1 read
  obtain ⟨k, value, same⟩ := Option.bind_eq_some_iff.1 found
  cases same
  obtain ⟨numeral, rfl⟩ := digitsValue?_eq_some_iff.1 value
  exact ⟨numeral, rfl⟩

/-- A numeral starts with no sign. -/
theorem IsNumeral.ne_cons (numeral : IsNumeral digits) {c : Char}
    (sign : isAsciiDigit c = false) (rest : List Char) : digits ≠ c :: rest := by
  rintro rfl
  have digit := numeral.2 c List.mem_cons_self
  rw [sign] at digit
  cases digit

/-- **Numbers are read where they are spelled.** -/
theorem signedValue?_eq_some_iff : signedValue? s = some n ↔ Spells s n := by
  constructor
  · intro read
    rw [signedValue?.eq_def] at read
    split at read
    · obtain ⟨numeral, rfl⟩ := exists_numeral read
      exact .negative numeral
    · obtain ⟨numeral, rfl⟩ := exists_numeral read
      exact .positive numeral
    · obtain ⟨numeral, rfl⟩ := exists_numeral read
      exact .unsigned numeral
  · intro spelled
    have digits {digits : List Char} (numeral : IsNumeral digits) :
        digitsValue? digits = some (placeValue digits) :=
      digitsValue?_eq_some_iff.2 ⟨numeral, rfl⟩
    cases spelled with
    | unsigned numeral =>
        rw [signedValue?, digits numeral]
        · rfl
        · exact fun rest => numeral.ne_cons (by decide) rest
        · exact fun rest => numeral.ne_cons (by decide) rest
    | positive numeral => rw [signedValue?, digits numeral]; rfl
    | negative numeral => rw [signedValue?, digits numeral]; rfl

theorem isNumeral_toDigits (m : Nat) : IsNumeral (Nat.toDigits 10 m) :=
  ⟨Nat.toDigits_ne_nil, fun _ mem => isAsciiDigit_of_mem_toDigits mem⟩

theorem placeValue_toDigits (m : Nat) : placeValue (Nat.toDigits 10 m) = m := by
  have read := Nat.ofDigitChars_toDigits (b := 10) (n := m) (by decide) (by decide)
  rw [Nat.ofDigitChars_eq_foldl] at read
  rw [placeValue_eq_foldl]
  simp only [Nat.mul_comm _ 10]
  exact read

/-- **Writing a number in decimals spells it.** -/
theorem spells_toString (n : Int) : Spells (toString n).toList n := by
  have decimals (m : Nat) : m.repr.toList = Nat.toDigits 10 m := by
    rw [Nat.repr_eq_ofList_toDigits, String.toList_ofList]
  cases n with
  | ofNat m =>
      have spelled := Spells.unsigned (isNumeral_toDigits m)
      rwa [placeValue_toDigits, ← decimals] at spelled
  | negSucc m =>
      have spelled := Spells.negative (isNumeral_toDigits (m + 1))
      rw [placeValue_toDigits, ← decimals] at spelled
      have written : (toString (Int.negSucc m)).toList = '-' :: (m + 1).repr.toList := by
        rw [Int.toString_eq_repr, Int.repr]
        simp
      rw [written]
      exact spelled

end Reading

/-! ## Values -/

theorem fits_iff {n : Int} : fits n = true ↔ -2 ^ 63 ≤ n ∧ n < 2 ^ 63 := by
  rw [fits, Bool.and_eq_true, decide_eq_true_eq, decide_eq_true_eq, minInt64, maxInt64]
  omega

section Values

variable {value : String} {n : Int}

/-- The two words for flags spell no number. -/
theorem signedValue?_flag : signedValue? "true".toList = none ∧
    signedValue? "false".toList = none := by decide

theorem valueOf_number (spelled : Spells value.toList n) (small : -2 ^ 63 ≤ n ∧ n < 2 ^ 63) :
    valueOf value = .int n := by
  have read := signedValue?_eq_some_iff.2 spelled
  have notTrue : value ≠ "true" := by
    rintro rfl
    cases signedValue?_flag.1.symm.trans read
  have notFalse : value ≠ "false" := by
    rintro rfl
    cases signedValue?_flag.2.symm.trans read
  have kept : (signedValue? value.toList).filter fits = some n :=
    Option.filter_eq_some_iff.2 ⟨read, fits_iff.2 small⟩
  simp only [valueOf, if_neg notTrue, if_neg notFalse, kept]

theorem valueOf_text (notTrue : value ≠ "true") (notFalse : value ≠ "false")
    (noNumber : ∀ n, Spells value.toList n → ¬ (-2 ^ 63 ≤ n ∧ n < 2 ^ 63)) :
    valueOf value = .str value := by
  have none : (signedValue? value.toList).filter fits = none := by
    refine Option.filter_eq_none_iff.2 fun n read fit => ?_
    exact noNumber n (signedValue?_eq_some_iff.1 read) (fits_iff.1 fit)
  simp only [valueOf, if_neg notTrue, if_neg notFalse, none]

/-- **A value is a flag, a number that has a place in 64 bits, or the text itself.** -/
theorem valueOf_cases (value : String) :
    (value = "true" ∧ valueOf value = .bool true) ∨
    (value = "false" ∧ valueOf value = .bool false) ∨
    (∃ n, Spells value.toList n ∧ (-2 ^ 63 ≤ n ∧ n < 2 ^ 63) ∧ valueOf value = .int n) ∨
    valueOf value = .str value := by
  by_cases isTrue : value = "true"
  · exact .inl ⟨isTrue, by rw [isTrue]; rfl⟩
  by_cases isFalse : value = "false"
  · exact .inr (.inl ⟨isFalse, by rw [isFalse]; rfl⟩)
  by_cases number : ∃ n, Spells value.toList n ∧ -2 ^ 63 ≤ n ∧ n < 2 ^ 63
  · obtain ⟨n, spelled, small⟩ := number
    exact .inr (.inr (.inl ⟨n, spelled, small, valueOf_number spelled small⟩))
  · refine .inr (.inr (.inr (valueOf_text isTrue isFalse fun n spelled small => ?_)))
    exact number ⟨n, spelled, small⟩

theorem valueOf_eq_true_iff : valueOf value = .bool true ↔ value = "true" := by
  constructor
  · intro flag
    rcases valueOf_cases value with ⟨same, -⟩ | ⟨-, is⟩ | ⟨n, -, -, is⟩ | is
    · exact same
    all_goals cases is.symm.trans flag
  · rintro rfl
    rfl

theorem valueOf_eq_false_iff : valueOf value = .bool false ↔ value = "false" := by
  constructor
  · intro flag
    rcases valueOf_cases value with ⟨-, is⟩ | ⟨same, -⟩ | ⟨n, -, -, is⟩ | is
    · cases is.symm.trans flag
    · exact same
    all_goals cases is.symm.trans flag
  · rintro rfl
    rfl

theorem valueOf_eq_int_iff :
    valueOf value = .int n ↔ Spells value.toList n ∧ -2 ^ 63 ≤ n ∧ n < 2 ^ 63 := by
  constructor
  · intro number
    rcases valueOf_cases value with ⟨-, is⟩ | ⟨-, is⟩ | ⟨m, spelled, small, is⟩ | is
    · cases is.symm.trans number
    · cases is.symm.trans number
    · cases is.symm.trans number
      exact ⟨spelled, small⟩
    · cases is.symm.trans number
  · exact fun ⟨spelled, small⟩ => valueOf_number spelled small

end Values

/-! ## Definitions -/

section Parsing

variable {raw key value : String}

theorem cutAt_eq_of_append (clean : '=' ∉ key.toList) :
    cutAt (· = '=') (key ++ "=" ++ value).toList = some (key.toList, value.toList) := by
  have split : (key ++ "=" ++ value).toList = key.toList ++ '=' :: value.toList := by simp
  rw [split]
  refine cutAt_append (fun c mem => ?_) (by decide) _
  exact decide_eq_false fun same => clean (same ▸ mem)

/-- A text has no `=`, or it is cut at the first one. -/
theorem exists_append_of_mem (mem : '=' ∈ raw.toList) :
    ∃ key value : String, raw = key ++ "=" ++ value ∧ '=' ∉ key.toList := by
  cases cut : cutAt (· = '=') raw.toList with
  | none =>
      have none := cutAt_eq_none_iff.1 cut _ mem
      simp at none
  | some parts =>
      obtain ⟨before, after⟩ := parts
      obtain ⟨c, here, split, clean⟩ := cutAt_eq_some_iff.1 cut
      rw [decide_eq_true_eq] at here
      subst here
      refine ⟨String.ofList before, String.ofList after, ?_, fun mem => ?_⟩
      · apply String.toList_inj.1
        simp [split]
      · rw [String.toList_ofList] at mem
        simpa using clean _ mem

theorem parse_of_notMem (none : '=' ∉ raw.toList) : parse raw = .error (.noValue raw) := by
  have uncut : cutAt (· = '=') raw.toList = .none :=
    cutAt_eq_none_iff.2 fun c mem => decide_eq_false fun same => none (same ▸ mem)
  rw [parse, uncut]

theorem isEmpty_trim_iff : (trim key.toList).isEmpty = isBlankString key := by
  rw [Bool.eq_iff_iff, List.isEmpty_iff, trim_eq_nil_iff, isBlankString, List.all_eq_true]

theorem parse_append (clean : '=' ∉ key.toList) : parse (key ++ "=" ++ value) =
    if isBlankString key then .error (.noKey (key ++ "=" ++ value))
    else .ok (trimString key, valueOf value) := by
  rw [parse, cutAt_eq_of_append clean]
  simp only [isEmpty_trim_iff, String.ofList_toList]
  rfl

/-- **A definition keeps what is written in it.**  There is none without a `=` or with nothing
but blanks in front of it.  Otherwise the key is what stands in front of the first `=`, without
the blanks around it, and what stands behind it is a flag where it is one of two words, a number
where it spells one that has a place in 64 bits, and the text itself everywhere else.  Every
such number can be given in decimals. -/
theorem parse_keeps_text (raw : String) :
    (∀ e, parse raw = .error e ↔ (e = .noValue raw ∧ '=' ∉ raw.toList) ∨
      (e = .noKey raw ∧ ∃ key value : String, raw = key ++ "=" ++ value ∧ '=' ∉ key.toList ∧
        isBlankString key = true)) ∧
    (∀ key value : String, raw = key ++ "=" ++ value → '=' ∉ key.toList →
      isBlankString key = false → ∃ v, parse raw = .ok (trimString key, v) ∧
        (v = .bool true ↔ value = "true") ∧ (v = .bool false ↔ value = "false") ∧
        (∀ n, v = .int n ↔ Spells value.toList n ∧ -2 ^ 63 ≤ n ∧ n < 2 ^ 63) ∧
        ((∀ b, v ≠ .bool b) → (∀ n, v ≠ .int n) → v = .str value)) ∧
    (∀ key n, raw = key ++ "=" ++ toString n → '=' ∉ key.toList → isBlankString key = false →
      -2 ^ 63 ≤ n → n < 2 ^ 63 → parse raw = .ok (trimString key, .int n)) := by
  refine ⟨fun e => ⟨fun failed => ?_, ?_⟩, ?_, ?_⟩
  · by_cases mem : '=' ∈ raw.toList
    · obtain ⟨key, value, rfl, clean⟩ := exists_append_of_mem mem
      rw [parse_append clean] at failed
      split at failed
      · rename_i blank
        cases failed
        exact .inr ⟨rfl, key, value, rfl, clean, blank⟩
      · cases failed
    · cases (parse_of_notMem mem).symm.trans failed
      exact .inl ⟨rfl, mem⟩
  · rintro (⟨rfl, none⟩ | ⟨rfl, key, value, rfl, clean, blank⟩)
    · exact parse_of_notMem none
    · rw [parse_append clean, if_pos blank]
  · rintro key value rfl clean some
    refine ⟨valueOf value, by rw [parse_append clean, some]; rfl, valueOf_eq_true_iff,
      valueOf_eq_false_iff, fun n => valueOf_eq_int_iff, fun noFlag noNumber => ?_⟩
    rcases valueOf_cases value with ⟨-, is⟩ | ⟨-, is⟩ | ⟨n, -, -, is⟩ | is
    · exact absurd is (noFlag true)
    · exact absurd is (noFlag false)
    · exact absurd is (noNumber n)
    · exact is
  · rintro key n rfl clean some low high
    rw [parse_append clean, some, valueOf_number (spells_toString n) ⟨low, high⟩]
    rfl

/-- The least number is one, and the number after the greatest is text. -/
theorem parse_keeps_text_at_bounds :
    parse " size =-9223372036854775808" = .ok ("size", .int (-9223372036854775808)) ∧
      parse "size=9223372036854775808" = .ok ("size", .str "9223372036854775808") := by
  constructor
  · obtain ⟨-, -, number⟩ := parse_keeps_text " size =-9223372036854775808"
    exact number " size " (-9223372036854775808) (by decide) (by decide) (by decide) (by decide)
      (by decide)
  · obtain ⟨-, value, -⟩ := parse_keeps_text "size=9223372036854775808"
    obtain ⟨v, parsed, isTrue, isFalse, number, text⟩ :=
      value "size" "9223372036854775808" (by decide) (by decide) (by decide)
    have kept : v = .str "9223372036854775808" := by
      refine text (fun b flag => ?_) fun n is => ?_
      · cases b
        · exact absurd (isFalse.1 flag) (by decide)
        · exact absurd (isTrue.1 flag) (by decide)
      · obtain ⟨spelled, -, small⟩ := (number n).1 is
        have read : some n = some 9223372036854775808 :=
          (signedValue?_eq_some_iff.2 spelled).symm.trans (by decide)
        cases read
        exact absurd small (by decide)
    rw [parsed, kept]
    rfl

end Parsing

end Definition

end ApiForge
