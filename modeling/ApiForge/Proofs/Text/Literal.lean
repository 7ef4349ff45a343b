import ApiForge.Backend
import ApiForge.Proofs.Path
/-
# ApiForge.Proofs.Text.Literal -- what a literal with escaped text says

Text consists of pieces with runs of line controls between them (`LaidOut`), and in one way only
(`laidOut_iff`).  Escaping keeps the pieces, a space apart, and puts a backslash in front of each
backslash and each quotation mark, which is what replacing the one and then the other comes to
(`escapeText_eq_replaceString`).  So nothing of the text ends a literal early: a reader that knows
the two escapes reads the literal to its closing quotation mark and gets the pieces again,
whatever it takes other escapes for (`escapeText_reads_back`).
-/

namespace ApiForge

set_option autoImplicit false

namespace Text

/-! ## Text between line controls -/

/-- Line controls and nothing else. -/
def IsGap (s : List Char) : Prop := ∀ c ∈ s, isLineControl c = true

/-- Some text without line controls. -/
structure IsPiece (s : List Char) : Prop where
  nonempty : s ≠ []
  clean : ∀ c ∈ s, isLineControl c = false

/-- A text consists of pieces, each as long as it can be, with line controls in between and
perhaps in front and at the end. -/
inductive LaidOut : List Char → List (List Char) → Prop
  | blank {gap : List Char} : IsGap gap → LaidOut gap []
  | piece {lead piece rest : List Char} {pieces : List (List Char)} :
      IsGap lead → IsPiece piece → (∀ c ∈ rest.head?, isLineControl c = true) →
      LaidOut rest pieces → LaidOut (lead ++ (piece ++ rest)) (piece :: pieces)

/-- The pieces between line controls, without the empty ones. -/
def piecesOf (s : List Char) : List (List Char) :=
  (splitAt isLineControl s).filter fun piece => !piece.isEmpty

section Pieces

variable {c : Char} {piece : List Char}

theorem piecesOf_cons_of_control (control : isLineControl c = true) (s : List Char) :
    piecesOf (c :: s) = piecesOf s := by
  rw [piecesOf, splitAt, if_pos control]
  rfl

theorem piecesOf_append_of_isGap {gap : List Char} (blank : IsGap gap) (s : List Char) :
    piecesOf (gap ++ s) = piecesOf s := by
  induction gap with
  | nil => rfl
  | cons c gap ih =>
      rw [List.cons_append, piecesOf_cons_of_control (blank c List.mem_cons_self),
        ih fun d mem => blank d (List.mem_cons_of_mem _ mem)]

theorem piecesOf_of_isPiece (some : IsPiece piece) : piecesOf piece = [piece] := by
  rw [piecesOf, splitAt_of_clean _ some.clean]
  simp [some.nonempty]

theorem piecesOf_append_of_isPiece (some : IsPiece piece) (control : isLineControl c = true)
    (s : List Char) : piecesOf (piece ++ c :: s) = piece :: piecesOf s := by
  rw [piecesOf, splitAt_append_sep control _ _ some.clean]
  simp [some.nonempty, piecesOf]

end Pieces

theorem LaidOut.eq_piecesOf {s : List Char} {pieces : List (List Char)} (laid : LaidOut s pieces) :
    pieces = piecesOf s := by
  induction laid with
  | blank gap =>
      have none := piecesOf_append_of_isGap gap []
      rw [List.append_nil] at none
      exact none.symm
  | @piece lead piece rest pieces gap some ends _ ih =>
      rw [piecesOf_append_of_isGap gap, ih]
      cases rest with
      | nil => rw [List.append_nil, piecesOf_of_isPiece some]; rfl
      | cons c rest =>
          have control : isLineControl c = true := ends c rfl
          rw [piecesOf_append_of_isPiece some control, piecesOf_cons_of_control control]

/-- Every text is laid out in some way: a character that is put in front makes the first gap or
the first piece longer, or is a piece of its own. -/
theorem exists_laidOut (s : List Char) : ∃ pieces, LaidOut s pieces := by
  induction s with
  | nil => exact ⟨[], .blank fun _ mem => (nomatch mem)⟩
  | cons c s ih =>
      obtain ⟨pieces, laid⟩ := ih
      by_cases control : isLineControl c = true
      · have grows {gap : List Char} (blank : IsGap gap) : IsGap (c :: gap) :=
          List.forall_mem_cons.2 ⟨control, blank⟩
        cases laid with
        | blank gap => exact ⟨[], .blank (grows gap)⟩
        | piece gap some ends rest => exact ⟨_, .piece (grows gap) some ends rest⟩
      · have clean : isLineControl c = false := Bool.not_eq_true _ ▸ control
        have alone : IsPiece [c] := ⟨List.cons_ne_nil _ _, by simpa using clean⟩
        have nothing : IsGap [] := fun _ mem => (nomatch mem)
        cases laid with
        | blank gap =>
            exact ⟨_, .piece nothing alone (fun d first => gap d (List.mem_of_mem_head? first))
              (.blank gap)⟩
        | @piece lead piece rest pieces gap some ends laid =>
            cases lead with
            | nil =>
                have longer : IsPiece (c :: piece) :=
                  ⟨List.cons_ne_nil _ _, List.forall_mem_cons.2 ⟨clean, some.clean⟩⟩
                exact ⟨_, .piece nothing longer ends laid⟩
            | cons d lead =>
                have first : ∀ e ∈ (d :: lead ++ (piece ++ rest)).head?, isLineControl e = true :=
                  fun e same => gap e (by simp_all)
                exact ⟨_, .piece nothing alone first (.piece gap some ends laid)⟩

/-- **A text is laid out in one way.** -/
theorem laidOut_iff {s : List Char} {pieces : List (List Char)} :
    LaidOut s pieces ↔ pieces = piecesOf s := by
  refine ⟨LaidOut.eq_piecesOf, ?_⟩
  rintro rfl
  obtain ⟨pieces, laid⟩ := exists_laidOut s
  rwa [← laid.eq_piecesOf]

theorem mem_joinWith {sep : List Char} {pieces : List (List Char)} {c : Char}
    (mem : c ∈ joinWith sep pieces) : c ∈ sep ∨ ∃ piece ∈ pieces, c ∈ piece := by
  induction pieces with
  | nil => cases mem
  | cons piece pieces ih =>
      cases pieces with
      | nil => exact .inr ⟨piece, List.mem_cons_self, mem⟩
      | cons next pieces =>
          rw [joinWith, List.mem_append, List.mem_append] at mem
          · obtain (inPiece | inSep) | later := mem
            · exact .inr ⟨piece, List.mem_cons_self, inPiece⟩
            · exact .inl inSep
            · obtain inSep | ⟨other, among, inside⟩ := ih later
              · exact .inl inSep
              · exact .inr ⟨other, List.mem_cons_of_mem _ among, inside⟩
          · simp

theorem flatten_eq (s : List Char) : flatten s = joinWith [' '] (piecesOf s) := rfl

theorem isLineControl_of_mem_flatten {s : List Char} {c : Char} (mem : c ∈ flatten s) :
    isLineControl c = false := by
  obtain space | ⟨piece, among, inside⟩ := mem_joinWith mem
  · cases List.mem_singleton.1 space
    rfl
  · exact not_sep_of_mem_splitAt (List.mem_filter.1 among).1 inside

theorem LaidOut.mem_piece {s : List Char} {pieces : List (List Char)} (laid : LaidOut s pieces)
    {c : Char} (mem : c ∈ s) (clean : isLineControl c = false) : ∃ piece ∈ pieces, c ∈ piece := by
  have outside {gap : List Char} (blank : IsGap gap) : c ∉ gap := fun inGap =>
    Bool.false_ne_true (clean.symm.trans (blank c inGap))
  induction laid with
  | blank gap => exact absurd mem (outside gap)
  | @piece lead piece rest pieces gap _ _ _ ih =>
      obtain inGap | inPiece | later := List.mem_append.1 mem |>.imp_right List.mem_append.1
      · exact absurd inGap (outside gap)
      · exact ⟨piece, List.mem_cons_self, inPiece⟩
      · obtain ⟨other, among, inside⟩ := ih later
        exact ⟨other, List.mem_cons_of_mem _ among, inside⟩

theorem mem_joinWith_of_mem {sep piece : List Char} {pieces : List (List Char)}
    (among : piece ∈ pieces) {c : Char} (mem : c ∈ piece) : c ∈ joinWith sep pieces := by
  induction pieces with
  | nil => cases among
  | cons first pieces ih =>
      cases pieces with
      | nil => exact List.mem_singleton.1 among ▸ mem
      | cons next pieces =>
          rw [joinWith, List.append_assoc]
          · obtain rfl | later := List.mem_cons.1 among
            · exact List.mem_append_left _ mem
            · exact List.mem_append_right _ (List.mem_append_right _ (ih later))
          · simp

theorem mem_flatten_of_mem {s : List Char} {c : Char} (mem : c ∈ s)
    (clean : isLineControl c = false) : c ∈ flatten s := by
  obtain ⟨piece, among, inside⟩ := (laidOut_iff.2 rfl).mem_piece mem clean
  exact mem_joinWith_of_mem among inside

/-! ## Escaping -/

theorem isLineControl_of_mem_escapeChar {c d : Char} (clean : isLineControl c = false)
    (mem : d ∈ escapeChar c) : isLineControl d = false := by
  have kinds : d = c ∨ d = '\\' ∨ d = '\x22' := by
    rw [escapeChar] at mem
    split at mem
    · simp_all
    · split at mem
      · simp_all
      · exact .inl (List.mem_singleton.1 mem)
  obtain rfl | rfl | rfl := kinds
  · exact clean
  · rfl
  · rfl

theorem toList_escapeText (s : String) :
    (escapeText s).toList = (flatten s.toList).flatMap escapeChar := String.toList_ofList

theorem isLineControl_of_mem_escapeText {s : String} {c : Char} (mem : c ∈ (escapeText s).toList) :
    isLineControl c = false := by
  rw [toList_escapeText, List.mem_flatMap] at mem
  obtain ⟨d, inside, escaped⟩ := mem
  exact isLineControl_of_mem_escapeChar (isLineControl_of_mem_flatten inside) escaped

theorem replaceAll_singleton (p : Char) (image s : List Char) :
    replaceAll [p] image s = s.flatMap fun c => if c = p then image else [c] := by
  induction s with
  | nil => exact replaceAll_nil
  | cons c s ih =>
      rw [List.flatMap_cons, ← ih]
      by_cases same : p = c
      · have found : afterHead? [p] (c :: s) = some s := by simp [afterHead?, same]
        rw [replaceAll_of_found found, if_pos same.symm]
      · rw [replaceAll_of_not_found (by simp [afterHead?, same]), if_neg (Ne.symm same)]
        rfl

/-- **One pass that puts the backslashes is two replacements**, of the backslashes first. -/
theorem escapeText_eq_replaceString (s : String) :
    escapeText s = replaceString (replaceString (String.ofList (flatten s.toList)) "\\" "\\\\")
      "\x22" "\\\x22" := by
  have twice (c : Char) : ((if c = '\\' then ['\\', '\\'] else [c]).flatMap fun d =>
      if d = '\x22' then ['\\', '\x22'] else [d]) = escapeChar c := by
    by_cases backslash : c = '\\'
    · simp [escapeChar, backslash]
    · simp [escapeChar, backslash]
  have pass (t : List Char) (p : Char) (image : List Char) :
      replaceString (String.ofList t) (String.ofList [p]) (String.ofList image) =
        String.ofList (t.flatMap fun c => if c = p then image else [c]) := by
    simp only [replaceString, String.toList_ofList, replaceAll_singleton]
  calc escapeText s
      = String.ofList ((flatten s.toList).flatMap escapeChar) := rfl
    _ = String.ofList (((flatten s.toList).flatMap fun c =>
          if c = '\\' then ['\\', '\\'] else [c]).flatMap fun d =>
            if d = '\x22' then ['\\', '\x22'] else [d]) := by
        rw [List.flatMap_assoc, funext twice]
    _ = _ := by
        rw [← pass _ '\x22' ['\\', '\x22'], ← pass _ '\\' ['\\', '\\']]

/-! ## Escaping twice -/

/-- Neither a backslash nor a quotation mark. -/
def IsPlain (s : List Char) : Prop := ∀ c ∈ s, c ≠ '\\' ∧ c ≠ '\x22'

instance (s : List Char) : Decidable (IsPlain s) :=
  List.decidableBAll (fun c => c ≠ '\\' ∧ c ≠ '\x22') s

theorem IsPlain.append {s t : List Char} (hs : IsPlain s) (ht : IsPlain t) : IsPlain (s ++ t) :=
  List.forall_mem_append.2 ⟨hs, ht⟩

theorem flatten_of_clean {s : List Char} (clean : ∀ c ∈ s, isLineControl c = false) :
    flatten s = s := by
  rw [flatten_eq]
  cases s with
  | nil => rfl
  | cons c s => rw [piecesOf_of_isPiece ⟨List.cons_ne_nil _ _, clean⟩]; rfl

theorem escapeChar_of_plain {c : Char} (plain : c ≠ '\\' ∧ c ≠ '\x22') : escapeChar c = [c] := by
  rw [escapeChar, if_neg plain.1, if_neg plain.2]

theorem escapeChar_of_not_plain {c : Char} (special : ¬(c ≠ '\\' ∧ c ≠ '\x22')) :
    escapeChar c = ['\\', c] := by
  obtain rfl | rfl := Decidable.or_iff_not_not_and_not.2 special <;> rfl

theorem length_le_flatMap_escapeChar (s : List Char) :
    s.length ≤ (s.flatMap escapeChar).length := by
  induction s with
  | nil => exact Nat.le_refl _
  | cons c s ih =>
      rw [List.flatMap_cons, List.length_append, List.length_cons]
      by_cases plain : c ≠ '\\' ∧ c ≠ '\x22'
      · rw [escapeChar_of_plain plain, List.length_singleton]
        omega
      · rw [escapeChar_of_not_plain plain, List.length_cons, List.length_singleton]
        omega

theorem flatMap_escapeChar_eq_self_iff {s : List Char} :
    s.flatMap escapeChar = s ↔ IsPlain s := by
  induction s with
  | nil => exact iff_of_true rfl fun _ mem => (nomatch mem)
  | cons c s ih =>
      rw [List.flatMap_cons, IsPlain, List.forall_mem_cons, ← IsPlain, ← ih]
      by_cases plain : c ≠ '\\' ∧ c ≠ '\x22'
      · simp [escapeChar_of_plain plain, plain]
      · refine iff_of_false (fun same => ?_) fun both => plain both.1
        have lengths := congrArg List.length same
        have grown := length_le_flatMap_escapeChar s
        rw [escapeChar_of_not_plain plain, List.length_append] at lengths
        simp only [List.length_cons, List.length_nil] at lengths
        omega

theorem isPlain_flatMap_escapeChar_iff {s : List Char} :
    IsPlain (s.flatMap escapeChar) ↔ IsPlain s := by
  constructor
  · refine fun plain c mem => Decidable.byContradiction fun special => ?_
    have escape : '\\' ∈ escapeChar c :=
      escapeChar_of_not_plain special ▸ List.mem_cons_self
    exact (plain _ (List.mem_flatMap.2 ⟨c, mem, escape⟩)).1 rfl
  · intro plain
    rwa [flatMap_escapeChar_eq_self_iff.2 plain]

theorem isPlain_flatten_iff {s : List Char} : IsPlain (flatten s) ↔ IsPlain s := by
  constructor
  · intro plain c mem
    by_cases control : isLineControl c = true
    · refine ⟨?_, ?_⟩ <;> rintro rfl <;> cases control
    · exact plain c (mem_flatten_of_mem mem (Bool.not_eq_true _ ▸ control))
  · intro plain c mem
    obtain space | ⟨piece, among, inside⟩ := mem_joinWith mem
    · cases List.mem_singleton.1 space
      decide
    · exact plain c (mem_of_mem_splitAt (List.mem_filter.1 among).1 inside)

/-- **Escaping again changes nothing where there was nothing to escape.** -/
theorem escapeText_escapeText_iff {s : String} :
    escapeText (escapeText s) = escapeText s ↔ IsPlain s.toList := by
  rw [← String.toList_inj, toList_escapeText, flatten_of_clean fun _ =>
    isLineControl_of_mem_escapeText, flatMap_escapeChar_eq_self_iff, toList_escapeText,
    isPlain_flatMap_escapeChar_iff, isPlain_flatten_iff]

/-! ## Reading -/

/-- How literals are read: what a backslash and a character stand for, and which characters
stand for themselves. -/
structure LiteralRules where
  escaped? : Char → Option Char
  bare : Char → Bool
  escaped_backslash : escaped? '\\' = some '\\'
  escaped_quote : escaped? '\x22' = some '\x22'
  bare_of_plain : ∀ c, c ≠ '\\' → c ≠ '\x22' → isLineControl c = false → bare c = true

namespace LiteralRules

/-- Read the inside of a literal: the text it stands for and what follows its closing
quotation mark, or nothing if it does not close or holds what the rules do not know. -/
def readBody (rules : LiteralRules) : List Char → Option (List Char × List Char)
  | [] => none
  | '\x22' :: rest => some ([], rest)
  | '\\' :: c :: rest =>
    (rules.escaped? c).bind fun d => (readBody rules rest).map fun r => (d :: r.1, r.2)
  | c :: rest =>
    if c ≠ '\\' ∧ rules.bare c = true then
      (readBody rules rest).map fun r => (c :: r.1, r.2)
    else none

/-- Read a literal from its opening quotation mark on. -/
def read (rules : LiteralRules) : List Char → Option (List Char × List Char)
  | '\x22' :: rest => rules.readBody rest
  | _ => none

variable (rules : LiteralRules)

theorem readBody_cons {c : Char} (backslash : c ≠ '\\') (quote : c ≠ '\x22')
    (rest : List Char) : rules.readBody (c :: rest) =
      if rules.bare c = true then (rules.readBody rest).map fun r => (c :: r.1, r.2)
      else none := by
  rw [readBody]
  · simp only [ne_eq, backslash, not_false_eq_true, true_and]
  · exact quote
  · exact fun _ _ same => absurd same backslash

theorem readBody_escapeChar {c : Char} (clean : isLineControl c = false) (rest : List Char) :
    rules.readBody (escapeChar c ++ rest) =
      (rules.readBody rest).map fun r => (c :: r.1, r.2) := by
  by_cases backslash : c = '\\'
  · subst backslash
    simp [escapeChar, readBody, rules.escaped_backslash]
  by_cases quote : c = '\x22'
  · subst quote
    simp [escapeChar, readBody, rules.escaped_quote]
  rw [escapeChar, if_neg backslash, if_neg quote, List.singleton_append,
    rules.readBody_cons backslash quote,
    if_pos (rules.bare_of_plain c backslash quote clean)]

/-- What was escaped is read back, up to the quotation mark behind it. -/
theorem readBody_escaped {s : List Char} (clean : ∀ c ∈ s, isLineControl c = false)
    (rest : List Char) :
    rules.readBody (s.flatMap escapeChar ++ '\x22' :: rest) = some (s, rest) := by
  induction s with
  | nil => rfl
  | cons c s ih =>
      have tail := ih fun d mem => clean d (List.mem_cons_of_mem _ mem)
      rw [List.flatMap_cons, List.append_assoc,
        rules.readBody_escapeChar (clean c List.mem_cons_self), tail]
      rfl

theorem read_escapeText (s : String) (rest : List Char) :
    rules.read ('\x22' :: ((escapeText s).toList ++ '\x22' :: rest)) =
      some (flatten s.toList, rest) := by
  rw [toList_escapeText]
  exact rules.readBody_escaped (fun _ => isLineControl_of_mem_flatten) rest

end LiteralRules

/-- Every escape stands for the character behind its backslash, and all other characters for
themselves. -/
def plainRules : LiteralRules where
  escaped? := some
  bare := fun _ => true
  escaped_backslash := rfl
  escaped_quote := rfl
  bare_of_plain := fun _ _ _ _ => rfl

theorem readLiteralBody_eq_readBody (s : List Char) :
    readLiteralBody s = plainRules.readBody s := by
  fun_induction readLiteralBody s with
  | case1 => rfl
  | case2 rest => rfl
  | case3 c rest ih =>
      rw [ih]
      rfl
  | case4 rest _ alone =>
      cases rest with
      | nil => rfl
      | cons c rest => exact absurd rfl (alone c rest rfl)
  | case5 c rest quote _ backslash ih => rw [ih, plainRules.readBody_cons backslash quote]; rfl

theorem readLiteral_eq_read (s : List Char) : readLiteral s = plainRules.read s := by
  by_cases opens : ∃ rest, s = '\x22' :: rest
  · obtain ⟨rest, rfl⟩ := opens
    exact readLiteralBody_eq_readBody rest
  · have other (rest : List Char) (is : s = '\x22' :: rest) : False := opens ⟨rest, is⟩
    rw [readLiteral, LiteralRules.read]
    · exact other
    · exact other

/-- **Escaped text is safe inside a literal.**  It holds no line control.  Its literal ends at the
quotation mark that was put behind it, whatever follows, and says what the text says: the pieces
of the text, a space apart.  That is so for every reader that knows the two escapes, and so for
the one that takes all escapes for the character behind the backslash.  What escaping does is to
replace the backslashes first and then the quotation marks. -/
theorem escapeText_reads_back (s : String) :
    ('\n' ∉ (Naming.standard.escapeText s).toList ∧
      '\r' ∉ (Naming.standard.escapeText s).toList ∧
      '\t' ∉ (Naming.standard.escapeText s).toList) ∧
    ∃ pieces, (∀ other, LaidOut s.toList other ↔ other = pieces) ∧
      (∀ (rules : LiteralRules) (rest : List Char),
        rules.read ('\x22' :: ((Naming.standard.escapeText s).toList ++ '\x22' :: rest)) =
          some (joinWith [' '] pieces, rest)) ∧
      readLiteral ('\x22' :: ((Naming.standard.escapeText s).toList ++ ['\x22'])) =
        some (joinWith [' '] pieces, []) ∧
      Naming.standard.escapeText s =
        replaceString (replaceString (String.ofList (joinWith [' '] pieces)) "\\" "\\\\")
          "\x22" "\\\x22" := by
  have none {c : Char} (control : isLineControl c = true) : c ∉ (escapeText s).toList := by
    intro mem
    rw [isLineControl_of_mem_escapeText mem] at control
    cases control
  refine ⟨⟨none rfl, none rfl, none rfl⟩, piecesOf s.toList, fun _ => laidOut_iff,
    fun rules => rules.read_escapeText s, ?_, escapeText_eq_replaceString s⟩
  rw [readLiteral_eq_read]
  exact plainRules.read_escapeText s []

example : escapeText "\tC:\\ \x22x\x22\n\ny\\" = "C:\\\\ \\\x22x\\\x22 y\\\\" := by
  decide +kernel

end Text

end ApiForge
