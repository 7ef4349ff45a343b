import ApiForge.Backend.ManifestBackend
import ApiForge.Proofs.Naming
import ApiForge.Proofs.Operations.GroupContext
import Mathlib.Data.List.Nodup
/-
# ApiForge.Proofs.Operations.Nicknames -- how the nicknames of a group are told apart

A group lists its operations sorted by nickname, those of one nickname in the order in which they
came (`SortsByNickname`).  A nickname stays where it comes up first, and everywhere else it gets
the number of the repetitions that were met up to there in the whole group (`numbered`).

These numbers grow, and the digits behind the last underscore give the number back, so no two
numbered nicknames are the same (`numbered_ne`).  They may still be the same as a nickname that
was there from the start, and that is the only way in which two operations of a group end up with
one nickname (`nodup_numberedNames_iff`).
-/

namespace ApiForge

set_option autoImplicit false

/-! ## Repetitions -/

section Repetitions

variable {names : List String} {i j : Nat}

/-- The name at a place has come up before it. -/
def ComesAgain (names : List String) (i : Nat) : Prop := ∃ name ∈ names[i]?, name ∈ names.take i

instance (names : List String) (i : Nat) : Decidable (ComesAgain names i) :=
  inferInstanceAs (Decidable (∃ name ∈ names[i]?, name ∈ names.take i))

/-- How many of the first `n` names have come up before. -/
def repetitions (names : List String) (n : Nat) : Nat :=
  (List.range n).countP fun i => decide (ComesAgain names i)

/-- What becomes of the name at a place. -/
def numbered (names : List String) (i : Nat) (name : String) : String :=
  if ComesAgain names i then name ++ "_" ++ toString (repetitions names (i + 1)) else name

/-- What becomes of the names of a list. -/
def numberedNames (names : List String) : List String :=
  names.zipIdx.map fun e => numbered names e.2 e.1

theorem getElem?_numberedNames (names : List String) (i : Nat) :
    (numberedNames names)[i]? = names[i]?.map (numbered names i) := by
  simp [numberedNames, List.getElem?_zipIdx, Function.comp_def]

theorem exists_of_getElem?_numberedNames {final : String}
    (here : (numberedNames names)[i]? = some final) :
    ∃ name, names[i]? = some name ∧ numbered names i name = final := by
  rw [getElem?_numberedNames] at here
  exact Option.map_eq_some_iff.1 here

theorem comesAgain_iff {name : String} (here : names[i]? = some name) :
    ComesAgain names i ↔ name ∈ names.take i := by
  simp [ComesAgain, here]

theorem repetitions_succ (names : List String) (n : Nat) :
    repetitions names (n + 1) = repetitions names n + if ComesAgain names n then 1 else 0 := by
  simp [repetitions, List.range_succ, List.countP_append, List.countP_singleton]

theorem repetitions_le {m n : Nat} (le : m ≤ n) : repetitions names m ≤ repetitions names n :=
  (List.range_sublist.2 le).countP_le

/-- A later repetition has a greater number. -/
theorem repetitions_lt (before : i < j) (again : ComesAgain names j) :
    repetitions names (i + 1) < repetitions names (j + 1) := by
  have grown : repetitions names (i + 1) ≤ repetitions names j := repetitions_le before
  rw [repetitions_succ names j, if_pos again]
  exact Nat.lt_succ_of_le grown

end Repetitions

/-! ## Numbers behind names -/

theorem ne_underscore_of_mem_repr {n : Nat} {c : Char} (mem : c ∈ n.repr.toList) : c ≠ '_' := by
  rw [Nat.toList_repr] at mem
  refine Text.ne_underscore ?_
  rw [Text.isAlphanumeric, Text.isAsciiDigit_of_mem_toDigits mem, Bool.or_true]

/-- **The number behind a name can be read off the whole.** -/
theorem eq_of_append_number {a b : String} {m n : Nat}
    (same : a ++ "_" ++ toString m = b ++ "_" ++ toString n) : m = n := by
  have letters : m.repr.toList.reverse ++ '_' :: a.toList.reverse
      = n.repr.toList.reverse ++ '_' :: b.toList.reverse := by
    simpa using congrArg (fun s : String => s.toList.reverse) same
  -- up to the first underscore from behind there are the digits alone
  have digits (k : Nat) (rest : List Char) :
      (k.repr.toList.reverse ++ '_' :: rest).takeWhile (· ≠ '_') = k.repr.toList.reverse := by
    rw [List.takeWhile_append_of_pos fun c mem => ?_]
    · simp
    · simpa using ne_underscore_of_mem_repr (List.mem_reverse.1 mem)
  have read := congrArg (List.takeWhile (· ≠ '_')) letters
  rw [digits, digits, List.reverse_inj, Nat.repr_eq_ofList_toDigits, Nat.repr_eq_ofList_toDigits,
    String.toList_ofList, String.toList_ofList] at read
  simpa [Nat.ofDigitChars_toDigits] using congrArg (Nat.ofDigitChars 10 · 0) read

theorem append_number_ne (name : String) (n : Nat) : name ++ "_" ++ toString n ≠ name := by
  intro same
  have lengths := congrArg String.length same
  simp only [String.length_append] at lengths
  have : "_".length = 1 := rfl
  omega

section Numbered

variable {names : List String} {i j : Nat} {a b : String}

/-- A name stays as it is exactly where it comes up first. -/
theorem numbered_eq_self_iff : numbered names i a = a ↔ ¬ ComesAgain names i := by
  rw [numbered]
  split
  · rename_i again
    exact iff_of_false (append_number_ne _ _) fun first => first again
  · rename_i first
    exact iff_of_true rfl first

/-- **No two numbered names are the same.** -/
theorem numbered_ne (ne : i ≠ j) (again : ComesAgain names i) (againToo : ComesAgain names j) :
    numbered names i a ≠ numbered names j b := by
  intro same
  rw [numbered, if_pos again, numbered, if_pos againToo] at same
  have number := eq_of_append_number same
  rcases Nat.lt_or_gt_of_ne ne with before | after
  · exact absurd number (Nat.ne_of_lt (repetitions_lt before againToo))
  · exact absurd number (Nat.ne_of_gt (repetitions_lt after again))

/-- Every name comes up for a first time. -/
theorem exists_first_place {name : String} (mem : name ∈ names) :
    ∃ i, names[i]? = some name ∧ ¬ ComesAgain names i := by
  obtain ⟨front, back, rfl, new⟩ := List.eq_append_cons_of_mem mem
  have here : (front ++ name :: back)[front.length]? = some name := by simp
  exact ⟨front.length, here, by simpa [comesAgain_iff here] using new⟩

/-- **Two names end up the same only where one that is numbered was there from the start.** -/
theorem nodup_numberedNames_iff : (numberedNames names).Nodup ↔
    ∀ i, ComesAgain names i → ∀ name ∈ (numberedNames names)[i]?, name ∉ names := by
  rw [List.nodup_iff_getElem?_ne_getElem?]
  constructor
  · intro distinct i again name here mem
    obtain ⟨j, there, first⟩ := exists_first_place mem
    have kept : (numberedNames names)[j]? = some name := by
      rw [getElem?_numberedNames, there, Option.map_some, numbered_eq_self_iff.2 first]
    have apart : i ≠ j := fun same => first (same ▸ again)
    rcases Nat.lt_or_gt_of_ne apart with before | after
    · exact distinct i j before (List.getElem?_eq_some_iff.1 kept).1 (here.trans kept.symm)
    · exact distinct j i after (List.getElem?_eq_some_iff.1 here).1 (kept.trans here.symm)
  · intro new i j before inside same
    obtain ⟨final, atJ⟩ : ∃ final, (numberedNames names)[j]? = some final :=
      ⟨_, List.getElem?_eq_getElem inside⟩
    have atI : (numberedNames names)[i]? = some final := same.trans atJ
    obtain ⟨a, hereI, fromA⟩ := exists_of_getElem?_numberedNames atI
    obtain ⟨b, hereJ, fromB⟩ := exists_of_getElem?_numberedNames atJ
    by_cases againI : ComesAgain names i <;> by_cases againJ : ComesAgain names j
    · exact numbered_ne (Nat.ne_of_lt before) againI againJ (fromA.trans fromB.symm)
    · rw [numbered_eq_self_iff.2 againJ] at fromB
      exact new i againI final atI (fromB ▸ List.mem_of_getElem? hereJ)
    · rw [numbered_eq_self_iff.2 againI] at fromA
      exact new j againJ final atJ (fromA ▸ List.mem_of_getElem? hereI)
    · -- both stay as they are, but the later one has come up before
      rw [numbered_eq_self_iff.2 againI] at fromA
      rw [numbered_eq_self_iff.2 againJ] at fromB
      refine againJ ((comesAgain_iff hereJ).2 (List.mem_of_getElem? (i := i) ?_))
      rw [List.getElem?_take_of_lt before, hereI, fromA, fromB]

end Numbered

/-! ## Numbering a group -/

theorem take_succ_of_getElem? {names : List String} {i : Nat} {name : String}
    (here : names[i]? = some name) : names.take (i + 1) = names.take i ++ [name] := by
  rw [List.take_add_one, here]
  rfl

/-- What numbering knows when it comes to a place: the names before it, and how many of them were
repetitions. -/
structure Met (names : List String) (place : Nat) (seen : List String) (count : Nat) : Prop where
  seen : ∀ name, name ∈ seen ↔ name ∈ names.take place
  count : count = repetitions names place

namespace Met

variable {names seen : List String} {place count : Nat} {name : String}

theorem comesAgain_iff (met : Met names place seen count) (here : names[place]? = some name) :
    ComesAgain names place ↔ name ∈ seen := by
  rw [ApiForge.comesAgain_iff here, met.seen]

theorem again (met : Met names place seen count) (here : names[place]? = some name)
    (known : name ∈ seen) : Met names (place + 1) seen (count + 1) := by
  constructor
  · intro other
    rw [take_succ_of_getElem? here, List.mem_append, ← met.seen, List.mem_singleton]
    exact ⟨Or.inl, fun mem => mem.elim id fun same => same ▸ known⟩
  · rw [repetitions_succ, if_pos ((met.comesAgain_iff here).2 known), met.count]

theorem first (met : Met names place seen count) (here : names[place]? = some name)
    (new : name ∉ seen) : Met names (place + 1) (name :: seen) count := by
  constructor
  · intro other
    rw [take_succ_of_getElem? here, List.mem_append, ← met.seen, List.mem_singleton,
      List.mem_cons, or_comm]
  · rw [repetitions_succ, if_neg fun mem => new ((met.comesAgain_iff here).1 mem), met.count]
    rfl

end Met

/-- The rest of a group is numbered by what is known of the names before it. -/
theorem getElem?_numberRepeats {names seen : List String} {count place : Nat}
    {operations : List OperationProjection} (met : Met names place seen count)
    (rest : operations.map (·.nickname) = names.drop place) (i : Nat) :
    (numberRepeats seen count operations)[i]? = operations[i]?.map fun o =>
      { o with nickname := numbered names (place + i) o.nickname } := by
  induction operations generalizing seen count place i with
  | nil => rfl
  | cons o operations ih =>
      have here : names[place]? = some o.nickname := by
        rw [← List.head?_drop, ← rest]
        rfl
      have later : operations.map (·.nickname) = names.drop (place + 1) := by
        rw [← List.tail_drop, ← rest]
        rfl
      have shift (i : Nat) : place + (i + 1) = place + 1 + i := by omega
      rw [numberRepeats]
      split
      · rename_i known
        have known := List.contains_iff_mem.1 known
        have next := met.again here known
        cases i with
        | zero => simp [numbered, (met.comesAgain_iff here).2 known, next.count]
        | succ i =>
            rw [List.getElem?_cons_succ, List.getElem?_cons_succ, shift]
            exact ih next later i
      · rename_i new
        have new : o.nickname ∉ seen := fun mem => new (List.contains_iff_mem.2 mem)
        have stays : numbered names place o.nickname = o.nickname :=
          numbered_eq_self_iff.2 fun again => new ((met.comesAgain_iff here).1 again)
        cases i with
        | zero => simp [stays]
        | succ i =>
            rw [List.getElem?_cons_succ, List.getElem?_cons_succ, shift]
            exact ih (met.first here new) later i

/-- **A group keeps its operations, in their order, under numbered nicknames.** -/
theorem disambiguateNicknames_eq (operations : List OperationProjection) :
    disambiguateNicknames operations = operations.zipIdx.map fun e =>
      { e.1 with nickname := numbered (operations.map (·.nickname)) e.2 e.1.nickname } := by
  refine List.ext_getElem? fun i => ?_
  have start := @getElem?_numberRepeats (operations.map (·.nickname)) [] 0 0 operations
    ⟨fun name => by simp, rfl⟩ rfl i
  rw [disambiguateNicknames, start]
  simp [List.getElem?_zipIdx, Function.comp_def]

/-! ## Sorting a group -/

/-- One list is the other, sorted by nickname, with what has one nickname left in its order. -/
structure SortsByNickname (operations sorted : List OperationProjection) : Prop where
  perm : sorted.Perm operations
  ordered : sorted.Pairwise fun a b => a.nickname ≤ b.nickname
  stable : ∀ nickname, sorted.filter (·.nickname = nickname) =
    operations.filter (·.nickname = nickname)

theorem sortsByNickname_sortByNickname (operations : List OperationProjection) :
    SortsByNickname operations (sortByNickname operations) := by
  have below (a b : OperationProjection) :
      (!decide (b.nickname < a.nickname)) = true ↔ a.nickname ≤ b.nickname := by
    rw [Bool.not_eq_true', decide_eq_false_iff_not, String.not_lt]
  have trans : ∀ a b c : OperationProjection, (!decide (b.nickname < a.nickname)) = true →
      (!decide (c.nickname < b.nickname)) = true →
      (!decide (c.nickname < a.nickname)) = true := by
    intro a b c
    rw [below, below, below]
    exact String.le_trans
  have total : ∀ a b : OperationProjection,
      (!decide (b.nickname < a.nickname) || !decide (a.nickname < b.nickname)) = true := by
    intro a b
    rw [Bool.or_eq_true, below, below]
    exact String.le_total _ _
  have perm := List.mergeSort_perm operations fun a b => !decide (b.nickname < a.nickname)
  refine ⟨perm, (List.pairwise_mergeSort trans total operations).imp (below _ _).1, ?_⟩
  intro nickname
  -- the operations of one nickname are in order already, so sorting leaves them in theirs
  have inOrder : (operations.filter (·.nickname = nickname)).Pairwise
      fun a b => (!decide (b.nickname < a.nickname)) = true := by
    refine List.pairwise_of_forall_mem_list fun a memA b memB => (below a b).2 ?_
    have nameA : a.nickname = nickname := by simpa using (List.mem_filter.1 memA).2
    have nameB : b.nickname = nickname := by simpa using (List.mem_filter.1 memB).2
    exact String.not_lt.1 (by rw [nameA, nameB]; exact String.lt_irrefl _)
  have kept := (List.sublist_mergeSort trans total inOrder List.filter_sublist).filter
    fun o => decide (o.nickname = nickname)
  rw [List.filter_filter] at kept
  simp only [Bool.and_self] at kept
  exact (kept.eq_of_length ((perm.filter _).length_eq.symm)).symm

/-- Sorting and numbering changes nothing but the nicknames of operations. -/
theorem exists_of_mem_disambiguateNicknames {operations : List OperationProjection}
    {o : OperationProjection} (mem : o ∈ disambiguateNicknames (sortByNickname operations)) :
    ∃ p ∈ operations, o = { p with nickname := o.nickname } := by
  rw [disambiguateNicknames_eq] at mem
  obtain ⟨e, placed, rfl⟩ := List.mem_map.1 mem
  exact ⟨e.1, List.mem_mergeSort.1 (List.fst_mem_of_mem_zipIdx placed), rfl⟩

/-! ## What a group lists -/

theorem OperationProjection.field?_toJson_vendorExtensions (o : OperationProjection) :
    o.toJson.field? Key.vendorExtensions = some (.ofDict o.extensions) := by
  rw [toJson, Json.field?_object]
  simp [Entries.get?, Key.vendorExtensions]

/-- What is put into the written form of an operation is put into the operation. -/
theorem setVendorExtension_toJson (o : OperationProjection) (name : String) (value : Json) :
    setVendorExtension o.toJson name value = (o.setExtension name value).toJson := by
  have written (extensions : Dict Json) : { o with extensions := extensions }.toJson
      = .object (([("method", .str o.method.token), ("path", .str o.path)]
        ++ optionalText "operationId" o.operationId
        ++ [("nickname", .str o.nickname), ("tags", .arr (o.tags.map Tag.toJson)),
          ("parameters", .arr (o.parameters.map Parameter.toJson)),
          (Key.imports, .ofStrings o.imports.names),
          (Key.authMethods, .arr (o.authMethods.map AuthMethod.toJson)),
          (Key.hasAuthMethods, .bool o.hasAuthMethods)])
        ++ (Key.vendorExtensions, .ofDict extensions) :: [("data", o.data)]) := by
    simp [OperationProjection.toJson]
  rw [setVendorExtension, o.field?_toJson_vendorExtensions, OperationProjection.setExtension,
    written, written]
  exact Json.setField_object_append _ _ _ _ (by simp [Key.vendorExtensions])

/-- Changing the last of a list leaves the others. -/
theorem getElem?_changeLast (f : Json → Json) (l : List Json) (i : Nat) :
    (changeLast f l)[i]? = l[i]?.map fun j => if i + 1 = l.length then f j else j := by
  induction l using changeLast.induct generalizing i with
  | case1 => rfl
  | case2 last => cases i <;> simp [changeLast]
  | case3 j rest more ih =>
      have longer : rest.length ≠ 0 := fun none => more (List.length_eq_zero_iff.1 none)
      cases i with
      | zero => simp [changeLast, longer]
      | succ i => simpa [changeLast] using ih i

/-- What a group lists for the operation at a place: it goes by its numbered nickname, and the
last one says that no other follows. -/
def listedOperation (sorted : List OperationProjection) (i : Nat) (o : OperationProjection) :
    OperationProjection :=
  { o with
    nickname := numbered (sorted.map (·.nickname)) i o.nickname
    extensions :=
      if i + 1 = sorted.length then o.extensions.insert Key.moreExtension (.bool false)
      else o.extensions }

namespace GroupContext

variable {backend : Backend} {tag : String} {operations : List OperationProjection}
  {models : List Json} {run : RunInfo}

/-- The last of the operations is marked before properties come. -/
theorem marked_of_draft : ∃ entry,
    (markLastOperation (draft backend tag operations run)).get? Key.operations = some entry ∧
      entry.field? Key.operation = some (.arr (changeLast
        (setVendorExtension · Key.moreExtension (.bool false))
        ((disambiguateNicknames (sortByNickname operations)).map OperationProjection.toJson))) := by
  rw [markLastOperation, Dict.get?_modify, if_pos rfl]
  simp only [draft, Dict.get?_ofList]
  refine ⟨_, rfl, ?_⟩
  rw [Json.field?_modifyField, if_pos rfl, Json.field?_object]
  simp only [List.reverse_cons, List.reverse_nil, List.nil_append, List.cons_append, Entries.get?,
    if_true, Option.map_some]

/-- The operations of a group before properties come. -/
theorem listed_of_draft : ∃ entry,
    (markLastOperation (draft backend tag operations run)).get? Key.operations = some entry ∧
      entry.field? Key.operation = some (.arr ((sortByNickname operations).zipIdx.map fun e =>
        (listedOperation (sortByNickname operations) e.2 e.1).toJson)) := by
  obtain ⟨entry, drafted, listed⟩ := @marked_of_draft backend tag operations run
  refine ⟨entry, drafted, listed.trans ?_⟩
  generalize sortByNickname operations = sorted
  refine congrArg (fun items => some (Json.arr items)) (List.ext_getElem? fun i => ?_)
  rw [disambiguateNicknames_eq, getElem?_changeLast]
  simp only [List.getElem?_map, List.getElem?_zipIdx, List.length_map, List.length_zipIdx,
    Option.map_map, Nat.zero_add]
  refine congrArg (Option.map · sorted[i]?) (funext fun o => ?_)
  simp only [Function.comp_apply, listedOperation]
  split
  · exact setVendorExtension_toJson _ _ _
  · rfl

/-- **The operations of a group are told apart as far as numbers do it.**  They are listed sorted
by nickname and come out as they went in, but for nicknames and the mark of the last one.  A
nickname stays where it comes up first, and the number of the repetitions so far stands behind it
everywhere else.  No two nicknames with a number are the same, and the list is free of
duplicates exactly where none of them is one that was there from the start. -/
theorem build_disambiguates (plain : backend.hooks = .none)
    (silent : run.properties.get? Key.operations = none) :
    ∃ context entry sorted names,
      build backend tag operations models run = .ok context ∧
      context.get? Key.operations = some entry ∧
      entry.field? Key.operation
        = some (.arr (sorted.zipIdx.map fun e => (listedOperation sorted e.2 e.1).toJson)) ∧
      SortsByNickname operations sorted ∧ sorted.map (·.nickname) = names ∧
      (∀ i name, names[i]? = some name →
        ((numberedNames names)[i]? = some name ↔ name ∉ names.take i) ∧
        (name ∈ names.take i → (numberedNames names)[i]?
          = some (name ++ "_" ++ toString (repetitions names (i + 1))))) ∧
      (∀ i j, i ≠ j → ComesAgain names i → ComesAgain names j →
        (numberedNames names)[i]? ≠ (numberedNames names)[j]?) ∧
      ((numberedNames names).Nodup ↔
        ∀ i, ComesAgain names i → ∀ name ∈ (numberedNames names)[i]?, name ∉ names) := by
  obtain ⟨entry, drafted, listed⟩ := @listed_of_draft backend tag operations run
  obtain ⟨context, built⟩ : ∃ context, build backend tag operations models run = .ok context := by
    rw [build, plain]
    exact ⟨_, rfl⟩
  refine ⟨context, entry, sortByNickname operations, _, built, ?_, listed,
    sortsByNickname_sortByNickname operations, rfl, ?_, ?_, nodup_numberedNames_iff⟩
  · rw [get?_of_build_of_notMem plain built (by decide), silent, drafted, Option.none_or]
  · intro i name here
    rw [getElem?_numberedNames, here, Option.map_some, Option.some_inj, Option.some_inj,
      numbered_eq_self_iff, comesAgain_iff here]
    refine ⟨Iff.rfl, fun again => ?_⟩
    rw [numbered, if_pos ((comesAgain_iff here).2 again)]
  · rintro i j ne ⟨a, hereI, againI⟩ ⟨b, hereJ, againJ⟩ same
    rw [getElem?_numberedNames, getElem?_numberedNames, hereI, hereJ, Option.map_some,
      Option.map_some, Option.some_inj] at same
    exact numbered_ne ne ⟨a, hereI, againI⟩ ⟨b, hereJ, againJ⟩ same

/-- Two operations of one nickname, and one that has the nickname which the second of them gets. -/
def meetingOperations : List OperationProjection :=
  ["x_1", "x", "x"].map (.named ⟨"GET"⟩ "/items")

def quietBackend : Backend := ManifestBackend.toBackend ⟨.standard, ⟨""⟩, none⟩

def quietRun : RunInfo := ⟨default, .empty, .empty, [], "", ""⟩

/-- Numbered nicknames are not compared with those that were there. -/
theorem build_disambiguates_meeting_number :
    quietBackend.hooks = .none ∧ quietRun.properties.get? Key.operations = none ∧
      ∃ (context : Context) (entry : Json) (sorted : List OperationProjection),
        build quietBackend "Items" meetingOperations [] quietRun = .ok context ∧
        context.get? Key.operations = some entry ∧
        entry.field? Key.operation
          = some (.arr (sorted.zipIdx.map fun e => (listedOperation sorted e.2 e.1).toJson)) ∧
        sorted.map (·.nickname) = ["x", "x", "x_1"] ∧
        numberedNames (sorted.map (·.nickname)) = ["x", "x_1", "x_1"] ∧
        ¬ (numberedNames (sorted.map (·.nickname))).Nodup := by
  obtain ⟨context, entry, sorted, names, built, stands, listed, sorts, rfl, -, -, distinct⟩ :=
    @build_disambiguates quietBackend "Items" meetingOperations [] quietRun rfl rfl
  have names : sorted.map (·.nickname) = ["x", "x", "x_1"] := by
    have ordered : (sorted.map (·.nickname)).Pairwise (· ≤ ·) := List.pairwise_map.2 sorts.ordered
    refine List.Perm.eq_of_pairwise (fun _ _ _ _ => String.le_antisymm) ordered
      (by decide) ?_
    exact (sorts.perm.map _).trans (by decide)
  refine ⟨rfl, rfl, context, entry, sorted, built, stands, listed, names, ?_, ?_⟩
  · rw [names]
    decide
  · rw [distinct, names]
    exact fun new => new 1 (by decide) "x_1" (by decide) (by decide)

end GroupContext

end ApiForge
