import ApiForge.Proofs.Text.Slots
import ApiForge.Proofs.Url
import ApiForge.Readers.Standard
import ApiForge.Server
import Mathlib.Data.List.Nodup
import Mathlib.Data.List.TakeWhile
/-
# ApiForge.Proofs.Server -- what is derived from a server

The path of a server URL is escaped once for `contextPath` and twice for `basePathWithoutHost`
(`ServerInfo.ofServers_paths`).  With the usual escaping the two are the same unless the path
holds a backslash or a quotation mark, which no path under a special scheme does;
`foo://h/a\b` is a URL where they are not (`ServerInfo.path_is_escaped_twice`).

The variables of a server are put in one after the other.  Where no name holds a brace and the
finished URL spells no slot of a variable (`Server.Settled`), that is the same as putting them in
at once, and other names for the variables give the same (`ServerInfo.ofServers_substitutes`).
Otherwise the text of one variable is looked through for the next
(`ServerInfo.default_is_looked_through`).
-/

namespace ApiForge

set_option autoImplicit false

open ApiForge.Text

/-! ## Variables -/

namespace Server

/-- The texts of the variables of a server. -/
def defaults (s : Server) : Dict String := s.placeholders.mapValues fun _ v => v.default

/-- The URL with the texts of all variables put in at once. -/
def substituted (s : Server) : String :=
  String.ofList (substitute s.defaults.entries s.url.toList)

/-- A server without variables that has the finished URL. -/
def spelledOut (s : Server) : Server := { s with url := s.substituted, placeholders := .empty }

/-- No name of a variable holds a brace, and the finished URL spells no slot of a variable. -/
structure Settled (s : Server) : Prop where
  names : ∀ n ∈ s.placeholders.keys, BraceFree n
  clear : ∀ n ∈ s.placeholders.keys, ¬ slot n <:+: s.substituted.toList

/-- The server with other names for its variables. -/
def renamed (rename : String → String) (s : Server) : Server :=
  { s with
    url := String.ofList (renameSlots rename s.placeholders.keys s.url.toList)
    placeholders := .ofList (s.placeholders.entries.map fun v => (rename v.1, v.2)) }

/-- Other names for the variables: different ones where the names were different, without braces,
and such that the finished URL spells no slot of theirs. -/
structure Renames (rename : String → String) (s : Server) : Prop where
  injective : ∀ m ∈ s.placeholders.keys, ∀ n ∈ s.placeholders.keys, rename m = rename n → m = n
  names : ∀ n ∈ s.placeholders.keys, BraceFree (rename n)
  clear : ∀ n ∈ s.placeholders.keys, ¬ slot (rename n) <:+: s.substituted.toList

section

variable {s : Server} {rename : String → String}

theorem map_fst_defaults : s.defaults.entries.map Prod.fst = s.placeholders.keys :=
  Dict.keys_mapValues _ s.placeholders

theorem toList_substituted :
    s.substituted.toList = substitute s.defaults.entries s.url.toList := String.toList_ofList

/-- A server is settled if each opening brace of its URL opens a slot and no text of a variable
has one. -/
theorem settled_of_not_mem (names : ∀ n ∈ s.placeholders.keys, BraceFree n)
    (texts : ∀ v ∈ s.defaults.entries, '{' ∉ v.2.toList)
    (letters : .letter '{' ∉ parts s.placeholders.keys s.url.toList) : s.Settled := by
  refine ⟨names, fun n _ inside => ?_⟩
  have opening : '{' ∈ s.substituted.toList := inside.subset List.mem_cons_self
  rw [toList_substituted, substitute, map_fst_defaults] at opening
  obtain ⟨p, among, written⟩ := List.mem_flatMap.1 opening
  cases p with
  | letter c => exact letters (List.mem_singleton.1 written ▸ among)
  | slot name =>
      have known : name ∈ s.defaults.entries.map Prod.fst :=
        map_fst_defaults ▸ mem_of_slot_mem_parts among
      obtain ⟨v, mem, text⟩ := exists_valueOf_eq known
      exact texts v mem (text ▸ written)

/-! ## Other names -/

theorem get?_renamed (renames : s.Renames rename) {name : String}
    (mem : name ∈ s.placeholders.keys) :
    (s.renamed rename).placeholders.get? (rename name) = s.placeholders.get? name := by
  obtain ⟨v, among, rfl⟩ := List.mem_map.1 mem
  have distinct : ((s.placeholders.entries.map fun v => (rename v.1, v.2)).map Prod.fst).Nodup := by
    have apart := (Dict.nodup_keys s.placeholders).map_on renames.injective
    rw [Dict.keys, List.map_map] at apart
    rwa [List.map_map]
  have image := List.mem_map_of_mem (f := fun v => (rename v.1, v.2)) among
  exact (Dict.get?_ofList_of_mem image distinct).trans (Dict.mem_entries_iff.1 among).symm

theorem mem_keys_renamed {name : String} (mem : name ∈ (s.renamed rename).placeholders.keys) :
    ∃ n ∈ s.placeholders.keys, name = rename n := by
  obtain ⟨v, among, rfl⟩ := List.mem_map.1 mem
  obtain ⟨w, before, rfl⟩ := List.mem_map.1 (Dict.mem_of_mem_ofList among)
  exact ⟨w.1, List.mem_map_of_mem before, rfl⟩

theorem valueOf_defaults {name : String} {v : ServerVariable}
    (declared : s.placeholders.get? name = some v) :
    valueOf s.defaults.entries name = v.default.toList := by
  have text : Entries.get? s.defaults.entries name = some v.default :=
    (Dict.get?_mapValues _ s.placeholders name).trans (congrArg _ declared)
  rw [valueOf, text]
  rfl

theorem substituted_renamed (renames : s.Renames rename) :
    (s.renamed rename).substituted = s.substituted := by
  have url : (s.renamed rename).url.toList =
      renameSlots rename (s.defaults.entries.map Prod.fst) s.url.toList := by
    rw [map_fst_defaults]
    exact String.toList_ofList
  have known {v : String × String} (mem : v ∈ (s.renamed rename).defaults.entries) :
      ∃ n ∈ s.placeholders.keys, v.1 = rename n :=
    mem_keys_renamed (map_fst_defaults ▸ List.mem_map_of_mem mem)
  rw [← String.toList_inj, toList_substituted, toList_substituted, url]
  refine substitute_renameSlots (fun v mem => ?_) (fun n mem => ?_) (fun n mem => ?_)
    fun v mem => ?_
  · obtain ⟨n, declared, is⟩ := known mem
    exact is ▸ renames.names n declared
  · rw [map_fst_defaults] at mem ⊢
    obtain ⟨v, among, rfl⟩ := List.mem_map.1 mem
    have declared := (get?_renamed renames mem).trans (Dict.mem_entries_iff.1 among)
    exact List.mem_map_of_mem (Dict.mem_entries_iff (e := (rename v.1, v.2)) |>.2 declared)
  · rw [map_fst_defaults] at mem
    obtain ⟨v, among, rfl⟩ := List.mem_map.1 mem
    have declared := Dict.mem_entries_iff.1 among
    rw [valueOf_defaults declared, valueOf_defaults ((get?_renamed renames mem).trans declared)]
  · obtain ⟨n, declared, is⟩ := known mem
    rw [← toList_substituted]
    exact is ▸ renames.clear n declared

theorem settled_renamed (renames : s.Renames rename) : (s.renamed rename).Settled := by
  refine ⟨fun name mem => ?_, fun name mem => ?_⟩
  · obtain ⟨n, known, rfl⟩ := mem_keys_renamed mem
    exact renames.names n known
  · obtain ⟨n, known, rfl⟩ := mem_keys_renamed mem
    rw [substituted_renamed renames]
    exact renames.clear n known

end

end Server

namespace ServerInfo

theorem toList_expandVariables (s : Server) : (expandVariables s).toList =
    s.defaults.entries.foldl (fun t v => replaceAll (slot v.1) v.2.toList t) s.url.toList := by
  have spelled (name : String) : ("\x7b" ++ name ++ "\x7d").toList = slot name := by
    rw [String.toList_append, String.toList_append]
    rfl
  have texts : s.defaults.entries =
      s.placeholders.entries.map fun v => (v.1, v.2.default) := rfl
  rw [expandVariables, texts, List.foldl_map]
  generalize s.url = url
  induction s.placeholders.entries generalizing url with
  | nil => rfl
  | cons v vars ih =>
      rw [List.foldl_cons, List.foldl_cons, ih, replaceString, String.toList_ofList, spelled]

/-- **The variables of a settled server may be put in one after the other.** -/
theorem expandVariables_of_settled {s : Server} (settled : s.Settled) :
    expandVariables s = s.substituted := by
  have known {v : String × String} (mem : v ∈ s.defaults.entries) :
      v.1 ∈ s.placeholders.keys := Server.map_fst_defaults ▸ List.mem_map_of_mem mem
  rw [← String.toList_inj, toList_expandVariables, Server.toList_substituted]
  refine foldl_replaceAll_eq_substitute (fun v mem => settled.names _ (known mem)) fun v mem => ?_
  rw [← Server.toList_substituted]
  exact settled.clear _ (known mem)

/-! ## What is derived -/

variable {escape : String → String} {s t : Server} {more : List Server}

/-- Of the servers only the finished URL of the first one matters. -/
theorem ofServers_congr [Readers] (same : expandVariables s = expandVariables t)
    (more' : List Server) : ofServers escape (s :: more) = ofServers escape (t :: more') := by
  have urls : urlOf s = urlOf t := by rw [urlOf, urlOf, same]
  rw [ofServers, ofServers, List.head?_cons, List.head?_cons, Option.bind_some, Option.bind_some,
    urls]

theorem expandVariables_spelledOut : expandVariables s.spelledOut = s.substituted := rfl

/-- **The variables of a settled server are put in at once.**  The URL that everything is derived
from is the one with the texts of all variables in their slots, read once from left to right, so
the server stands for the one without variables that has this URL.  Other names for the variables
give the same. -/
theorem ofServers_substitutes [Readers] (escape : String → String) (s : Server)
    (more : List Server) (settled : s.Settled) :
    expandVariables s = s.substituted ∧
      ofServers escape (s :: more) = ofServers escape (s.spelledOut :: more) ∧
      ∀ rename, s.Renames rename →
        ofServers escape (s.renamed rename :: more) = ofServers escape (s :: more) := by
  have finished := expandVariables_of_settled settled
  refine ⟨finished, ofServers_congr ?_ more, fun rename renames => ofServers_congr ?_ more⟩
  · rw [finished, expandVariables_spelledOut]
  · rw [finished, expandVariables_of_settled (Server.settled_renamed renames),
      Server.substituted_renamed renames]

/-- A server with two variables, of which one stands in two slots. -/
def twoVariables : Server :=
  ⟨"https://{host}/{base}/{base}", none,
    .ofList [("host", ⟨"api.example.com", [], none⟩), ("base", ⟨"v2", [], none⟩)]⟩

/-- The same names, but one of them comes last instead of first. -/
def otherNames (name : String) : String := if name = "base" then "z" else name

theorem ofServers_substitutes_two_variables :
    twoVariables.Settled ∧ twoVariables.Renames otherNames ∧
      expandVariables twoVariables = "https://api.example.com/v2/v2" ∧
      (ofServers Naming.standard.escapeText [twoVariables.renamed otherNames]).contextPath =
        "/v2/v2" := by
  have settled : twoVariables.Settled :=
    Server.settled_of_not_mem (by decide +kernel) (by decide +kernel) (by decide +kernel)
  have renames : twoVariables.Renames otherNames :=
    ⟨by decide +kernel, by decide +kernel, by decide +kernel⟩
  have same := ofServers_substitutes Naming.standard.escapeText twoVariables [] settled
  refine ⟨settled, renames, same.1.trans (by decide +kernel), ?_⟩
  rw [same.2.2 otherNames renames, same.2.1]
  decide +kernel

/-- A server one of whose variables has the slot of the other one as its text. -/
def nestedServer : Server :=
  ⟨"http://h/{a}", none, .ofList [("a", ⟨"{b}", [], none⟩), ("b", ⟨"x", [], none⟩)]⟩

/-- **The text of a variable is looked through for the slots of the next ones**, so it matters
which names the variables have. -/
theorem default_is_looked_through :
    (ofServers Naming.standard.escapeText [nestedServer]).contextPath = "/x" ∧
      (ofServers Naming.standard.escapeText [nestedServer.spelledOut]).contextPath = "/%7Bb%7D" ∧
      (ofServers Naming.standard.escapeText
          [nestedServer.renamed fun n => if n = "a" then "z" else n]).contextPath = "/%7Bb%7D" :=
  ⟨by decide +kernel, by decide +kernel, by decide +kernel⟩

/-! ## Paths -/

/-- `stem` is a text without the slashes at its end. -/
def IsStem (stem text : String) : Prop :=
  (∃ n, text.toList = stem.toList ++ List.replicate n '/') ∧ stem.toList.getLast? ≠ some '/'

theorem isStem_dropTrailingSlashes (text : String) : IsStem (dropTrailingSlashes text) text := by
  rw [IsStem, dropTrailingSlashes, String.toList_ofList, trimEnd]
  generalize reversed : text.toList.reverse = back
  constructor
  · have slashes : (back.takeWhile (· = '/')).reverse =
        List.replicate (back.takeWhile (· = '/')).reverse.length '/' := by
      refine List.eq_replicate_iff.2 ⟨rfl, fun c mem => ?_⟩
      have slash := List.mem_takeWhile_imp (List.mem_reverse.1 mem)
      exact of_decide_eq_true slash
    refine ⟨(back.takeWhile (· = '/')).reverse.length, ?_⟩
    rw [← slashes, ← List.reverse_append, List.takeWhile_append_dropWhile, ← reversed,
      List.reverse_reverse]
  · rw [List.getLast?_reverse]
    intro slash
    have stops := List.head?_dropWhile_not (fun c => decide (c = '/')) back
    rw [slash] at stops
    cases stops

section Served

variable [Readers]

/-- The path that an API is served under: that of the URL of its first server without the slashes
at the end, and the empty path where that server is not usable. -/
def ServesUnder (servers : List Server) (path : String) : Prop :=
  match servers.head?.bind urlOf with
  | none => path = ""
  | some (url, _) => IsStem path url.path

/-- The path that is escaped. -/
def servedPath (servers : List Server) : String :=
  ((servers.head?.bind urlOf).map fun u => dropTrailingSlashes u.1.path).getD ""

theorem servesUnder_servedPath (servers : List Server) :
    ServesUnder servers (servedPath servers) := by
  rw [ServesUnder, servedPath]
  cases servers.head?.bind urlOf with
  | none => rfl
  | some found => exact isStem_dropTrailingSlashes found.1.path

theorem paths_of_servedPath (escape : String → String) (servers : List Server) :
    (ofServers escape servers).contextPath = escape (servedPath servers) ∧
      (ofServers escape servers).basePathWithoutHost = escape (escape (servedPath servers)) := by
  rw [ofServers, servedPath]
  cases servers.head?.bind urlOf with
  | none => exact ⟨rfl, rfl⟩
  | some found => exact ⟨rfl, rfl⟩

theorem isPlain_servedPath_or (plain : Readers.PlainSpecialPaths) (servers : List Server) :
    IsPlain (servedPath servers).toList ∨
    ∃ url named, servers.head?.bind urlOf = some (url, named) ∧
      Url.isSpecial url.scheme = false := by
  rw [servedPath]
  cases first : servers.head?.bind urlOf with
  | none => exact .inl fun _ mem => (nomatch mem)
  | some found =>
      obtain ⟨url, named⟩ := found
      obtain ⟨server, -, is⟩ := Option.bind_eq_some_iff.1 first
      cases special : Url.isSpecial url.scheme with
      | false => exact .inr ⟨url, named, rfl, special⟩
      | true =>
          rw [urlOf, Option.map_eq_some_iff] at is
          obtain ⟨_, parsed, same⟩ := is
          cases same
          obtain ⟨⟨n, whole⟩, -⟩ := isStem_dropTrailingSlashes url.path
          exact .inl fun c mem =>
            plain _ _ parsed special c (whole ▸ List.mem_append_left _ mem)

/-- **The path is escaped once for `contextPath` and once more for `basePathWithoutHost`**, by any
escaping.  With the usual one the two agree exactly where the path holds no backslash and no
quotation mark, and so under every special scheme if URLs are read as they should be. -/
theorem ofServers_paths (servers : List Server) : ∃ path, ServesUnder servers path ∧
    (∀ escape, (ofServers escape servers).contextPath = escape path ∧
      (ofServers escape servers).basePathWithoutHost = escape (escape path)) ∧
    ((ofServers Naming.standard.escapeText servers).basePathWithoutHost =
        (ofServers Naming.standard.escapeText servers).contextPath ↔ IsPlain path.toList) ∧
    (Readers.PlainSpecialPaths → IsPlain path.toList ∨
      ∃ url named, servers.head?.bind urlOf = some (url, named) ∧
        Url.isSpecial url.scheme = false) := by
  refine ⟨servedPath servers, servesUnder_servedPath servers,
    fun escape => paths_of_servedPath escape servers, ?_,
    fun plain => isPlain_servedPath_or plain servers⟩
  have ⟨context, bare⟩ := paths_of_servedPath Naming.standard.escapeText servers
  rw [context, bare]
  exact escapeText_escapeText_iff

end Served

/-- A server with a backslash in its URL, under a scheme that reads it as a slash. -/
def slashServer : Server := ⟨"http://h/a\\b", none, .empty⟩

theorem ofServers_paths_slash :
    (ofServers Naming.standard.escapeText [slashServer]).basePathWithoutHost =
      (ofServers Naming.standard.escapeText [slashServer]).contextPath := by
  obtain ⟨path, -, -, agree, holds⟩ := ofServers_paths [slashServer]
  have url : urlOf slashServer =
      some (⟨"http", "", some "h", none, "/a/b", none, none⟩, true) := by
    decide +kernel
  rcases holds plainSpecialPaths_standard with plain | ⟨other, named, found, notSpecial⟩
  · exact agree.2 plain
  · cases url.symm.trans found
    cases notSpecial

/-- A server under a scheme whose URLs may hold backslashes. -/
def backslashServer : Server := ⟨"foo://h/a\\b", none, .empty⟩

/-- **The path without the host is escaped twice.** -/
theorem path_is_escaped_twice : ServesUnder [backslashServer] "/a\\b" ∧
    (ofServers Naming.standard.escapeText [backslashServer]).contextPath = "/a\\\\b" ∧
    (ofServers Naming.standard.escapeText [backslashServer]).basePathWithoutHost =
      "/a\\\\\\\\b" := by
  have url : urlOf backslashServer =
      some (⟨"foo", "", some "h", none, "/a\\b", none, none⟩, true) := by
    decide +kernel
  refine ⟨?_, by decide +kernel, by decide +kernel⟩
  rw [ServesUnder, List.head?_cons, Option.bind_some, url]
  exact ⟨⟨0, by decide +kernel⟩, by decide +kernel⟩

end ServerInfo

end ApiForge
