import ApiForge.Context
import ApiForge.Template.Parse
import ApiForge.Template.Value
/-
# ApiForge.Template.Render -- from a tree and a context to text

Names are looked up in the scopes that are open, the innermost first, and then in the
context.  A loop opens a scope and so does a `with`; a choice does not.
-/

namespace ApiForge.Template

set_option autoImplicit false

open ApiForge.Text

/-- The names that a scope gives to values. -/
abbrev Scope := List (String × Value)

/-- What has been written, and the scopes that are open. -/
structure State where
  out : String
  scopes : List Scope

namespace State

def write (st : State) (s : String) : State := { st with out := st.out ++ s }

/-- Give a name to a value in the innermost scope. -/
def assign (st : State) (name : String) (v : Value) : State :=
  match st.scopes with
  | [] => { st with scopes := [[(name, v)]] }
  | scope :: outer => { st with scopes := ((name, v) :: scope) :: outer }

def enter (st : State) (scope : Scope) : State := { st with scopes := scope :: st.scopes }

def leave (st : State) : State := { st with scopes := st.scopes.drop 1 }

def lookup (context : Context) (st : State) (name : String) : Value :=
  match st.scopes.findSome? fun scope => List.lookup name scope with
  | some v => v
  | none => context.get? name

/-- Give names to a value, or to its items where there are several names. -/
def assignAll (st : State) (names : List String) (v : Value) : Option State :=
  match names with
  | [name] => some (st.assign name v)
  | _ =>
    match v with
    | some (.arr items) =>
      if items.length = names.length then
        some ((names.zip items).foldl (fun st p => st.assign p.1 (some p.2)) st)
      else none
    | _ => none

end State

/-! ## Filters and tests -/

/-- Apply a filter; nothing where there is no such filter or it does not apply. -/
def applyFilter (name : String) (v : Value) (args : List Value) : Option Value :=
  match name, args with
  | "upper", [] => some (some (.str (upperText (display v))))
  | "lower", [] => some (some (.str (lowerText (display v))))
  | "trim", [] => some (some (.str (trimString (display v))))
  | "length", [] | "count", [] => (length v).map fun n => some (.int n)
  | "string", [] => some (some (.str (display v)))
  | "first", [] => (iterate v).map List.head?
  | "last", [] => (iterate v).map List.getLast?
  | "list", [] => (iterate v).map fun items => some (.arr items)
  | "join", [] =>
    (iterate v).map fun items => some (.str (joinStrings "" (items.map fun j => display (some j))))
  | "join", [sep] =>
    (iterate v).map fun items =>
      some (.str (joinStrings (display sep) (items.map fun j => display (some j))))
  | "default", [other] | "d", [other] => some (if v.isNone then other else v)
  | "items", [] =>
    match v with
    | some (.obj fields) => some (some (.arr (fields.map fun f => .arr [.str f.1, f.2])))
    | _ => none
  | _, _ => none

/-- Ask a test; nothing where there is no such test. -/
def applyTest (name : String) (v : Value) (args : List Value) : Option Bool :=
  match name, args with
  | "defined", [] => some v.isSome
  | "undefined", [] => some v.isNone
  | "none", [] => some (match v with
    | some .null => true
    | _ => false)
  | "true", [] => some (match v with
    | some (.bool b) => b
    | _ => false)
  | "false", [] => some (match v with
    | some (.bool b) => !b
    | _ => false)
  | "string", [] => some (match v with
    | some (.str _) => true
    | _ => false)
  | "number", [] => some (match v with
    | some (.int _) => true
    | some (.float _) => true
    | _ => false)
  | "mapping", [] => some (match v with
    | some (.obj _) => true
    | _ => false)
  | "sequence", [] => some (match v with
    | some (.arr _) => true
    | _ => false)
  | "iterable", [] => some (iterate v).isSome
  | "odd", [] => some (match v with
    | some (.int n) => n % 2 = 1
    | _ => false)
  | "even", [] => some (match v with
    | some (.int n) => n % 2 = 0
    | _ => false)
  | "eq", [other] => some (same v other)
  | "ne", [other] => some (!same v other)
  | "in", [other] => holds other v
  | _, _ => none

/-! ## Expressions -/

def applyOperator (op : Operator) (a b : Value) : Option Value :=
  match op with
  | .add => (add a b).map some
  | .subtract => (subtract a b).map some
  | .multiply => (multiply a b).map some
  | .divide => (divide a b).map some
  | .divideWhole => (divideWhole a b).map some
  | .remainder => (remainder a b).map some
  | .join => some (some (.str (display a ++ display b)))
  | .equal => some (some (.bool (same a b)))
  | .unequal => some (some (.bool (!same a b)))
  | .less => some (some (.bool (before a b)))
  | .lessOrEqual => some (some (.bool (before a b || same a b)))
  | .greater => some (some (.bool (before b a)))
  | .greaterOrEqual => some (some (.bool (before b a || same a b)))
  | .member => (holds b a).map fun r => some (.bool r)
  | .notMember => (holds b a).map fun r => some (.bool !r)
  | .and => some (if isTrue a then b else a)
  | .or => some (if isTrue a then a else b)

mutual

/-- The value of an expression; nothing where it fails. -/
def eval (context : Context) (st : State) : Expr → Option Value
  | .const j => some (some j)
  | .var name => some (st.lookup context name)
  | .list items => (evalList context st items).map fun vs => some (.arr (vs.map Json.ofOption))
  | .dict entries =>
    (evalEntries context st entries).map fun vs => some (.object vs)
  | .field e name => (eval context st e).bind fun v => field v name
  | .index e key =>
    match eval context st e, eval context st key with
    | some v, some k => index v k
    | _, _ => none
  | .filter e name args =>
    match eval context st e, evalList context st args with
    | some v, some vs => applyFilter name v vs
    | _, _ => none
  | .test e name args =>
    match eval context st e, evalList context st args with
    | some v, some vs => (applyTest name v vs).map fun r => some (.bool r)
    | _, _ => none
  | .call _ _ => none
  | .not e => (eval context st e).map fun v => some (.bool !(isTrue v))
  | .negate e => (eval context st e).bind fun v => (negate v).map some
  | .binary op a b =>
    match eval context st a with
    | none => none
    | some v =>
      if (op = .and && !isTrue v) || (op = .or && isTrue v) then some v
      else
        match eval context st b with
        | some w => applyOperator op v w
        | none => none
  | .choose condition yes no =>
    match eval context st condition with
    | none => none
    | some c => if isTrue c then eval context st yes else eval context st no
  | .absent => some none

def evalList (context : Context) (st : State) : List Expr → Option (List Value)
  | [] => some []
  | e :: rest =>
    match eval context st e, evalList context st rest with
    | some v, some vs => some (v :: vs)
    | _, _ => none

def evalEntries (context : Context) (st : State) :
    List (Expr × Expr) → Option (List (String × Json))
  | [] => some []
  | (k, v) :: rest =>
    match eval context st k, eval context st v, evalEntries context st rest with
    | some k, some v, some vs => some ((display k, Json.ofOption v) :: vs)
    | _, _, _ => none

end

/-- Apply filters one after the other. -/
def applyFilters (context : Context) (st : State) (filters : List (String × List Expr))
    (v : Value) : Option Value :=
  filters.foldlM (fun v f =>
    match evalList context st f.2 with
    | some args => applyFilter f.1 v args
    | none => none) v

/-! ## Nodes -/

/-- What a loop tells about itself at the item of a place. -/
def loopInfo (items : List Json) (place depth : Nat) : Json :=
  let count := items.length
  .object ([
    ("index", .int (place + 1)), ("index0", .int place),
    ("revindex", .int (count - place : Nat)), ("revindex0", .int (count - place - 1 : Nat)),
    ("first", .bool (place = 0)), ("last", .bool (place + 1 = count)),
    ("length", .int count), ("depth", .int (depth + 1)), ("depth0", .int depth)]
    ++ (if place = 0 then [] else (items[place - 1]?.map fun j => ("previtem", j)).toList)
    ++ (items[place + 1]?.map fun j => ("nextitem", j)).toList)

/-- The items that a condition lets through. -/
def keepItems (context : Context) (st : State) (names : List String) (condition : Expr) :
    List Json → Option (List Json)
  | [] => some []
  | j :: rest =>
    match (st.enter []).assignAll names (some j), keepItems context st names condition rest with
    | some inside, some kept =>
      (eval context inside condition).map fun v => if isTrue v then j :: kept else kept
    | _, _ => none

/-- How many loops are open. -/
def loopDepth (st : State) : Nat :=
  (st.scopes.filter fun scope => scope.any fun b => b.1 = "loop").length

mutual

def renderNode (context : Context) (st : State) : Node → Option State
  | .text s => some (st.write s)
  | .print e => (eval context st e).map fun v => st.write (display v)
  | .choose condition yes no =>
    match eval context st condition with
    | none => none
    | some c => if isTrue c then renderNodes context st yes else renderNodes context st no
  | .loop names source condition body otherwise =>
    match (eval context st source).bind iterate with
    | none => none
    | some all =>
      match keepItems context st names condition all with
      | none => none
      | some [] => renderNodes context st otherwise
      | some items =>
        let depth := loopDepth st
        let round (st : State) (item : Json × Nat) : Option State :=
          match (st.assign "loop" (some (loopInfo items item.2 depth))).assignAll names
              (some item.1) with
          | some st => renderNodes context st body
          | none => none
        (items.zipIdx.foldlM round (st.enter [])).map State.leave
  | .assign names e => (eval context st e).bind fun v => st.assignAll names v
  | .capture name filters body =>
    match renderNodes context { st with out := "" } body with
    | none => none
    | some inside =>
      (applyFilters context st filters (some (.str inside.out))).map fun v =>
        { inside with out := st.out }.assign name v
  | .scope names body =>
    let bound := names.foldlM (fun (st : State) b =>
      (eval context st b.2).map fun v => st.assign b.1 v) (st.enter [])
    match bound with
    | none => none
    | some st => (renderNodes context st body).map State.leave
  | .filtered filters body =>
    match renderNodes context { st with out := "" } body with
    | none => none
    | some inside =>
      (applyFilters context st filters (some (.str inside.out))).map fun v =>
        { inside with out := st.out ++ display v }
  | .insertFile _ optional => if optional then some st else none

def renderNodes (context : Context) (st : State) : List Node → Option State
  | [] => some st
  | node :: rest =>
    match renderNode context st node with
    | some st => renderNodes context st rest
    | none => none

end

/-- The text that a template makes of a context. -/
def render (nodes : List Node) (context : Context) : Option String :=
  (renderNodes context ⟨"", []⟩ nodes).map State.out

end ApiForge.Template
