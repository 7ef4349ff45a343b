import ApiForge.Template.Lexeme
import ApiForge.Template.Syntax
/-
# ApiForge.Template.Parse -- from the pieces of a template to its tree

Operators bind in levels, from the choice between two values down to the unary ones;
filters and tests stand behind an operand.  A statement that opens a body has to be
closed.
-/

namespace ApiForge.Template.Parse

set_option autoImplicit false

abbrev Tokens := List Lexeme

/-! ## Expressions -/

/-- Names that cannot be given to a value. -/
def reserved : List String := ["true", "True", "false", "False", "none", "None", "loop", "self"]

def constant? (word : String) : Option Json :=
  if word = "true" ∨ word = "True" then some (.bool true)
  else if word = "false" ∨ word = "False" then some (.bool false)
  else if word = "none" ∨ word = "None" then some .null
  else none

/-- The levels of binary operators, the loosest first. -/
inductive Level where
  | or
  | and
  | not
  | compare
  | add
  | join
  | multiply
  | unary

def Level.tighter : Level → Level
  | .or => .and
  | .and => .not
  | .not => .compare
  | .compare => .add
  | .add => .join
  | .join => .multiply
  | .multiply => .unary
  | .unary => .unary

/-- The operator of a level at the front, with what follows it. -/
def operator? (level : Level) (ts : Tokens) : Option (Operator × Tokens) :=
  match level, ts with
  | .or, .word "or" :: rest => some (.or, rest)
  | .and, .word "and" :: rest => some (.and, rest)
  | .compare, .sign "==" :: rest => some (.equal, rest)
  | .compare, .sign "!=" :: rest => some (.unequal, rest)
  | .compare, .sign "<" :: rest => some (.less, rest)
  | .compare, .sign "<=" :: rest => some (.lessOrEqual, rest)
  | .compare, .sign ">" :: rest => some (.greater, rest)
  | .compare, .sign ">=" :: rest => some (.greaterOrEqual, rest)
  | .compare, .word "in" :: rest => some (.member, rest)
  | .compare, .word "not" :: .word "in" :: rest => some (.notMember, rest)
  | .add, .sign "+" :: rest => some (.add, rest)
  | .add, .sign "-" :: rest => some (.subtract, rest)
  | .join, .sign "~" :: rest => some (.join, rest)
  | .multiply, .sign "*" :: rest => some (.multiply, rest)
  | .multiply, .sign "/" :: rest => some (.divide, rest)
  | .multiply, .sign "//" :: rest => some (.divideWhole, rest)
  | .multiply, .sign "%" :: rest => some (.remainder, rest)
  | _, _ => none

mutual

def expr : Nat → Tokens → Option (Expr × Tokens)
  | 0, _ => none
  | fuel + 1, ts =>
    match level fuel .or ts with
    | some (e, rest) => choice fuel e rest
    | none => none

/-- What may follow a value: `if`, a condition, and another value. -/
def choice : Nat → Expr → Tokens → Option (Expr × Tokens)
  | 0, _, _ => none
  | fuel + 1, e, .word "if" :: rest =>
    match level fuel .or rest with
    | some (condition, .word "else" :: rest) =>
      match expr fuel rest with
      | some (no, rest) => choice fuel (.choose condition e no) rest
      | none => none
    | some (condition, rest) => choice fuel (.choose condition e .absent) rest
    | none => none
  | _ + 1, e, ts => some (e, ts)

def level : Nat → Level → Tokens → Option (Expr × Tokens)
  | 0, _, _ => none
  | fuel + 1, .unary, ts =>
    match prefixed fuel ts with
    | some (e, rest) =>
      match suffixes fuel e rest with
      | some (e, rest) => filters fuel e rest
      | none => none
    | none => none
  | fuel + 1, .not, .word "not" :: rest =>
    (level fuel .not rest).map fun r => (.not r.1, r.2)
  | fuel + 1, l, ts =>
    match level fuel l.tighter ts with
    | some (e, rest) => chain fuel l e rest
    | none => none

/-- The rest of a chain of operators of one level. -/
def chain : Nat → Level → Expr → Tokens → Option (Expr × Tokens)
  | 0, _, _, _ => none
  | fuel + 1, l, e, ts =>
    match operator? l ts with
    | some (op, rest) =>
      match level fuel l.tighter rest with
      | some (b, rest) => chain fuel l (.binary op e b) rest
      | none => none
    | none => some (e, ts)

def prefixed : Nat → Tokens → Option (Expr × Tokens)
  | 0, _ => none
  | fuel + 1, .sign "-" :: rest => (prefixed fuel rest).map fun r => (.negate r.1, r.2)
  | fuel + 1, ts => primary fuel ts

def primary : Nat → Tokens → Option (Expr × Tokens)
  | 0, _ => none
  | _ + 1, .word w :: rest =>
    match constant? w with
    | some j => some (.const j, rest)
    | none => some (.var w, rest)
  | _ + 1, .literal s :: rest => some (.const (.str s), rest)
  | _ + 1, .int n :: rest => some (.const (.int n), rest)
  | _ + 1, .float x :: rest => some (.const (.float x), rest)
  | _ + 1, .sign "(" :: .sign ")" :: rest => some (.list [], rest)
  | fuel + 1, .sign "(" :: rest =>
    match expr fuel rest with
    | some (e, .sign ")" :: rest) => some (e, rest)
    | some (e, .sign "," :: rest) =>
      (args fuel ")" [e] rest).map fun r => (.list r.1, r.2)
    | _ => none
  | fuel + 1, .sign "[" :: rest => (args fuel "]" [] rest).map fun r => (.list r.1, r.2)
  | fuel + 1, .sign "\x7b" :: rest => (entries fuel [] rest).map fun r => (.dict r.1, r.2)
  | _ + 1, _ => none

/-- Expressions up to a closing sign, with commas between them and perhaps one at the end. -/
def args : Nat → String → List Expr → Tokens → Option (List Expr × Tokens)
  | 0, _, _, _ => none
  | fuel + 1, close, done, ts =>
    match ts with
    | .sign s :: rest => if s = close then some (done.reverse, rest) else arg fuel close done ts
    | _ => arg fuel close done ts

def arg : Nat → String → List Expr → Tokens → Option (List Expr × Tokens)
  | 0, _, _, _ => none
  | fuel + 1, close, done, ts =>
    let ts := match ts with
      | .word _ :: .sign "=" :: rest => if close = ")" then rest else ts
      | _ => ts
    match expr fuel ts with
    | some (e, .sign s :: rest) =>
      if s = close then some ((e :: done).reverse, rest)
      else if s = "," then args fuel close (e :: done) rest
      else none
    | _ => none

def entries : Nat → List (Expr × Expr) → Tokens → Option (List (Expr × Expr) × Tokens)
  | 0, _, _ => none
  | _ + 1, done, .sign "\x7d" :: rest => some (done.reverse, rest)
  | fuel + 1, done, ts =>
    match expr fuel ts with
    | some (k, .sign ":" :: rest) =>
      match expr fuel rest with
      | some (v, .sign "," :: rest) => entries fuel ((k, v) :: done) rest
      | some (v, .sign "\x7d" :: rest) => some (((k, v) :: done).reverse, rest)
      | _ => none
    | _ => none

/-- Fields, places and calls behind an operand. -/
def suffixes : Nat → Expr → Tokens → Option (Expr × Tokens)
  | 0, _, _ => none
  | fuel + 1, e, .sign "." :: .word name :: rest => suffixes fuel (.field e name) rest
  | fuel + 1, e, .sign "." :: .int n :: rest =>
    suffixes fuel (.index e (.const (.int n))) rest
  | _ + 1, _, .sign "." :: _ => none
  | fuel + 1, e, .sign "[" :: rest =>
    match expr fuel rest with
    | some (key, .sign "]" :: rest) => suffixes fuel (.index e key) rest
    | _ => none
  | fuel + 1, e, .sign "(" :: rest =>
    match args fuel ")" [] rest with
    | some (xs, rest) => suffixes fuel (.call e xs) rest
    | none => none
  | _ + 1, e, ts => some (e, ts)

/-- Filters and tests behind an operand. -/
def filters : Nat → Expr → Tokens → Option (Expr × Tokens)
  | 0, _, _ => none
  | fuel + 1, e, .sign "|" :: .word name :: .sign "(" :: rest =>
    match args fuel ")" [] rest with
    | some (xs, rest) => filters fuel (.filter e name xs) rest
    | none => none
  | fuel + 1, e, .sign "|" :: .word name :: rest => filters fuel (.filter e name []) rest
  | _ + 1, _, .sign "|" :: _ => none
  | fuel + 1, e, .word "is" :: .word "not" :: rest =>
    match test fuel e rest with
    | some (t, rest) => filters fuel (.not t) rest
    | none => none
  | fuel + 1, e, .word "is" :: rest =>
    match test fuel e rest with
    | some (t, rest) => filters fuel t rest
    | none => none
  | _ + 1, e, ts => some (e, ts)

def test : Nat → Expr → Tokens → Option (Expr × Tokens)
  | 0, _, _ => none
  | fuel + 1, e, .word name :: .sign "(" :: rest =>
    (args fuel ")" [] rest).map fun r => (.test e name r.1, r.2)
  | _ + 1, e, .word name :: rest => some (.test e name [], rest)
  | _ + 1, _, _ => none

end

/-! ## Statements -/

/-- Names to give to a value, with commas between them and perhaps brackets around. -/
def names : Nat → List String → Tokens → Option (List String × Tokens)
  | 0, _, _ => none
  | fuel + 1, done, .word w :: rest =>
    if reserved.contains w then none
    else
      match rest with
      | .sign "," :: .word w' :: rest' => names fuel (w :: done) (.word w' :: rest')
      | _ => some ((w :: done).reverse, rest)
  | _ + 1, _, _ => none

def targets (fuel : Nat) (ts : Tokens) : Option (List String × Tokens) :=
  match ts with
  | .sign "(" :: rest =>
    match names fuel [] rest with
    | some (ns, .sign ")" :: rest) => some (ns, rest)
    | _ => none
  | _ => names fuel [] ts

/-- A chain of filters without an operand. -/
def filterChain : Nat → Tokens → Option (List (String × List Expr) × Tokens)
  | 0, _ => none
  | fuel + 1, .word name :: ts =>
    let read : Option (List Expr × Tokens) := match ts with
      | .sign "(" :: rest => args fuel ")" [] rest
      | _ => some ([], ts)
    match read with
    | some (xs, .sign "|" :: rest) => (filterChain fuel rest).map fun r => ((name, xs) :: r.1, r.2)
    | some (xs, rest) => some ([(name, xs)], rest)
    | none => none
  | _ + 1, _ => none

/-- Names with their values, as a `with` statement gives them. -/
def bindings : Nat → Tokens → Option (List (String × Expr) × Tokens)
  | 0, _ => none
  | _ + 1, .blockEnd :: rest => some ([], .blockEnd :: rest)
  | fuel + 1, .word name :: .sign "=" :: rest =>
    match expr fuel rest with
    | some (e, .sign "," :: rest) => (bindings fuel rest).map fun r => ((name, e) :: r.1, r.2)
    | some (e, rest) => some ([(name, e)], rest)
    | none => none
  | _ + 1, _ => none

/-- The end of a statement. -/
def endBlock : Tokens → Option Tokens
  | .blockEnd :: rest => some rest
  | _ => none

mutual

/-- Nodes up to a statement that is one of `stops`, or to the end where that is asked for:
the nodes, the statement, and what follows its name. -/
def nodes : Nat → List String → List Node → Tokens → Option (List Node × String × Tokens)
  | 0, _, _, _ => none
  | _ + 1, stops, done, [] => if stops.contains "" then some (done.reverse, "", []) else none
  | fuel + 1, stops, done, .text s :: rest => nodes fuel stops (.text s :: done) rest
  | fuel + 1, stops, done, .printStart :: rest =>
    match expr fuel rest with
    | some (e, .printEnd :: rest) => nodes fuel stops (.print e :: done) rest
    | _ => none
  | fuel + 1, stops, done, .blockStart :: .word w :: rest =>
    if stops.contains w then some (done.reverse, w, rest)
    else
      match statement fuel w rest with
      | some (node, rest) => nodes fuel stops (node :: done) rest
      | none => none
  | _ + 1, _, _, _ => none

/-- A body up to the one statement that ends it. -/
def body : Nat → String → Tokens → Option (List Node × Tokens)
  | 0, _, _ => none
  | fuel + 1, stop, ts =>
    match nodes fuel [stop] [] ts with
    | some (ns, _, rest) => (endBlock rest).map fun rest => (ns, rest)
    | none => none

/-- A choice from its condition on. -/
def conditional : Nat → Tokens → Option (Node × Tokens)
  | 0, _ => none
  | fuel + 1, ts =>
    match expr fuel ts with
    | some (condition, .blockEnd :: rest) =>
      match nodes fuel ["elif", "else", "endif"] [] rest with
      | some (yes, "elif", rest) =>
        (conditional fuel rest).map fun r => (.choose condition yes [r.1], r.2)
      | some (yes, "else", .blockEnd :: rest) =>
        (body fuel "endif" rest).map fun r => (.choose condition yes r.1, r.2)
      | some (yes, "endif", .blockEnd :: rest) => some (.choose condition yes [], rest)
      | _ => none
    | _ => none

def loop : Nat → Tokens → Option (Node × Tokens)
  | 0, _ => none
  | fuel + 1, ts =>
    match targets fuel ts with
    | some (ns, .word "in" :: rest) =>
      match level fuel .or rest with
      | none => none
      | some (source, rest) =>
        let (condition, rest) : Option Expr × Tokens := match rest with
          | .word "if" :: rest' =>
            match expr fuel rest' with
            | some (c, rest'') => (some c, rest'')
            | none => (none, rest')
          | _ => (some (.const (.bool true)), rest)
        match condition, endBlock rest with
        | some condition, some rest =>
          match nodes fuel ["else", "endfor"] [] rest with
          | some (inside, "else", .blockEnd :: rest) =>
            (body fuel "endfor" rest).map fun r => (.loop ns source condition inside r.1, r.2)
          | some (inside, "endfor", .blockEnd :: rest) =>
            some (.loop ns source condition inside [], rest)
          | _ => none
        | _, _ => none
    | _ => none

def assignment : Nat → Tokens → Option (Node × Tokens)
  | 0, _ => none
  | fuel + 1, ts =>
    match targets fuel ts with
    | some (ns, .sign "=" :: rest) =>
      match expr fuel rest with
      | some (e, .blockEnd :: rest) => some (.assign ns e, rest)
      | some (e, .sign "," :: rest) =>
        match args fuel ")" [e] (closeAtBlockEnd rest) with
        | some (es, .blockEnd :: rest) => some (.assign ns (.list es), rest)
        | _ => none
      | _ => none
    | some ([name], .sign "|" :: rest) =>
      match filterChain fuel rest with
      | some (fs, .blockEnd :: rest) =>
        (body fuel "endset" rest).map fun r => (.capture name fs r.1, r.2)
      | _ => none
    | some ([name], .blockEnd :: rest) =>
      (body fuel "endset" rest).map fun r => (.capture name [] r.1, r.2)
    | _ => none
where
  closeAtBlockEnd : Tokens → Tokens
    | .blockEnd :: rest => .sign ")" :: .blockEnd :: rest
    | t :: rest => t :: closeAtBlockEnd rest
    | [] => []

def statement : Nat → String → Tokens → Option (Node × Tokens)
  | 0, _, _ => none
  | fuel + 1, "if", ts => conditional fuel ts
  | fuel + 1, "for", ts => loop fuel ts
  | fuel + 1, "set", ts => assignment fuel ts
  | fuel + 1, "with", ts =>
    match bindings fuel ts with
    | some (bs, .blockEnd :: rest) => (body fuel "endwith" rest).map fun r => (.scope bs r.1, r.2)
    | _ => none
  | fuel + 1, "filter", ts =>
    match filterChain fuel ts with
    | some (fs, .blockEnd :: rest) =>
      (body fuel "endfilter" rest).map fun r => (.filtered fs r.1, r.2)
    | _ => none
  | fuel + 1, "block", .word name :: .blockEnd :: rest =>
    match nodes fuel ["endblock"] [] rest with
    | some (ns, _, .blockEnd :: rest) => some (.scope [] ns, rest)
    | some (ns, _, .word name' :: .blockEnd :: rest) =>
      if name = name' then some (.scope [] ns, rest) else none
    | _ => none
  | fuel + 1, "include", ts =>
    match expr fuel ts with
    | some (e, .blockEnd :: rest) => some (.insertFile e false, rest)
    | some (e, .word "ignore" :: .word "missing" :: .blockEnd :: rest) =>
      some (.insertFile e true, rest)
    | _ => none
  | _ + 1, _, _ => none

end

end Parse

/-- The tree of a template. -/
def parse (source : String) : Option (List Node) :=
  match Lexeme.list source with
  | none => none
  | some ts =>
    match Parse.nodes (16 * ts.length + 32) [""] [] ts with
    | some (ns, _, _) => some ns
    | none => none

end ApiForge.Template
