import ApiForge.Yaml.Layout
/-
# ApiForge.Yaml.Event -- a document as a series of nodes

Tokens make nodes: scalars, aliases, and the two ends of collections.  What is
expected next is a stack of states, the state to come back to below the current one.
A text holds at most one document.
-/

namespace ApiForge.Yaml

set_option autoImplicit false

/-- What marks a node: an anchor and a tag, each where there is one. -/
structure Marks where
  anchor : Option String
  tag : Option String

inductive Event where
  | alias (name : String)
  | scalar (marks : Marks) (text : String) (style : ScalarStyle)
  | sequenceStart (marks : Marks)
  | sequenceEnd
  | mappingStart (marks : Marks)
  | mappingEnd

namespace Event

/-- What comes next in a document. -/
inductive State where
  | documentEnd
  | blockSequenceEntry
  | indentlessEntry
  | blockMappingKey
  | blockMappingValue
  | flowSequenceFirst
  | flowSequenceEntry
  | flowPairKey
  | flowPairValue
  | flowPairEnd
  | flowMappingFirst
  | flowMappingKey
  | flowMappingValue
  | flowMappingEmptyValue
deriving DecidableEq

/-- The handles of tags with what they stand for. -/
abbrev Handles := List (String × String)

def coreTag : String := "tag:yaml.org,2002:"

/-- The handles that every document has. -/
def defaultHandles : Handles := [("!", "!"), ("!!", coreTag)]

/-- Directives, and the tokens after them. -/
def readDirectives : Bool → Handles → List Token → Option (Handles × List Token)
  | seen, handles, .versionDirective major minor :: rest =>
    if seen || major ≠ 1 || (minor ≠ 1 && minor ≠ 2) then none
    else readDirectives true handles rest
  | seen, handles, .tagDirective handle head :: rest =>
    if (handles.lookup handle).isSome then none
    else readDirectives seen ((handle, head) :: handles) rest
  | _, handles, tokens => some (handles, tokens)

/-- The full text of a tag. -/
def expandTag (handles : Handles) (handle suffix : String) : Option String :=
  if handle.isEmpty then some suffix
  else ((handles ++ defaultHandles).lookup handle).map fun head => head ++ suffix

/-- The marks before a node, in either order, and the tokens after them. -/
def readMarks (handles : Handles) : List Token → Option (Marks × List Token)
  | .anchor a :: .tag h s :: rest =>
    (expandTag handles h s).map fun t => (⟨some a, some t⟩, rest)
  | .anchor a :: rest => some (⟨some a, none⟩, rest)
  | .tag h s :: .anchor a :: rest =>
    (expandTag handles h s).map fun t => (⟨some a, some t⟩, rest)
  | .tag h s :: rest => (expandTag handles h s).map fun t => (⟨none, some t⟩, rest)
  | rest => some (⟨none, none⟩, rest)

def empty : Event := .scalar ⟨none, none⟩ "" .plain

/-- One step: the nodes it gives, the states it leaves and the tokens it leaves. -/
abbrev Step := Option (List Event × List State × List Token)

/-- The node that starts here; `block` where block collections may, `indentless` where a
sequence may start without a step to the right. -/
def node (handles : Handles) (block indentless : Bool) (states : List State)
    (tokens : List Token) : Step :=
  match tokens with
  | .alias name :: rest => some ([.alias name], states, rest)
  | _ =>
    match readMarks handles tokens with
    | none => none
    | some (marks, rest) =>
      let marked := marks.anchor.isSome || marks.tag.isSome
      match rest with
      | .scalar text style :: rest' => some ([.scalar marks text style], states, rest')
      | .flowSequenceStart :: rest' =>
        some ([.sequenceStart marks], .flowSequenceFirst :: states, rest')
      | .flowMappingStart :: rest' =>
        some ([.mappingStart marks], .flowMappingFirst :: states, rest')
      | .blockEntry :: _ =>
        if indentless then some ([.sequenceStart marks], .indentlessEntry :: states, rest)
        else if marked then some ([.scalar marks "" .plain], states, rest)
        else none
      | .blockSequenceStart :: rest' =>
        if block then some ([.sequenceStart marks], .blockSequenceEntry :: states, rest')
        else if marked then some ([.scalar marks "" .plain], states, rest)
        else none
      | .blockMappingStart :: rest' =>
        if block then some ([.mappingStart marks], .blockMappingKey :: states, rest')
        else if marked then some ([.scalar marks "" .plain], states, rest)
        else none
      | _ => if marked then some ([.scalar marks "" .plain], states, rest) else none

/-- A node, or an empty one before a token in `stops`. -/
def nodeOrEmpty (handles : Handles) (block indentless : Bool) (stops : List Token)
    (states : List State) (tokens : List Token) : Step :=
  if (tokens.head?.map stops.contains).getD true then some ([empty], states, tokens)
  else node handles block indentless states tokens

def flowSequenceItem (handles : Handles) (below : List State) (tokens : List Token) : Step :=
  match tokens with
  | .key :: rest => some ([.mappingStart ⟨none, none⟩], .flowPairKey :: below, rest)
  | .flowSequenceEnd :: rest => some ([.sequenceEnd], below, rest)
  | _ => node handles false false (.flowSequenceEntry :: below) tokens

def flowMappingItem (handles : Handles) (below : List State) (tokens : List Token) : Step :=
  match tokens with
  | .key :: rest =>
    nodeOrEmpty handles false false [.value, .flowEntry, .flowMappingEnd]
      (.flowMappingValue :: below) rest
  | .flowMappingEnd :: rest => some ([.mappingEnd], below, rest)
  | _ => node handles false false (.flowMappingEmptyValue :: below) tokens

/-- What a state makes of the tokens before it; `below` are the states to come back to. -/
def step (handles : Handles) (state : State) (below : List State) (tokens : List Token) :
    Step :=
  match state with
  | .documentEnd => none
  | .blockSequenceEntry =>
    match tokens with
    | .blockEntry :: rest =>
      nodeOrEmpty handles true false [.blockEntry, .blockEnd] (.blockSequenceEntry :: below) rest
    | .blockEnd :: rest => some ([.sequenceEnd], below, rest)
    | _ => none
  | .indentlessEntry =>
    match tokens with
    | .blockEntry :: rest =>
      nodeOrEmpty handles true false [.blockEntry, .key, .value, .blockEnd]
        (.indentlessEntry :: below) rest
    | _ => some ([.sequenceEnd], below, tokens)
  | .blockMappingKey =>
    match tokens with
    | .key :: rest =>
      nodeOrEmpty handles true true [.key, .value, .blockEnd] (.blockMappingValue :: below) rest
    | .blockEnd :: rest => some ([.mappingEnd], below, rest)
    | _ => none
  | .blockMappingValue =>
    match tokens with
    | .value :: rest =>
      nodeOrEmpty handles true true [.key, .value, .blockEnd] (.blockMappingKey :: below) rest
    | _ => some ([empty], .blockMappingKey :: below, tokens)
  | .flowSequenceFirst => flowSequenceItem handles below tokens
  | .flowSequenceEntry =>
    match tokens with
    | .flowSequenceEnd :: rest => some ([.sequenceEnd], below, rest)
    | .flowEntry :: rest => flowSequenceItem handles below rest
    | _ => none
  | .flowPairKey =>
    match tokens with
    | .value :: rest | .flowEntry :: rest | .flowSequenceEnd :: rest =>
      some ([empty], .flowPairValue :: below, rest)
    | _ => node handles false false (.flowPairValue :: below) tokens
  | .flowPairValue =>
    match tokens with
    | .value :: rest =>
      nodeOrEmpty handles false false [.flowEntry, .flowSequenceEnd] (.flowPairEnd :: below) rest
    | _ => some ([empty], .flowPairEnd :: below, tokens)
  | .flowPairEnd => some ([.mappingEnd], .flowSequenceEntry :: below, tokens)
  | .flowMappingFirst => flowMappingItem handles below tokens
  | .flowMappingKey =>
    match tokens with
    | .flowMappingEnd :: rest => some ([.mappingEnd], below, rest)
    | .flowEntry :: rest => flowMappingItem handles below rest
    | _ => none
  | .flowMappingValue =>
    match tokens with
    | .value :: rest =>
      nodeOrEmpty handles false false [.flowEntry, .flowMappingEnd] (.flowMappingKey :: below) rest
    | _ => some ([empty], .flowMappingKey :: below, tokens)
  | .flowMappingEmptyValue => some ([empty], .flowMappingKey :: below, tokens)

/-- The nodes of a document, the last one first, and the tokens after it. -/
def run (handles : Handles) : Nat → List Event → List State → List Token →
    Option (List Event × List Token)
  | 0, _, _, _ => none
  | _, done, [], tokens => some (done, tokens)
  | _, done, .documentEnd :: _, tokens => some (done, tokens)
  | fuel + 1, done, state :: below, tokens =>
    match step handles state below tokens with
    | none => none
    | some (events, states, tokens) => run handles fuel (events.reverse ++ done) states tokens

/-- The nodes of the one document of a stream; none in a stream without documents. -/
def ofTokens? (tokens : List Token) : Option (List Event) := do
  let begin (explicit : Bool) (handles : Handles) (tokens : List Token) : Step :=
    match explicit, tokens with
    | true, .versionDirective _ _ :: _ | true, .tagDirective _ _ :: _
    | true, .documentStart :: _ | true, .documentEnd :: _ | true, .streamEnd :: _
    | true, [] => some ([empty], [.documentEnd], tokens)
    | _, _ => node handles true false [.documentEnd] tokens
  let document (explicit : Bool) (handles : Handles) (tokens : List Token) :
      Option (List Event) := do
    let (events, states, tokens) ← begin explicit handles tokens
    let (done, rest) ← run handles (4 * tokens.length + 8) events.reverse states tokens
    match rest.dropWhile (· = .documentEnd) with
    | [.streamEnd] => some done.reverse
    | _ => none
  match tokens with
  | [.streamEnd] => some []
  | .documentStart :: rest => document true [] rest
  | .versionDirective _ _ :: _ | .tagDirective _ _ :: _ =>
    match ← readDirectives false [] tokens with
    | (handles, .documentStart :: rest) => document true handles rest
    | _ => none
  | _ => document false [] tokens

end Event

end ApiForge.Yaml
