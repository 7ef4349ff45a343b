import ApiForge.Yaml.Event
import ApiForge.Yaml.Scalar
/-
# ApiForge.Yaml.Value -- documents as untyped values

Nodes become values.  An alias stands for what carries its anchor, so the nodes are
kept by number and an alias goes back to one of them.  Depth and repetition are bounded,
which also ends an alias that leads to itself.
-/

namespace ApiForge.Yaml

set_option autoImplicit false

/-- How deep collections may be nested. -/
def nestingLimit : Nat := 128

/-- The nodes of a document, with the numbers of anchored ones. -/
structure Document where
  events : Array Event
  /-- The anchor that an alias means, by the place of the alias. -/
  aliases : List (Nat × Nat)
  /-- The node of every anchor number; the last one given counts. -/
  anchors : List (Nat × Nat)

namespace Document

def marksOf : Event → Option Marks
  | .scalar marks _ _ => some marks
  | .sequenceStart marks => some marks
  | .mappingStart marks => some marks
  | _ => none

/-- Number the anchors by how many names were known before; an alias takes the number
that its name has at that place. -/
def ofEvents (events : List Event) : Option Document := do
  let step (acc : Dict Nat × List (Nat × Nat) × List (Nat × Nat)) (e : Event × Nat) :
      Option (Dict Nat × List (Nat × Nat) × List (Nat × Nat)) :=
    let (names, aliases, anchors) := acc
    match e.1 with
    | .alias name => (names.get? name).map fun id => (names, (e.2, id) :: aliases, anchors)
    | event =>
      match (marksOf event).bind Marks.anchor with
      | some name => some (names.insert name names.size, aliases, (names.size, e.2) :: anchors)
      | none => some acc
  let (_, aliases, anchors) ← events.zipIdx.foldlM step (.empty, [], [])
  some ⟨events.toArray, aliases, anchors⟩

/-- The place that the alias at a place leads to. -/
def target? (d : Document) (place : Nat) : Option Nat :=
  (d.aliases.lookup place).bind fun id => d.anchors.lookup id

/-- How often aliases may be followed. -/
def jumpLimit (d : Document) : Nat := d.events.size * 100

/-- The text of the key at a place, and how many jumps are left. -/
def keyText (d : Document) : Nat → Nat → Nat → Option (String × Nat)
  | 0, _, _ => none
  | fuel + 1, jumps, place =>
    match d.events[place]? with
    | some (.scalar _ text _) => some (text, jumps)
    | some (.alias _) =>
      match jumps, d.target? place with
      | jumps + 1, some place' => keyText d fuel jumps place'
      | _, _ => none
    | _ => none

mutual

/-- The value at a place, how many jumps are left, and the place after it. -/
def valueAt (d : Document) : Nat → Nat → Nat → Nat → Option (Json × Nat × Nat)
  | 0, _, _, _ => none
  | fuel + 1, depth, jumps, place =>
    match d.events[place]? with
    | some (.alias _) =>
      match jumps, d.target? place with
      | jumps + 1, some place' =>
        (valueAt d fuel depth jumps place').map fun r => (r.1, r.2.1, place + 1)
      | _, _ => none
    | some (.scalar marks text style) =>
      (resolveScalar marks.tag text style).map fun j => (j, jumps, place + 1)
    | some (.sequenceStart marks) =>
      if (marks.tag.map isLocalTag).getD false then none
      else
        match depth with
        | 0 => none
        | depth + 1 =>
          (itemsAt d fuel depth jumps [] (place + 1)).map fun r => (.arr r.1, r.2)
    | some (.mappingStart marks) =>
      if (marks.tag.map isLocalTag).getD false then none
      else
        match depth with
        | 0 => none
        | depth + 1 =>
          (fieldsAt d fuel depth jumps [] (place + 1)).map fun r => (.object r.1, r.2)
    | _ => none

def itemsAt (d : Document) : Nat → Nat → Nat → List Json → Nat →
    Option (List Json × Nat × Nat)
  | 0, _, _, _, _ => none
  | fuel + 1, depth, jumps, done, place =>
    match d.events[place]? with
    | some .sequenceEnd => some (done.reverse, jumps, place + 1)
    | _ =>
      match valueAt d fuel depth jumps place with
      | some (j, jumps, place) => itemsAt d fuel depth jumps (j :: done) place
      | none => none

def fieldsAt (d : Document) : Nat → Nat → Nat → List (String × Json) → Nat →
    Option (List (String × Json) × Nat × Nat)
  | 0, _, _, _, _ => none
  | fuel + 1, depth, jumps, done, place =>
    match d.events[place]? with
    | some .mappingEnd => some (done.reverse, jumps, place + 1)
    | _ =>
      match keyText d (jumps + 1) jumps place with
      | none => none
      | some (name, jumps) =>
        match valueAt d fuel depth jumps (place + 1) with
        | some (j, jumps, place) => fieldsAt d fuel depth jumps ((name, j) :: done) place
        | none => none

end

/-- Enough for every walk: between two jumps no node is passed twice. -/
def walkLimit (d : Document) : Nat := (d.events.size + 2) * (d.jumpLimit + 2)

def value? (d : Document) : Option Json :=
  (d.valueAt d.walkLimit nestingLimit d.jumpLimit 0).map Prod.fst

end Document

/-- Read a text of one document; a text without any is `null`. -/
def parse (text : String) : Option Json :=
  match (Token.list text).bind Event.ofTokens? with
  | none => none
  | some [] => some .null
  | some events => (Document.ofEvents events).bind Document.value?

end ApiForge.Yaml
