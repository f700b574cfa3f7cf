import LayeredConfig.Yaml.Event
import LayeredConfig.Yaml.Tag

/-!
# YAML nodes

A document is a graph of nodes: an alias leads to a node that stands elsewhere too, and a collection may even
hold itself. The nodes of a document are numbered in the order in which they start, and collections hold numbers
(`Graph`). Names are given once in a document, and an alias comes after the node that it means.
-/

namespace LayeredConfig.Yaml

/-- What a node holds. -/
inductive Content
  | scalar (t : Text)
  /-- Nodes in order. -/
  | sequence (items : List Nat)
  /-- Nodes for keys and values in order. -/
  | mapping (pairs : List (Nat × Nat))

structure Node where
  tag : Tag
  content : Content

instance : Inhabited Node := ⟨⟨.null, .scalar []⟩⟩

/-- The nodes of a document. -/
structure Graph where
  nodes : Array Node
  /-- The node that the document is. -/
  root : Nat

/-- The state of the reading of a document. -/
structure Composer where
  events : List Event
  /-- What follows the last event. -/
  failure : Failure
  nodes : Array Node
  /-- The nodes that were given names. -/
  anchors : List (Text × Nat)

namespace Composer

def peek (s : Composer) : Except Failure Event :=
  match s.events with
  | [] => .error s.failure
  | e :: _ => .ok e

def pop (s : Composer) : Except Failure (Event × Composer) :=
  match s.events with
  | [] => .error s.failure
  | e :: rest => .ok (e, { s with events := rest })

/-- Adds a node and gives it a name, if it has one. -/
def add (s : Composer) (anchor : Option Text) (n : Node) : Nat × Composer :=
  let number := s.nodes.size
  let anchors :=
    match anchor with
    | none => s.anchors
    | some name => (name, number) :: s.anchors
  (number, { s with nodes := s.nodes.push n, anchors })

/-- Whether a name was given before. -/
def isTaken (s : Composer) (anchor : Option Text) : Bool :=
  match anchor with
  | none => false
  | some name => (s.anchors.lookup name).isSome

/-- The tag of a node, which is `own` if there is one. -/
def tagOf (own : Option Text) (byDefault : Tag) : Tag :=
  match own with
  | none => byDefault
  | some t => Tag.ofText t

mutual

/-- Reads a node. `fuel` bounds the number of events. -/
def node : Nat → Composer → Except Failure (Nat × Composer)
  | 0, s => .error s.failure
  | fuel + 1, s => do
    let (e, rest) ← s.pop
    match e with
    | .alias name =>
      match s.anchors.lookup name with
      | some number => return (number, rest)
      | none => throw .malformed
    | .scalar anchor tag plain text =>
      if s.isTaken anchor then throw .malformed
      let byDefault := if plain then Tag.ofPlain text else .text
      return rest.add anchor ⟨tagOf tag byDefault, .scalar text⟩
    | .sequenceStart anchor tag =>
      if s.isTaken anchor then throw .malformed
      let tag := tagOf tag .sequence
      let (number, rest) := rest.add anchor ⟨tag, .sequence []⟩
      let (items, rest) ← items fuel rest
      return (number, { rest with nodes := rest.nodes.set! number ⟨tag, .sequence items⟩ })
    | .mappingStart anchor tag =>
      if s.isTaken anchor then throw .malformed
      let tag := tagOf tag .mapping
      let (number, rest) := rest.add anchor ⟨tag, .mapping []⟩
      let (pairs, rest) ← pairs fuel rest
      return (number, { rest with nodes := rest.nodes.set! number ⟨tag, .mapping pairs⟩ })
    | _ => throw .malformed

def items : Nat → Composer → Except Failure (List Nat × Composer)
  | 0, s => .error s.failure
  | fuel + 1, s => do
    match ← s.peek with
    | .sequenceEnd =>
      let (_, s) ← s.pop
      return ([], s)
    | _ =>
      let (item, s) ← node fuel s
      let (rest, s) ← items fuel s
      return (item :: rest, s)

/-- Reads the keys and values of a mapping and its end. -/
def pairs : Nat → Composer → Except Failure (List (Nat × Nat) × Composer)
  | 0, s => .error s.failure
  | fuel + 1, s => do
    match ← s.peek with
    | .mappingEnd =>
      let (_, s) ← s.pop
      return ([], s)
    | _ =>
      let (key, s) ← node fuel s
      let (value, s) ← node fuel s
      let (rest, s) ← pairs fuel s
      return ((key, value) :: rest, s)

end

end Composer

/-- The one document of a text, if it has one. A second document is refused. -/
def Graph.ofEvents (e : EventStream) : Except Failure (Option Graph) := do
  let s : Composer := ⟨e.events, e.failure.getD .malformed, #[], []⟩
  let (_, s) ← s.pop
  match ← s.peek with
  | .streamEnd => return none
  | _ =>
    let (_, s) ← s.pop
    let (root, s) ← Composer.node (e.events.length + 1) s
    let (_, s) ← s.pop
    match ← s.peek with
    | .streamEnd => return some ⟨s.nodes, root⟩
    | _ => throw .malformed

end LayeredConfig.Yaml
