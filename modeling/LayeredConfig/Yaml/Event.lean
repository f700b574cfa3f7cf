import LayeredConfig.Yaml.Token

/-!
# YAML events

The nesting of a text, as a sequence: documents and collections start and end, scalars and aliases stand
between. The grammar is a stack machine. A `Place` is a place in the grammar; each step looks at the next tokens,
gives one event, and says which place comes next. Where a node is left out, the grammar puts an empty plain
scalar, so each key has a value and each item a node.
-/

namespace LayeredConfig.Yaml

/-- An event. A node without a tag of its own has none here. -/
inductive Event
  | streamStart
  | streamEnd
  | documentStart
  | documentEnd
  /-- A node that is meant again. -/
  | alias (name : Text)
  /-- A scalar; `plain` if its text decides what it is. -/
  | scalar (anchor tag : Option Text) (plain : Bool) (text : Text)
  | sequenceStart (anchor tag : Option Text)
  | mappingStart (anchor tag : Option Text)
  | sequenceEnd
  | mappingEnd
  deriving DecidableEq

/-- The events of a text, as far as it can be read. -/
structure EventStream where
  events : List Event
  /-- Why reading stopped before the end, if it did. -/
  failure : Option Failure

/-- A place in the grammar. -/
inductive Place
  /-- Before the text. -/
  | streamStart
  /-- Before the first document, which needs no mark. -/
  | firstDocument
  /-- Before a document, which needs a mark. -/
  | document
  /-- Behind the node of a document. -/
  | documentEnd
  /-- Behind the mark of a document. -/
  | documentContent
  | node
  /-- Before an item of a block sequence. -/
  | blockItem
  /-- Before an item of a sequence that is indented no deeper than its key. -/
  | indentlessItem
  /-- Before a key of a block mapping. -/
  | blockKey
  /-- Before a value of a block mapping. -/
  | blockValue
  /-- Before an item of a flow sequence. -/
  | flowItem (first : Bool)
  /-- Before the key of a single pair within a flow sequence. -/
  | pairKey
  /-- Before the value of such a pair. -/
  | pairValue
  /-- Behind the value of such a pair. -/
  | pairEnd
  /-- Before a key of a flow mapping. -/
  | flowKey (first : Bool)
  /-- Before a value of a flow mapping. -/
  | flowValue
  /-- Behind a key of a flow mapping that has no value. -/
  | flowEmptyValue
  /-- Behind the text. -/
  | finished

structure Grammar where
  tokens : List Token
  /-- What follows the last token. -/
  failure : Failure
  place : Place
  /-- The places to come back to, innermost first. -/
  stack : List Place
  /-- The handles of the current document and the beginnings of tags that they stand for. -/
  handles : List (Text × Text)

namespace Grammar

/-- The handles that need no directive. -/
def defaultHandles : List (Text × Text) :=
  [("!", "!"), ("!!", "tag:yaml.org,2002:")]

def peek (g : Grammar) : Except Failure Token :=
  match g.tokens with
  | [] => .error g.failure
  | t :: _ => .ok t

/-- The machine behind the next token. -/
def advance (g : Grammar) : Grammar :=
  { g with tokens := g.tokens.tail }

/-- An event after which the machine goes to `place`. -/
def go (g : Grammar) (place : Place) (e : Event) : Except Failure (Event × Grammar) :=
  .ok (e, { g with place })

/-- An event after which the machine comes back to the innermost place. -/
def back (g : Grammar) (e : Event) : Except Failure (Event × Grammar) :=
  match g.stack with
  | [] => .error .malformed
  | place :: stack => .ok (e, { g with place, stack })

/-- The machine that will come back to `place`. -/
def push (g : Grammar) (place : Place) : Grammar :=
  { g with stack := place :: g.stack }

/-- The node that stands where none is written. -/
def emptyNode : Event := .scalar none none true []

def resolveTag (g : Grammar) (handle : Option Text) (suffix : Text) : Except Failure Text :=
  match handle with
  | none => .ok suffix
  | some h =>
    match g.handles.lookup h with
    | some start => .ok (start ++ suffix)
    | none => .error .malformed

/-- The anchor and the tag before a node, in either order. -/
def properties (g : Grammar) : Except Failure (Option Text × Option (Option Text × Text) × Grammar) := do
  match ← g.peek with
  | .anchor name =>
    let g := g.advance
    match ← g.peek with
    | .tag handle suffix => return (some name, some (handle, suffix), g.advance)
    | _ => return (some name, none, g)
  | .tag handle suffix =>
    let g := g.advance
    match ← g.peek with
    | .anchor name => return (some name, some (handle, suffix), g.advance)
    | _ => return (none, some (handle, suffix), g)
  | _ => return (none, none, g)

/-- Whether a tag asks for what the text decides, like no tag: the tag `!` does. -/
def isOpenTag (tag : Option Text) : Bool :=
  tag = none || tag = some ("!" : Text)

/-- A node that is left out, which needs an anchor or a tag. -/
def absent (g : Grammar) (anchor tag : Option Text) : Except Failure (Event × Grammar) :=
  if anchor = none && tag = none then .error .malformed
  else g.back (.scalar anchor (if isOpenTag tag then none else tag) (isOpenTag tag) [])

/-- The start of a node: an alias, a scalar, or the start of a collection. A node with an anchor or a tag may be
left out. Block collections are admitted if `block`, sequences without indentation if `indentless`. -/
def node (g : Grammar) (block indentless : Bool) : Except Failure (Event × Grammar) := do
  match ← g.peek with
  | .alias name => g.advance.back (.alias name)
  | _ =>
    let (anchor, written, g) ← g.properties
    let tag ←
      match written with
      | none => pure none
      | some (handle, suffix) => (g.resolveTag handle suffix).map some
    let ownTag := if isOpenTag tag then none else tag
    match ← g.peek with
    | .blockEntry =>
      if indentless then g.go .indentlessItem (.sequenceStart anchor ownTag)
      else g.absent anchor tag
    | .scalar text plain =>
      let decides := (plain && tag = none) || tag = some ("!" : Text)
      g.advance.back (.scalar anchor ownTag decides text)
    | .flowSequenceStart => g.advance.go (.flowItem true) (.sequenceStart anchor ownTag)
    | .flowMappingStart => g.advance.go (.flowKey true) (.mappingStart anchor ownTag)
    | .blockSequenceStart =>
      if block then g.advance.go .blockItem (.sequenceStart anchor ownTag)
      else g.absent anchor tag
    | .blockMappingStart =>
      if block then g.advance.go .blockKey (.mappingStart anchor ownTag)
      else g.absent anchor tag
    | _ => g.absent anchor tag

/-- Reads the directives before a document. -/
def directives : List Token → Bool → List (Text × Text) → Except Failure (List Token × List (Text × Text))
  | .directive (.version major _) :: rest, seen, handles =>
    if seen || major ≠ 1 then .error .malformed else directives rest true handles
  | .directive (.tag handle start) :: rest, seen, handles =>
    if (handles.lookup handle).isSome then .error .malformed
    else directives rest seen ((handle, start) :: handles)
  | .directive .reserved :: rest, seen, handles => directives rest seen handles
  | tokens, _, handles => .ok (tokens, handles ++ defaultHandles)

/-- The start of a document with a mark, or the end of the text. -/
def document (g : Grammar) : Except Failure (Event × Grammar) := do
  let g := { g with tokens := g.tokens.dropWhile (· = Token.documentEnd) }
  match ← g.peek with
  | .streamEnd => g.advance.go .finished .streamEnd
  | _ =>
    let (tokens, handles) ← directives g.tokens false []
    let g := { g with tokens, handles }
    match ← g.peek with
    | .documentStart => (g.advance.push .documentEnd).go .documentContent .documentStart
    | _ => .error .malformed

/-- An item, a key or a value that is left out, before which the machine comes to `place`, or the node that is
written there. -/
def nodeUnless (g : Grammar) (isAbsent : Bool) (place : Place) (block indentless : Bool) :
    Except Failure (Event × Grammar) :=
  if isAbsent then g.go place emptyNode else (g.push place).node block indentless

def step (g : Grammar) : Except Failure (Event × Grammar) := do
  let t ← g.peek
  match g.place with
  | .streamStart => g.advance.go .firstDocument .streamStart
  | .firstDocument =>
    match t with
    | .directive _ | .documentStart | .streamEnd => g.document
    | _ => ({ g with handles := defaultHandles }.push .documentEnd).go .node .documentStart
  | .document => g.document
  | .documentEnd =>
    match t with
    | .documentEnd => g.advance.go .document .documentEnd
    | _ => g.go .document .documentEnd
  | .documentContent =>
    match t with
    | .directive _ | .documentStart | .documentEnd | .streamEnd => g.back emptyNode
    | _ => g.node true false
  | .node => g.node true false
  | .blockItem =>
    match t with
    | .blockEntry =>
      let g := g.advance
      let t ← g.peek
      g.nodeUnless (t = .blockEntry || t = .blockEnd) .blockItem true false
    | .blockEnd => g.advance.back .sequenceEnd
    | _ => .error .malformed
  | .indentlessItem =>
    match t with
    | .blockEntry =>
      let g := g.advance
      let t ← g.peek
      g.nodeUnless (t = .blockEntry || t = .key || t = .value || t = .blockEnd) .indentlessItem true false
    | _ => g.back .sequenceEnd
  | .blockKey =>
    match t with
    | .key =>
      let g := g.advance
      let t ← g.peek
      g.nodeUnless (t = .key || t = .value || t = .blockEnd) .blockValue true true
    | .blockEnd => g.advance.back .mappingEnd
    | _ => .error .malformed
  | .blockValue =>
    match t with
    | .value =>
      let g := g.advance
      let t ← g.peek
      g.nodeUnless (t = .key || t = .value || t = .blockEnd) .blockKey true true
    | _ => g.go .blockKey emptyNode
  | .flowItem first =>
    if t = .flowSequenceEnd then g.advance.back .sequenceEnd
    else
      if !first && t ≠ .flowEntry then throw .malformed
      let g := if first then g else g.advance
      match ← g.peek with
      | .key => g.go .pairKey (.mappingStart none none)
      | .flowSequenceEnd => g.advance.back .sequenceEnd
      | _ => (g.push (.flowItem false)).node false false
  | .pairKey =>
    let g := g.advance
    let t ← g.peek
    g.nodeUnless (t = .value || t = .flowEntry || t = .flowSequenceEnd) .pairValue false false
  | .pairValue =>
    match t with
    | .value =>
      let g := g.advance
      let t ← g.peek
      g.nodeUnless (t = .flowEntry || t = .flowSequenceEnd) .pairEnd false false
    | _ => g.go .pairEnd emptyNode
  | .pairEnd => g.go (.flowItem false) .mappingEnd
  | .flowKey first =>
    if t = .flowMappingEnd then g.advance.back .mappingEnd
    else
      if !first && t ≠ .flowEntry then throw .malformed
      let g := if first then g else g.advance
      match ← g.peek with
      | .key =>
        let g := g.advance
        let t ← g.peek
        g.nodeUnless (t = .value || t = .flowEntry || t = .flowMappingEnd) .flowValue false false
      | .flowMappingEnd => g.advance.back .mappingEnd
      | _ => (g.push .flowEmptyValue).node false false
  | .flowValue =>
    match t with
    | .value =>
      let g := g.advance
      let t ← g.peek
      g.nodeUnless (t = .flowEntry || t = .flowMappingEnd) (.flowKey false) false false
    | _ => g.go (.flowKey false) emptyNode
  | .flowEmptyValue => g.go (.flowKey false) emptyNode
  | .finished => .error .malformed

/-- The events from a state of the machine on. Between two tokens there are three events at most that take no
token. -/
def run : Nat → Grammar → EventStream
  | 0, _ => ⟨[], some .malformed⟩
  | fuel + 1, g =>
    match g.step with
    | .error e => ⟨[], some e⟩
    | .ok (e, g) =>
      match g.place with
      | .finished => ⟨[e], none⟩
      | _ =>
        let rest := run fuel g
        ⟨e :: rest.events, rest.failure⟩

end Grammar

def EventStream.ofTokens (s : TokenStream) : EventStream :=
  Grammar.run (4 * s.tokens.length + 8)
    ⟨s.tokens, s.failure.getD .malformed, .streamStart, [], Grammar.defaultHandles⟩

end LayeredConfig.Yaml
