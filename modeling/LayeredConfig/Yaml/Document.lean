import LayeredConfig.Value
import LayeredConfig.Yaml.Base64
import LayeredConfig.Yaml.Node
import LayeredConfig.Yaml.Number
import LayeredConfig.Yaml.Token.Lexer

/-!
# The value of a YAML document

`Yaml.read` reads a text as one document and gives its value, or none where the text holds no document.

The value is built level by level: a collection is made empty first and filled when its turn comes, after all
collections that were met before it. So a collection can hold itself, and of several faults in a document the
one that lies on the highest level is reported. A map that holds itself is built, but it has no value that a
configuration could be made of (`Builder.value`). Before a mapping is filled, the mappings that it merges in are
put in front of its own pairs (`Builder.flatten`).
-/

namespace LayeredConfig.Yaml

/-- Something built: an atom, or a collection by its number. The atom that a scalar node was converted to on its
own carries the number of the node, since what is not a number is equal to nothing but itself. -/
inductive Built
  | atom (a : Atom) (origin : Option Nat)
  | collection (number : Nat)

/-- A collection while the document is built. -/
inductive Collection
  | list (items : List Built)
  | map (entries : List ((Atom × Option Nat) × Built))
  | set
  | pairs (count : Nat)

/-- A collection that is to be filled from a node. -/
structure Pending where
  node : Nat
  /-- The tag that it was taken for. -/
  tag : Tag
  collection : Nat

structure Builder where
  /-- The nodes; merging changes them. -/
  nodes : Array Node
  /-- What was built from each node so far. -/
  built : Array (Option Built)
  collections : Array Collection
  /-- The collections to be filled, last one first. -/
  pending : List Pending

namespace Builder

def node (s : Builder) (number : Nat) : Node :=
  s.nodes.getD number default

def pairCount (s : Builder) : Nat :=
  s.nodes.foldl (fun n node =>
    match node.content with
    | .mapping pairs => n + pairs.length
    | _ => n) s.nodes.size

/-- The text of a scalar node. A mapping with a default value stands for that value. -/
def scalarText (s : Builder) : Nat → Nat → Except Failure Text
  | 0, _ => .error .malformed
  | fuel + 1, number =>
    match (s.node number).content with
    | .scalar t => .ok t
    | .mapping pairs =>
      match pairs.find? fun (key, _) => (s.node key).tag = .default with
      | some (_, value) => scalarText s fuel value
      | none => .error .malformed
    | .sequence _ => .error .malformed

/-- Replaces what a node holds. -/
def setContent (s : Builder) (number : Nat) (content : Content) : Builder :=
  { s with nodes := s.nodes.modify number fun n => { n with content } }

def pairsOf? (s : Builder) (number : Nat) : Option (List (Nat × Nat)) :=
  match (s.node number).content with
  | .mapping pairs => some pairs
  | _ => none

mutual

/-- Merges into a mapping what its merge keys name: goes on with the pair at `index`, with `merged` collected so
far. A default key becomes a text. -/
def flattenFrom : Nat → Nat → Nat → List (Nat × Nat) → Builder → Except Failure Builder
  | 0, _, _, _, _ => .error .malformed
  | fuel + 1, number, index, merged, s =>
    let pairs := (s.pairsOf? number).getD []
    match pairs[index]? with
    | none => .ok (if merged.isEmpty then s else s.setContent number (.mapping (merged ++ pairs)))
    | some (key, value) =>
      match (s.node key).tag with
      | .merge =>
        let s := s.setContent number (.mapping (pairs.eraseIdx index))
        match (s.node value).content with
        | .mapping _ => do
          let s ← flattenFrom fuel value 0 [] s
          flattenFrom fuel number index (merged ++ (s.pairsOf? value).getD []) s
        | .sequence parts => do
          let (groups, s) ← flattenAll fuel parts s
          flattenFrom fuel number index (merged ++ groups.reverse.flatten) s
        | .scalar _ => .error .malformed
      | .default =>
        let s := { s with nodes := s.nodes.modify key fun n => { n with tag := .text } }
        flattenFrom fuel number (index + 1) merged s
      | _ => flattenFrom fuel number (index + 1) merged s

/-- Merges into each of several mappings, and gives their pairs. -/
def flattenAll : Nat → List Nat → Builder → Except Failure (List (List (Nat × Nat)) × Builder)
  | 0, _, _ => .error .malformed
  | _ + 1, [], s => .ok ([], s)
  | fuel + 1, part :: rest, s =>
    match (s.node part).content with
    | .mapping _ => do
      let s ← flattenFrom fuel part 0 [] s
      let pairs := (s.pairsOf? part).getD []
      let (groups, s) ← flattenAll fuel rest s
      return (pairs :: groups, s)
    | _ => .error .malformed

end

/-- Merges into a mapping what its merge keys name. -/
def flatten (s : Builder) (number : Nat) : Except Failure Builder :=
  flattenFrom (4 * s.pairCount + 16) number 0 [] s

/-- Notes what was built from a node. -/
def note (s : Builder) (number : Nat) (b : Built) : Built × Builder :=
  (b, { s with built := s.built.set! number (some b) })

/-- Makes an empty collection for a node, to be filled later. -/
def postpone (s : Builder) (number : Nat) (tag : Tag) (c : Collection) : Built × Builder :=
  let collection := s.collections.size
  let s := { s with
    collections := s.collections.push c
    pending := ⟨number, tag, collection⟩ :: s.pending }
  s.note number (.collection collection)

/-- The point in time or the day that the parts of a timestamp name. -/
def timestampAtom (t : Timestamp) : Except CalendarError Atom := do
  let year := Timestamp.number t.year
  let month := Timestamp.number t.month
  let day := Timestamp.number t.day
  match t.time with
  | none => return .date (← Date.of year month day)
  | some clock =>
    return .time (← DateTime.of year month day (Timestamp.number clock.hour)
      (Timestamp.number clock.minute) (Timestamp.number clock.second)
      (Timestamp.microseconds clock.fraction) clock.offset)

/-- The truth value that a word names, in any case. -/
def truth? (word : Text) : Option Bool :=
  if [("yes" : Text), "true", "on"].contains word then some true
  else if [("no" : Text), "false", "off"].contains word then some false
  else none

/-- The atom that a scalar with the given tag and text stands for. -/
def convert (tag : Tag) (text : Text) : Except Failure Atom :=
  match tag with
  | .null => .ok .null
  | .bool =>
    match truth? text.lowerCase with
    | some b => .ok (.bool b)
    | none => .error (.scalar (.bool text.lowerCase))
  | .int =>
    match readInteger text with
    | .ok n => .ok (.int n)
    | .error e => .error (.scalar e)
  | .float =>
    match readFloat text with
    | .ok x => .ok (.float x)
    | .error e => .error (.scalar e)
  | .binary =>
    match Base64.read? text with
    | some bytes => .ok (.bytes bytes)
    | none => .error .malformed
  | .timestamp =>
    match Timestamp.read? (Tag.chomp text) with
    | none => .error (.scalar .timestamp)
    | some t =>
      match timestampAtom t with
      | .ok a => .ok a
      | .error e => .error (.scalar (.calendar e))
  | .text => .ok (.text text)
  | _ => .error .malformed

/-- Whether the text of a floating point number is the plain word for what is not a number; all such words name
one and the same. -/
def isSharedNaN (text : Text) : Bool :=
  (splitSign (text.without '_').lowerCase).2 = (".nan" : Text)

def buildAtom (s : Builder) (number : Nat) (tag : Tag) : Except Failure (Built × Builder) := do
  let text ← s.scalarText (s.nodes.size + 1) number
  match tag, (s.node number).content with
  | .timestamp, .mapping _ => throw (.scalar .structuredTimestamp)
  | _, _ =>
    let a ← convert tag text
    let origin := if a = .float .nan && !isSharedNaN text then some number else none
    return s.note number (.atom a origin)

/-- Builds what a node stands for; a collection stays empty for now. -/
def build (s : Builder) (number : Nat) : Except Failure (Built × Builder) :=
  match s.built.getD number none with
  | some b => .ok (b, s)
  | none =>
    let tag := (s.node number).tag
    match tag with
    | .sequence => .ok (s.postpone number tag (.list []))
    | .mapping => .ok (s.postpone number tag (.map []))
    | .set => .ok (s.postpone number tag .set)
    | .orderedMap | .pairs => .ok (s.postpone number tag (.pairs 0))
    | .merge | .default | .unknown => .error .malformed
    | _ => s.buildAtom number tag

def buildAll : List Nat → Builder → Except Failure (List Built × Builder)
  | [], s => .ok ([], s)
  | number :: rest, s => do
    let (b, s) ← s.build number
    let (bs, s) ← buildAll rest s
    return (b :: bs, s)

/-- Whether two keys of a map are one. -/
def isSameKey (k l : Atom × Option Nat) : Bool :=
  match k.1, l.1 with
  | .float .nan, .float .nan => k.2 = l.2
  | a, b => a.sameKey b

/-- Writes an entry of a map: the first of equal keys stays, with the last value. -/
def putEntry (key : Atom × Option Nat) (value : Built) :
    List ((Atom × Option Nat) × Built) → List ((Atom × Option Nat) × Built)
  | [] => [(key, value)]
  | (k, v) :: rest =>
    if isSameKey k key then (k, value) :: rest else (k, v) :: putEntry key value rest

/-- Builds the entries of a mapping. Only atoms can be keys. -/
def buildEntries : List (Nat × Nat) → List ((Atom × Option Nat) × Built) → Builder →
    Except Failure (List ((Atom × Option Nat) × Built) × Builder)
  | [], entries, s => .ok (entries, s)
  | (key, value) :: rest, entries, s => do
    let (k, s) ← s.build key
    match k with
    | .collection _ => throw .malformed
    | .atom a origin =>
      let (v, s) ← s.build value
      buildEntries rest (putEntry (a, origin) v entries) s

/-- Builds the pairs of a sequence of mappings with one pair each. -/
def buildPairs : List Nat → Builder → Except Failure Builder
  | [], s => .ok s
  | part :: rest, s =>
    match s.pairsOf? part with
    | some [(key, value)] => do
      let (_, s) ← s.build key
      let (_, s) ← s.build value
      buildPairs rest s
    | _ => .error .malformed

/-- Sets what a collection holds. -/
def fillWith (s : Builder) (number : Nat) (c : Collection) : Builder :=
  { s with collections := s.collections.set! number c }

/-- The pairs of a mapping node with all merges done. -/
def mergedPairs (s : Builder) (number : Nat) : Except Failure (List (Nat × Nat) × Builder) :=
  match s.pairsOf? number with
  | none => .error .malformed
  | some _ => do
    let s ← s.flatten number
    return ((s.pairsOf? number).getD [], s)

/-- Fills a collection. -/
def fill (s : Builder) (p : Pending) : Except Failure Builder :=
  match p.tag with
  | .sequence =>
    match (s.node p.node).content with
    | .sequence items => do
      let (bs, s) ← buildAll items s
      return s.fillWith p.collection (.list bs)
    | _ => .error .malformed
  | .orderedMap | .pairs =>
    match (s.node p.node).content with
    | .sequence items => do
      let s ← buildPairs items s
      return s.fillWith p.collection (.pairs items.length)
    | _ => .error .malformed
  | tag => do
    let (pairs, s) ← s.mergedPairs p.node
    let (entries, s) ← buildEntries pairs [] s
    return s.fillWith p.collection (if tag = .set then .set else .map entries)

def fillAll : List Pending → Builder → Except Failure Builder
  | [], s => .ok s
  | p :: rest, s => do fillAll rest (← s.fill p)

/-- Fills collections level by level. Each node is met once, so there are no more levels than nodes. -/
def fillLevels : Nat → Builder → Except Failure Builder
  | 0, s => .ok s
  | fuel + 1, s =>
    if s.pending.isEmpty then .ok s
    else do fillLevels fuel (← fillAll s.pending.reverse { s with pending := [] })

/-- The value of something within a list. A list with a collection in it has no place in a configuration, and
aliases can nest collections without end, so of such a collection only the kind is kept. -/
def itemValue (s : Builder) : Built → Value
  | .atom a _ => .atom a
  | .collection number =>
    match s.collections.getD number .set with
    | .list _ | .pairs _ => .list []
    | .map _ => .map []
    | .set => .set

/-- The value of something built; `fuel` bounds the depth of maps within maps. With more fuel than there are collections
it only runs out in a map that an alias puts into itself. Such a map has no finite value, and following it has no end,
so what a configuration makes of it is left out: it is cut off where the fuel ends. -/
def value (s : Builder) : Nat → Built → Value
  | _, .atom a _ => .atom a
  | 0, b => s.itemValue b
  | fuel + 1, .collection number =>
    match s.collections.getD number .set with
    | .list items => .list (items.map s.itemValue)
    | .map entries => .map (entries.map fun (key, b) => (key.1, s.value fuel b))
    | .set => .set
    | .pairs count => .list (List.replicate count .pair)

end Builder

def Graph.value (g : Graph) : Except Failure Value := do
  let s : Builder := ⟨g.nodes, Array.replicate g.nodes.size none, #[], []⟩
  let (root, s) ← s.build g.root
  let s ← s.fillLevels (g.nodes.size + 1)
  return s.value (s.collections.size + 1) root

def read (t : Text) : Except Failure (Option Value) := do
  match ← Graph.ofEvents (EventStream.ofTokens (TokenStream.ofText t)) with
  | none => return none
  | some g => return some (← g.value)

end LayeredConfig.Yaml
