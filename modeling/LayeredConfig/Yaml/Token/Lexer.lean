import LayeredConfig.Text.Utf8
import LayeredConfig.Yaml.Token
import LayeredConfig.Yaml.Token.Scalar

/-!
# The tokens of a YAML text

The lexer knows how deep the text is indented, how many flow collections are open, and which token may turn out
to be a key: a scalar, an alias or a flow collection that a colon follows on the same line, at most 1024
code points later. When the colon comes, the key mark is put in front of that token. Until then the token is
held back, so a fault in the text shows only to a reader who has taken all tokens that could be given out
before (`TokenStream.ofText`).
-/

namespace LayeredConfig.Yaml

/-- A token that may turn out to be a key. -/
structure SimpleKey where
  token : Nat
  /-- It has to be a key, since it starts a line at the indentation of a mapping. -/
  required : Bool
  index : Nat
  line : Nat
  column : Nat

structure Lexer where
  cursor : Cursor
  /-- The tokens so far, last one first. -/
  reversed : List Token
  /-- How many flow collections are open; unbalanced brackets make it negative. -/
  flowLevel : Int
  /-- The current indentation, -1 before any block collection. -/
  indent : Int
  /-- The indentations around the current one, innermost first. -/
  indents : List Int
  /-- Whether a key may start here. -/
  allowKey : Bool
  /-- For each flow level the token that may turn out to be a key. -/
  possibleKeys : List (Int × SimpleKey)
  /-- The end of the text was reached. -/
  done : Bool

namespace Lexer

def start (t : Text) : Lexer where
  cursor := .start t
  reversed := [.streamStart]
  flowLevel := 0
  indent := -1
  indents := []
  allowKey := true
  possibleKeys := []
  done := false

def inFlow (s : Lexer) : Bool :=
  s.flowLevel != 0

def emit (s : Lexer) (t : Token) : Lexer :=
  { s with reversed := t :: s.reversed }

/-- Puts a token in front of the token with the given number. -/
def insertBefore (s : Lexer) (number : Nat) (t : Token) : Lexer :=
  let behind := s.reversed.length - number
  { s with reversed := s.reversed.take behind ++ t :: s.reversed.drop behind }

def skip (s : Lexer) (n : Nat) : Lexer :=
  { s with cursor := s.cursor.skip n }

/-! ## Keys -/

/-- Forgets the tokens that can no longer turn out to be keys. A key that had to be one is a fault. -/
def dropStale (s : Lexer) : Except Failure Lexer :=
  let stale (k : SimpleKey) : Bool :=
    k.line != s.cursor.line || 1024 < s.cursor.index - k.index
  if s.possibleKeys.any fun (_, k) => stale k && k.required then .error .malformed
  else .ok { s with possibleKeys := s.possibleKeys.filter fun (_, k) => !stale k }

/-- Forgets the token of this flow level that may turn out to be a key. -/
def dropKey (s : Lexer) : Except Failure Lexer :=
  match s.possibleKeys.lookup s.flowLevel with
  | none => .ok s
  | some k =>
    if k.required then .error .malformed
    else .ok { s with possibleKeys := s.possibleKeys.filter fun (level, _) => level != s.flowLevel }

/-- Notes that the next token may turn out to be a key. -/
def saveKey (s : Lexer) : Except Failure Lexer := do
  if !s.allowKey then return s
  let required := !s.inFlow && s.indent == s.cursor.column
  let s ← s.dropKey
  let c := s.cursor
  return { s with
    possibleKeys := (s.flowLevel, ⟨s.reversed.length, required, c.index, c.line, c.column⟩) ::
      s.possibleKeys }

/-- How many tokens can be given out: those before the first one that may turn out to be a key. -/
def settled (s : Lexer) : Nat :=
  s.possibleKeys.foldl (fun n (_, k) => min n k.token) s.reversed.length

/-! ## Indentation -/

/-- Ends the block collections that are indented deeper than `column`, innermost first. -/
def unwindTo (column : Int) : List Int → Int → List Token → List Int × Int × List Token
  | [], indent, tokens => ([], indent, tokens)
  | outer :: rest, indent, tokens =>
    if column < indent then unwindTo column rest outer (.blockEnd :: tokens)
    else (outer :: rest, indent, tokens)

/-- Ends the block collections that are indented deeper than `column`, outside flow collections. -/
def unwind (s : Lexer) (column : Int) : Lexer :=
  if s.inFlow then s
  else
    let (indents, indent, reversed) := unwindTo column s.indents s.indent s.reversed
    { s with indents, indent, reversed }

/-- Indents to `column`, if that is deeper; says whether it was. -/
def deepen (s : Lexer) (column : Int) : Bool × Lexer :=
  if s.indent < column then
    (true, { s with indents := s.indent :: s.indents, indent := column })
  else (false, s)

/-- Indents to the current column and, if that is deeper, adds the token that starts a collection. -/
def openBlock (s : Lexer) (t : Token) : Lexer :=
  let (deeper, s) := s.deepen s.cursor.column
  if deeper then s.emit t else s

/-! ## Directives, anchors and tags -/

/-- A name, which is not empty. -/
def readName (c : Cursor) : Except Failure (Text × Cursor) :=
  let (name, c) := c.span isNameCharacter
  if name.isEmpty then .error .malformed else .ok (name, c)

def readVersionNumber (c : Cursor) : Except Failure (Nat × Cursor) :=
  let (digits, c) := c.span CodePoint.isDigit
  if digits.isEmpty then .error .malformed
  else
    match Number.readDecimal digits with
    | .ok n => .ok (n, c)
    | .error e => .error (.scalar (.digits e))

/-- A handle: exclamation marks around a name, or one alone before a space. -/
def readHandle (c : Cursor) : Except Failure (Text × Cursor) :=
  match c.rest with
  | [] => .error .malformed
  | x :: rest =>
    if x ≠ '!' then .error .malformed
    else if startsWith ' ' rest then .ok (['!'], c.next)
    else
      let (name, c) := c.next.span isNameCharacter
      if startsWith '!' c.rest then .ok (x :: name ++ "!", c.next) else .error .malformed

/-- The bytes of a row of percent escapes. -/
def readPercents : Nat → Cursor → Except Failure (List UInt8 × Cursor)
  | 0, _ => .error .malformed
  | fuel + 1, c =>
    match c.rest with
    | x :: a :: b :: _ =>
      if x ≠ '%' then .ok ([], c)
      else
        match a.hexValue?, b.hexValue? with
        | some a, some b =>
          (readPercents fuel (c.skip 3)).map fun (bytes, c) => (UInt8.ofNat (a * 16 + b) :: bytes, c)
        | _, _ => .error .malformed
    | x :: _ => if x = '%' then .error .malformed else .ok ([], c)
    | [] => .ok ([], c)

/-- The characters of a tag, percent escapes resolved. -/
def readTagCharacters : Nat → Cursor → Except Failure (Text × Cursor)
  | 0, _ => .error .malformed
  | fuel + 1, c => do
    let (head, c) := c.span fun x => isTagCharacter x && x ≠ '%'
    if startsWith '%' c.rest then
      let (bytes, c) ← readPercents (c.rest.length + 1) c
      match Utf8.decode bytes with
      | .error _ => throw .malformed
      | .ok t =>
        let (tail, c) ← readTagCharacters fuel c
        return (head ++ t ++ tail, c)
    else return (head, c)

/-- The characters of a tag, of which there is one at least. -/
def readTagText (c : Cursor) : Except Failure (Text × Cursor) :=
  match c.rest with
  | [] => .error .malformed
  | x :: _ => if isTagCharacter x then readTagCharacters (c.rest.length + 1) c else .error .malformed

/-- A directive from behind its percent sign. -/
def readDirective (c : Cursor) : Except Failure (Directive × Cursor) := do
  let (name, c) ← readName c
  if !atSpace c.rest then throw .malformed
  if name = ("YAML" : Text) then
    let (major, c) ← readVersionNumber c.skipSpaces
    if !startsWith '.' c.rest then throw .malformed
    let (minor, c) ← readVersionNumber c.next
    if !atSpace c.rest then throw .malformed
    return (.version major minor, ← lineRest c)
  else if name = ("TAG" : Text) then
    let (handle, c) ← readHandle c.skipSpaces
    if !startsWith ' ' c.rest then throw .malformed
    let (start, c) ← readTagText c.skipSpaces
    if !atSpace c.rest then throw .malformed
    return (.tag handle start, ← lineRest c)
  else
    return (.reserved, ← lineRest (c.span fun x => !isBreak x).2)

/-- The name of an anchor or an alias, from behind its mark. -/
def readAnchor (c : Cursor) : Except Failure (Text × Cursor) := do
  let (name, c) ← readName c
  match c.rest with
  | [] => return (name, c)
  | x :: _ =>
    if atBlank c.rest || ("?:,]\x7d%@\x60" : Text).contains x then return (name, c)
    else throw .malformed

/-- A tag, from its exclamation mark. -/
def readTag (c : Cursor) : Except Failure (Token × Cursor) := do
  let (tag, c) ←
    if startsWith '<' c.next.rest then do
      let (suffix, c) ← readTagText (c.skip 2)
      if !startsWith '>' c.rest then throw .malformed
      pure (Token.tag none suffix, c.next)
    else if atBlank c.next.rest then pure (Token.tag none ['!'], c.next)
    else do
      let word := c.next.rest.takeWhile fun x : CodePoint => x ≠ ' ' && !isBreak x
      let (handle, c) ← if word.contains '!' then readHandle c else pure (['!'], c.next)
      let (suffix, c) ← readTagText c
      pure (Token.tag handle suffix, c)
  if !atSpace c.rest then throw .malformed
  return (tag, c)

/-! ## One step -/

/-- Moves over spaces, comments and line ends. Behind a line end a key may start, outside flow
collections. -/
def skipToToken (flow : Bool) : Nat → Bool → Cursor → Bool × Cursor
  | 0, allow, c => (allow, c)
  | fuel + 1, allow, c =>
    let c := c.skipSpaces.skipComment
    let (lineEnd, c') := c.lineBreak
    if lineEnd.isEmpty then (allow, c) else skipToToken flow fuel (allow || !flow) c'

def fetchEnd (s : Lexer) : Except Failure Lexer := do
  let s ← (s.unwind (-1)).dropKey
  return { s.emit .streamEnd with allowKey := false, possibleKeys := [], done := true }

def fetchDirective (s : Lexer) : Except Failure Lexer := do
  let s ← (s.unwind (-1)).dropKey
  let (d, c) ← readDirective s.cursor.next
  return { s.emit (.directive d) with allowKey := false, cursor := c }

/-- A mark before or behind a document. -/
def fetchDocumentMark (s : Lexer) (t : Token) : Except Failure Lexer := do
  let s ← (s.unwind (-1)).dropKey
  return { (s.skip 3).emit t with allowKey := false }

/-- An opening bracket or brace. -/
def fetchFlowStart (s : Lexer) (t : Token) : Except Failure Lexer := do
  let s ← s.saveKey
  return { (s.skip 1).emit t with flowLevel := s.flowLevel + 1, allowKey := true }

/-- A closing bracket or brace. -/
def fetchFlowEnd (s : Lexer) (t : Token) : Except Failure Lexer := do
  let s ← s.dropKey
  return { (s.skip 1).emit t with flowLevel := s.flowLevel - 1, allowKey := false }

def fetchFlowEntry (s : Lexer) : Except Failure Lexer := do
  let s ← s.dropKey
  return { (s.skip 1).emit .flowEntry with allowKey := true }

/-- The hyphen before an item. -/
def fetchBlockEntry (s : Lexer) : Except Failure Lexer := do
  if !s.inFlow && !s.allowKey then throw .malformed
  let s := if s.inFlow then s else s.openBlock .blockSequenceStart
  let s ← s.dropKey
  return { (s.skip 1).emit .blockEntry with allowKey := true }

/-- The question mark before a key. -/
def fetchKey (s : Lexer) : Except Failure Lexer := do
  if !s.inFlow && !s.allowKey then throw .malformed
  let s := if s.inFlow then s else s.openBlock .blockMappingStart
  let s ← s.dropKey
  return { (s.skip 1).emit .key with allowKey := !s.inFlow }

/-- The colon before a value. If a token could turn out to be a key, it now is one. -/
def fetchValue (s : Lexer) : Except Failure Lexer := do
  match s.possibleKeys.lookup s.flowLevel with
  | some k =>
    let s := { s with possibleKeys := s.possibleKeys.filter fun (level, _) => level != s.flowLevel }
    let s := s.insertBefore k.token .key
    let s :=
      if s.inFlow then s
      else
        let (deeper, s) := s.deepen k.column
        if deeper then s.insertBefore k.token .blockMappingStart else s
    return { (s.skip 1).emit .value with allowKey := false }
  | none =>
    if !s.inFlow && !s.allowKey then throw .malformed
    let s := if s.inFlow then s else s.openBlock .blockMappingStart
    let s ← s.dropKey
    return { (s.skip 1).emit .value with allowKey := !s.inFlow }

def fetchAnchor (s : Lexer) (token : Text → Token) : Except Failure Lexer := do
  let s ← s.saveKey
  let (name, c) ← readAnchor s.cursor.next
  return { s.emit (token name) with allowKey := false, cursor := c }

def fetchTag (s : Lexer) : Except Failure Lexer := do
  let s ← s.saveKey
  let (t, c) ← readTag s.cursor
  return { s.emit t with allowKey := false, cursor := c }

def fetchBlockScalar (s : Lexer) (fold : Bool) : Except Failure Lexer := do
  let s ← s.dropKey
  let (t, c) ← blockScalar fold s.indent s.cursor.next
  return { s.emit (.scalar t false) with allowKey := true, cursor := c }

def fetchQuoted (s : Lexer) (double : Bool) : Except Failure Lexer := do
  let s ← s.saveKey
  let c := s.cursor.next
  let (t, c) ← quotedScalar double (c.rest.length + 1) c
  return { s.emit (.scalar t false) with allowKey := false, cursor := c }

/-- A plain scalar. Behind a line end a key may start. -/
def fetchPlain (s : Lexer) : Except Failure Lexer := do
  let s ← s.saveKey
  let (t, broken, c) := plainScalar s.inFlow (s.indent + 1) (s.cursor.rest.length + 1) [] false s.cursor
  return { s.emit (.scalar t true) with allowKey := broken, cursor := c }

/-- Whether a plain scalar can start with `c` before `rest`. -/
def startsPlain (flow : Bool) (c : CodePoint) (rest : Text) : Bool :=
  let mark := ("-?:,[]\x7b\x7d#&*!|>'\"%@\x60" : Text).contains c
  (!mark && !isBlank c && !isBreak c) ||
    (!atBlank rest && (c = '-' || (!flow && (c = '?' || c = ':'))))

/-- Adds the next token, and the tokens that indentation puts before it. -/
def fetch (s : Lexer) : Except Failure Lexer := do
  let c := if s.cursor.index = 0 && startsWith '\uFEFF' s.cursor.rest then s.cursor.next else s.cursor
  let (allowKey, cursor) := skipToToken s.inFlow (c.rest.length + 1) s.allowKey c
  let s ← dropStale { s with allowKey, cursor }
  let s := s.unwind s.cursor.column
  match s.cursor.rest with
  | [] => s.fetchEnd
  | x :: rest =>
    let first := s.cursor.column = 0
    if x = '%' && first then s.fetchDirective
    else if first && s.cursor.atDocumentMark "---" then s.fetchDocumentMark .documentStart
    else if first && s.cursor.atDocumentMark "..." then s.fetchDocumentMark .documentEnd
    else if x = '[' then s.fetchFlowStart .flowSequenceStart
    else if x = '{' then s.fetchFlowStart .flowMappingStart
    else if x = ']' then s.fetchFlowEnd .flowSequenceEnd
    else if x = '}' then s.fetchFlowEnd .flowMappingEnd
    else if x = ',' then s.fetchFlowEntry
    else if x = '-' && atBlank rest then s.fetchBlockEntry
    else if x = '?' && (s.inFlow || atBlank rest) then s.fetchKey
    else if x = ':' && (s.inFlow || atBlank rest) then s.fetchValue
    else if x = '*' then s.fetchAnchor .alias
    else if x = '&' then s.fetchAnchor .anchor
    else if x = '!' then s.fetchTag
    else if x = '|' && !s.inFlow then s.fetchBlockScalar false
    else if x = '>' && !s.inFlow then s.fetchBlockScalar true
    else if x = '\x27' then s.fetchQuoted false
    else if x = '"' then s.fetchQuoted true
    else if startsPlain s.inFlow x rest then s.fetchPlain
    else throw .malformed

/-- The tokens up to a fault that shows when `count` tokens were given out. -/
def stopped (s : Lexer) (count : Nat) (e : Failure) : TokenStream :=
  ⟨s.reversed.reverse.take count, some e⟩

/-- All tokens from a state of the lexer on. Each step reads a code point at least, except for the last. -/
def run : Nat → Lexer → TokenStream
  | 0, s => s.stopped s.settled .malformed
  | fuel + 1, s =>
    match s.fetch with
    | .error e => s.stopped s.settled e
    | .ok next =>
      if next.done then ⟨next.reversed.reverse, none⟩
      else
        match next.dropStale with
        | .error e => s.stopped s.settled e
        | .ok next => run fuel next

end Lexer

/-- The tokens of a text. A text with a code point that YAML does not allow has none. -/
def TokenStream.ofText (t : Text) : TokenStream :=
  if t.all isAllowed then Lexer.run (t.length + 2) (Lexer.start t)
  else ⟨[], some .malformed⟩

end LayeredConfig.Yaml
