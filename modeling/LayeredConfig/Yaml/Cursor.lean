import LayeredConfig.Text.CodePoint

/-!
# Places in a YAML text

The classes of code points that the format tells apart, and the place up to which a text is read: its index, its
line and its column. A column counts code points since the last line end, byte order marks left aside. The end
of the text behaves like a line end that is never passed.
-/

namespace LayeredConfig.Yaml

/-- A code point that a YAML text may hold: the tab, the line ends, and what can be shown. -/
def isAllowed (c : CodePoint) : Bool :=
  let n := c.toNat
  n == 9 || n == 10 || n == 13 || (0x20 ≤ n && n ≤ 0x7E) || n == 0x85 || (0xA0 ≤ n && n ≤ 0xD7FF) ||
    (0xE000 ≤ n && n ≤ 0xFFFD) || 0x10000 ≤ n

def isBreak (c : CodePoint) : Bool :=
  c = '\n' || c = '\r' || c = '\x85' || c = '\u2028' || c = '\u2029'

def isBlank (c : CodePoint) : Bool :=
  c = ' ' || c = '\t'

/-- A comma, a bracket or a brace: what ends a plain scalar within a flow collection. -/
def isFlowMark (c : CodePoint) : Bool :=
  c = ',' || c = '[' || c = ']' || c = '{' || c = '}'

/-- A letter, a digit, a hyphen or an underscore of ASCII: what names are made of. -/
def isNameCharacter (c : CodePoint) : Bool :=
  let n := c.toNat
  (48 ≤ n && n ≤ 57) || (65 ≤ n && n ≤ 90) || (97 ≤ n && n ≤ 122) || n == 45 || n == 95

/-- What a tag may hold. -/
def isTagCharacter (c : CodePoint) : Bool :=
  isNameCharacter c || (";/?:@&=+$,.!~*'()[]%" : Text).contains c

/-- Whether a text starts with a line end or is at its end. -/
def atBreak : Text → Bool
  | [] => true
  | c :: _ => isBreak c

/-- Whether a text starts with a space or a line end, or is at its end. -/
def atSpace : Text → Bool
  | [] => true
  | c :: _ => c = ' ' || isBreak c

/-- Whether a text starts with a blank or a line end, or is at its end. -/
def atBlank : Text → Bool
  | [] => true
  | c :: _ => isBlank c || isBreak c

def startsWith (c : CodePoint) : Text → Bool
  | [] => false
  | d :: _ => d = c

/-- A place in a text, and what is left of the text. -/
structure Cursor where
  rest : Text
  /-- How many code points were read. -/
  index : Nat
  /-- How many line ends were read. -/
  line : Nat
  /-- The distance from the last line end. -/
  column : Nat

namespace Cursor

def start (t : Text) : Cursor := ⟨t, 0, 0, 0⟩

/-- Moves over one code point. The carriage return of a pair of line ends does not count. -/
def next (c : Cursor) : Cursor :=
  match c.rest with
  | [] => c
  | x :: rest =>
    if isBreak x && !(x = '\r' && startsWith '\n' rest) then ⟨rest, c.index + 1, c.line + 1, 0⟩
    else if x = '\uFEFF' then ⟨rest, c.index + 1, c.line, c.column⟩
    else ⟨rest, c.index + 1, c.line, c.column + 1⟩

/-- Moves over `n` code points. -/
def skip (c : Cursor) : Nat → Cursor
  | 0 => c
  | n + 1 => c.next.skip n

/-- The longest part of the rest whose code points satisfy `p`, and the place behind it. -/
def span (p : CodePoint → Bool) (c : Cursor) : Text × Cursor :=
  let t := c.rest.takeWhile p
  (t, c.skip t.length)

def skipSpaces (c : Cursor) : Cursor :=
  (c.span (· = ' ')).2

/-- Moves over spaces, but not beyond a column. -/
def skipSpacesTo (column : Nat) (c : Cursor) : Cursor :=
  c.skip (min (column - c.column) (c.rest.takeWhile fun x : CodePoint => x = ' ').length)

/-- Moves over a comment, if one starts here. -/
def skipComment (c : Cursor) : Cursor :=
  if startsWith '#' c.rest then (c.span fun x => !isBreak x).2 else c

/-- Moves over one line end, if one is next. All line ends read as a line feed but the two separators of
Unicode, which stand for themselves. -/
def lineBreak (c : Cursor) : Text × Cursor :=
  match c.rest with
  | [] => ([], c)
  | x :: rest =>
    if x = '\r' && startsWith '\n' rest then (['\n'], c.skip 2)
    else if x = '\u2028' || x = '\u2029' then ([x], c.next)
    else if isBreak x then (['\n'], c.next)
    else ([], c)

/-- Whether a line that marks the start or the end of a document begins here. -/
def atDocumentMark (mark : Text) (c : Cursor) : Bool :=
  match Text.after? mark c.rest with
  | some rest => atBlank rest
  | none => false

/-- Whether a line begins here that ends a scalar wherever it stands. -/
def atAnyDocumentMark (c : Cursor) : Bool :=
  c.atDocumentMark "---" || c.atDocumentMark "..."

end Cursor

end LayeredConfig.Yaml
