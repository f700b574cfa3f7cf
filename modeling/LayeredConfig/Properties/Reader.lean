import LayeredConfig.OrderedMap
import LayeredConfig.Properties.Line

/-!
# Reading a properties text

Each logical line is an entry. Its key ends before the first separator or blank that no backslash precedes
(`splitEntry`); blanks, at most one separator and blanks again stand between key and value; blanks that no
backslash precedes are dropped at the end (`trimEnd`). Key and value are then unescaped. A key that comes again
keeps its position and takes the new value. An entry without a key and a malformed `\u` escape are refused with
the number of their line.
-/

namespace LayeredConfig.Properties

def isSeparator (c : CodePoint) : Bool :=
  c = '=' || c = ':'

/-- The part of a logical line that is the key, and what follows it. -/
def splitKey : Text → Text × Text
  | [] => ([], [])
  | c :: rest =>
    if c = '\\' then
      match rest with
      | [] => ([c], [])
      | d :: tail =>
        let (key, after) := splitKey tail
        (c :: d :: key, after)
    else if isSeparator c || isBlank c then ([], c :: rest)
    else
      let (key, after) := splitKey rest
      (c :: key, after)

/-- Drops blanks, one separator if there is one, and blanks after it. -/
def dropSeparator (t : Text) : Text :=
  match t.dropWhile isBlank with
  | [] => []
  | c :: rest => if isSeparator c then rest.dropWhile isBlank else c :: rest

/-- The key and the value of a logical line, still escaped; blanks at the end are not yet dropped. -/
def splitEntry (line : Text) : Text × Text :=
  let (key, after) := splitKey line
  (key, dropSeparator after)

/-- Drops blanks at the start of a reversed text, up to one that a backslash escapes. -/
def trimReversed : Text → Text
  | [] => []
  | c :: rest =>
    if isBlank c && !startsWithOddBackslashes rest then trimReversed rest else c :: rest

/-- Drops the blanks at the end of an escaped text that no backslash precedes. -/
def trimEnd (t : Text) : Text :=
  (trimReversed t.reverse).reverse

/-- What a backslash and a code point stand for: four letters name a control, all else stands for itself. -/
def escaped (c : CodePoint) : CodePoint :=
  if c = 't' then '\t'
  else if c = 'n' then '\n'
  else if c = 'r' then '\r'
  else if c = 'f' then '\x0C'
  else c

/-- The text that an escaped text stands for. The error holds what stands in the place of the four hexadecimal
digits. -/
def unescape : Text → Except Text Text
  | [] => .ok []
  | c :: rest =>
    if c = '\\' then
      match rest with
      | [] => .ok []
      | d :: rest =>
        if d = 'u' then
          match rest with
          | h₁ :: h₂ :: h₃ :: h₄ :: rest =>
            match CodePoint.ofHex? h₁ h₂ h₃ h₄ with
            | some x => (unescape rest).map (x :: ·)
            | none => .error [h₁, h₂, h₃, h₄]
          | short => .error short
        else (unescape rest).map (escaped d :: ·)
    else (unescape rest).map (c :: ·)

inductive Fault
  /-- A backslash and `u` are followed by these code points, which are not four hexadecimal digits. -/
  | malformedEscape (digits : Text)
  | missingKey
  deriving DecidableEq

def Fault.message : Fault → Text
  | .malformedEscape digits => "Escape unicode malformado: \\u" ++ digits
  | .missingKey => "Entrada sem chave"

/-- Where a properties text is refused. -/
structure ReadError where
  fault : Fault
  line : Nat
  deriving DecidableEq

def readEntry (line : LogicalLine) : Except ReadError (Text × Text) :=
  let (rawKey, rawValue) := splitEntry line.text
  match unescape rawKey with
  | .error digits => .error ⟨.malformedEscape digits, line.number⟩
  | .ok [] => .error ⟨.missingKey, line.number⟩
  | .ok key =>
    match unescape (trimEnd rawValue) with
    | .error digits => .error ⟨.malformedEscape digits, line.number⟩
    | .ok value => .ok (key, value)

/-- Reads logical lines in order and adds their entries to a map. -/
def readLines (m : OrderedMap Text) : List LogicalLine → Except ReadError (OrderedMap Text)
  | [] => .ok m
  | line :: rest =>
    match readEntry line with
    | .error e => .error e
    | .ok (key, value) => readLines (m.put key value) rest

def linesOf (t : Text) : List LogicalLine :=
  logicalLines none 1 (physicalLines t)

def read (t : Text) : Except ReadError (OrderedMap Text) :=
  readLines .empty (linesOf t)

end LayeredConfig.Properties
