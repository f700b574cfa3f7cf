import LayeredConfig.Json.Basic
import LayeredConfig.Text.WhiteSpace

/-!
# Reading JSON

`Json.read` reads a whole text as one JSON value. Beside the standard it takes the numbers `NaN`, `Infinity` and
`-Infinity`; a string may hold surrogates, of which only two that escapes name one after the other are joined, and a
repeated member name keeps its first position and its last value. A text that is no JSON is refused with the place
where reading stopped; places count code points, and only a line feed ends a line.
-/

namespace LayeredConfig

namespace Json

inductive Fault
  | expectingValue
  | expectingName
  | expectingColon
  /-- A comma or the end of the array or object was expected. -/
  | expectingComma
  | unterminatedString
  | controlCharacter
  /-- A backslash is followed by a character that no escape begins with. -/
  | invalidEscape
  /-- Four hexadecimal digits and more of the string were expected. -/
  | invalidUnicodeEscape
  | extraData
  | byteOrderMark
  deriving DecidableEq

def Fault.message : Fault → Text
  | .expectingValue => "Expecting value"
  | .expectingName => "Expecting property name enclosed in double quotes"
  | .expectingColon => "Expecting ':' delimiter"
  | .expectingComma => "Expecting ',' delimiter"
  | .unterminatedString => "Unterminated string starting at"
  | .controlCharacter => "Invalid control character at"
  | .invalidEscape => "Invalid \\escape"
  | .invalidUnicodeEscape => "Invalid \\uXXXX escape"
  | .extraData => "Extra data"
  | .byteOrderMark => "Unexpected UTF-8 BOM (decode using utf-8-sig)"

inductive ReadError
  /-- The text is no JSON; `position` is the place. -/
  | syntactic (fault : Fault) (position : Nat)
  | digits (e : DigitLimitError)
  deriving DecidableEq

/-- A place in a text that is being read: how much was read, and what is left. -/
structure Cursor where
  /-- The number of code points read. -/
  position : Nat
  rest : Text

namespace Cursor

def isBlank (c : CodePoint) : Bool :=
  c = ' ' || c = '\t' || c = '\n' || c = '\r'

def skip (c : Cursor) (n : Nat) : Cursor :=
  ⟨c.position + n, c.rest.drop n⟩

def skipBlanks (c : Cursor) : Cursor :=
  c.skip (c.rest.takeWhile isBlank).length

/-- Moves over `x`, if that comes next. -/
def eat? (x : CodePoint) (c : Cursor) : Option Cursor :=
  match c.rest with
  | [] => none
  | y :: rest => if y = x then some ⟨c.position + 1, rest⟩ else none

def fail {α : Type} (c : Cursor) (fault : Fault) : Except ReadError α :=
  .error (.syntactic fault c.position)

end Cursor

/-- What a one-letter escape stands for. -/
def escaped? (c : CodePoint) : Option CodePoint :=
  if c = '"' || c = '\\' || c = '/' then some c
  else if c = 'b' then some '\x08'
  else if c = 'f' then some '\x0C'
  else if c = 'n' then some '\n'
  else if c = 'r' then some '\r'
  else if c = 't' then some '\t'
  else none

/-- Puts a code point before the text that the rest of a string stands for. -/
def consText (c : CodePoint) (r : Except ReadError (Text × Cursor)) : Except ReadError (Text × Cursor) :=
  r.map fun (t, cursor) => (c :: t, cursor)

/-- The code point that a pair of surrogates names. -/
def joined (high low : CodePoint) : CodePoint :=
  CodePoint.ofNat (0x10000 + (high.toNat - 0xD800) * 0x400 + (low.toNat - 0xDC00))

/-- Puts the code point that an escape names before the text that `rest` stands for. A high surrogate is joined with
a low one if the next escape names that. -/
def escapeBefore (c : CodePoint) (rest : Text) : Text → Text
  | [] => [c]
  | d :: t =>
    if c.isHighSurrogate && d.isLowSurrogate && rest.head? = some (CodePoint.ofChar '\\') then joined c d :: t
    else c :: d :: t

/-- Reads a string up to its closing quote. `start` is the place of the opening one. -/
def readUnits (start : Nat) (position : Nat) : Text → Except ReadError (Text × Cursor)
  | [] => .error (.syntactic .unterminatedString start)
  | c :: rest =>
    if c = '"' then .ok ([], ⟨position + 1, rest⟩)
    else if c = '\\' then
      match rest with
      | [] => .error (.syntactic .unterminatedString start)
      | e :: rest =>
        if e = 'u' then
          match rest with
          | h₁ :: h₂ :: h₃ :: h₄ :: rest =>
            match CodePoint.ofHex? h₁ h₂ h₃ h₄ with
            | some x =>
              if rest.isEmpty then .error (.syntactic .invalidUnicodeEscape (position + 1))
              else (readUnits start (position + 6) rest).map fun (t, cursor) => (escapeBefore x rest t, cursor)
            | none => .error (.syntactic .invalidUnicodeEscape (position + 1))
          | _ => .error (.syntactic .invalidUnicodeEscape (position + 1))
        else
          match escaped? e with
          | some x => consText x (readUnits start (position + 2) rest)
          | none => .error (.syntactic .invalidEscape position)
    else if c.toNat < 0x20 then .error (.syntactic .controlCharacter position)
    else consText c (readUnits start (position + 1) rest)

/-- Reads a string; the cursor stands behind the opening quote. -/
def readString (c : Cursor) : Except ReadError (Text × Cursor) :=
  readUnits (c.position - 1) c.position c.rest

def literals : List (Text × Json) :=
  [("null", .null), ("true", .bool true), ("false", .bool false), ("NaN", .float .nan),
    ("Infinity", .float (.infinite false)), ("-Infinity", .float (.infinite true))]

/-- The digits before the point: a zero alone, or all that there are. -/
def integerPart (t : Text) : Text :=
  let digits := t.takeWhile CodePoint.isDigit
  if digits.head? = some '0' then digits.take 1 else digits

/-- The fraction that a number has after its integer part: the digits after the point. -/
def fraction (t : Text) : Text :=
  match t with
  | [] => []
  | c :: rest => if c = '.' then rest.takeWhile CodePoint.isDigit else []

/-- The exponent of a number: its sign, its digits, and how many code points it takes. -/
def exponent? (t : Text) : Option (Bool × Text × Nat) :=
  match t with
  | [] => none
  | c :: rest =>
    if c = 'e' || c = 'E' then
      let (negative, signWidth) : Bool × Nat :=
        match rest with
        | [] => (false, 0)
        | s :: _ => if s = '-' then (true, 1) else if s = '+' then (false, 1) else (false, 0)
      let digits := (rest.drop signWidth).takeWhile CodePoint.isDigit
      if digits.isEmpty then none else some (negative, digits, 1 + signWidth + digits.length)
    else none

/-- Reads a number behind its digits: `whole` stand before the point, `decimals` after it. -/
def readExponent (negative : Bool) (whole decimals : Text) (c : Cursor) : Except ReadError (Json × Cursor) :=
  match exponent? c.rest with
  | some (below, power, width) =>
    let n := Number.ofDigits 10 (Number.digitValues (whole ++ decimals))
    let e := Number.signed below (Number.ofDigits 10 (Number.digitValues power)) - decimals.length
    .ok (.float (Binary64.ofDecimal negative n e), c.skip width)
  | none =>
    if decimals.isEmpty then
      match Number.readDecimal whole with
      | .ok n => .ok (.int (Number.signed negative n), c)
      | .error e => .error (.digits e)
    else
      let n := Number.ofDigits 10 (Number.digitValues (whole ++ decimals))
      .ok (.float (Binary64.ofDecimal negative n (-decimals.length)), c)

/-- Reads the digits of a number, and what follows them. The number begins at `start`, with its sign. -/
def readDigits (start : Cursor) (negative : Bool) (c : Cursor) : Except ReadError (Json × Cursor) :=
  let whole := integerPart c.rest
  if whole.isEmpty then start.fail .expectingValue
  else
    let c := c.skip whole.length
    let decimals := fraction c.rest
    readExponent negative whole decimals (if decimals.isEmpty then c else c.skip (decimals.length + 1))

def readNumber (c : Cursor) : Except ReadError (Json × Cursor) :=
  match c.eat? '-' with
  | some body => readDigits c true body
  | none => readDigits c false c

def readScalar (c : Cursor) : Except ReadError (Json × Cursor) :=
  match literals.find? fun (name, _) => c.rest.startsWith name with
  | some (name, j) => .ok (j, c.skip name.length)
  | none => readNumber c

mutual

/-- Reads a value; `fuel` bounds the number of nested readings. -/
def readValue : Nat → Cursor → Except ReadError (Json × Cursor)
  | 0, c => c.fail .expectingValue
  | fuel + 1, c =>
    match c.eat? '"' with
    | some c => (readString c).map fun (t, c) => (.text t, c)
    | none =>
    match c.eat? '{' with
    | some c =>
      let c := c.skipBlanks
      match c.eat? '}' with
      | some c => .ok (.object [], c)
      | none => (readMembers fuel c).map fun (members, c) => (ofMap (.ofList members), c)
    | none =>
    match c.eat? '[' with
    | some c =>
      let c := c.skipBlanks
      match c.eat? ']' with
      | some c => .ok (.list [], c)
      | none => (readItems fuel c).map fun (items, c) => (.list items, c)
    | none => readScalar c

/-- Reads the items of an array, of which there is one at least, and its end. -/
def readItems : Nat → Cursor → Except ReadError (List Json × Cursor)
  | 0, c => c.fail .expectingValue
  | fuel + 1, c => do
    let (item, c) ← readValue fuel c
    let c := c.skipBlanks
    match c.eat? ']' with
    | some c => return ([item], c)
    | none =>
    match c.eat? ',' with
    | some c =>
      let (items, c) ← readItems fuel c.skipBlanks
      return (item :: items, c)
    | none => c.fail .expectingComma

/-- Reads the members of an object, of which there is one at least, and its end. -/
def readMembers : Nat → Cursor → Except ReadError (List (Text × Json) × Cursor)
  | 0, c => c.fail .expectingName
  | fuel + 1, c =>
    match c.eat? '"' with
    | none => c.fail .expectingName
    | some c => do
      let (name, c) ← readString c
      let c := c.skipBlanks
      match c.eat? ':' with
      | none => c.fail .expectingColon
      | some c => do
        let (value, c) ← readValue fuel c.skipBlanks
        let c := c.skipBlanks
        match c.eat? '}' with
        | some c => return ([(name, value)], c)
        | none =>
        match c.eat? ',' with
        | some c =>
          let (members, c) ← readMembers fuel c.skipBlanks
          return ((name, value) :: members, c)
        | none => c.fail .expectingComma

end

def read (t : Text) : Except ReadError Json := do
  if t.head? = some '\uFEFF' then throw (.syntactic .byteOrderMark 0)
  let (j, c) ← readValue (2 * t.length + 2) (Cursor.skipBlanks ⟨0, t⟩)
  let c := c.skipBlanks
  if c.rest.isEmpty then return j else c.fail .extraData

/-- The line of a place, counted from one. -/
def lineAt (t : Text) (position : Nat) : Nat :=
  (t.take position).count (CodePoint.ofChar '\n') + 1

/-- The column of a place, counted from one. -/
def columnAt (t : Text) (position : Nat) : Nat :=
  ((t.take position).reverse.takeWhile fun c : CodePoint => c ≠ '\n').length + 1

/-- What is wrong at a place of a text, with its line, its column and the place itself. -/
def describe (t : Text) (fault : Fault) (position : Nat) : Text :=
  fault.message ++ ": line " ++ Text.ofNat (lineAt t position) ++ " column " ++
    Text.ofNat (columnAt t position) ++ " (char " ++ Text.ofNat position ++ ")"

end Json

end LayeredConfig
