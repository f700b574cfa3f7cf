import LayeredConfig.Yaml.Timestamp

/-!
# Tags

The tag of a node says what kind of value it is. A node without a tag of its own gets one: collections by their
form, quoted scalars that of texts, and plain scalars the first kind in whose written form they are
(`Tag.ofPlain`). A written form may be followed by one line feed.
-/

namespace LayeredConfig.Yaml

/-- The kind of value that a node stands for. -/
inductive Tag
  | null
  | bool
  | int
  | float
  /-- Bytes in base 64. -/
  | binary
  | timestamp
  /-- Pairs of a key and a value in order, each key once. -/
  | orderedMap
  /-- Pairs of a key and a value in order. -/
  | pairs
  | set
  | text
  | sequence
  | mapping
  /-- The key that merges another mapping in. -/
  | merge
  /-- The key whose value stands for the whole mapping. -/
  | default
  /-- A tag without a meaning here. -/
  | unknown
  deriving DecidableEq

namespace Tag

/-- What the tags of the format are written with. -/
def names : List (Text × Tag) :=
  [("null", .null), ("bool", .bool), ("int", .int), ("float", .float), ("binary", .binary),
    ("timestamp", .timestamp), ("omap", .orderedMap), ("pairs", .pairs), ("set", .set), ("str", .text),
    ("seq", .sequence), ("map", .mapping), ("merge", .merge), ("value", .default)]

def ofText (t : Text) : Tag :=
  match Text.after? "tag:yaml.org,2002:" t with
  | some name => (names.lookup name).getD .unknown
  | none => .unknown

/-! ## The written forms of plain scalars -/

def boolWords : List Text :=
  ["yes", "Yes", "YES", "no", "No", "NO", "true", "True", "TRUE", "false", "False", "FALSE", "on", "On",
    "ON", "off", "Off", "OFF"]

/-- The words of absence. -/
def nullWords : List Text :=
  ["~", "null", "Null", "NULL", ""]

/-- The text behind a sign, if there is one. -/
def unsigned (t : Text) : Text :=
  match t with
  | [] => []
  | c :: rest => if c = '+' || c = '-' then rest else t

def isDigitOrGap (c : CodePoint) : Bool :=
  c.isDigit || c = '_'

/-- Digits with underscores between and behind them. -/
def isGrouped (t : Text) : Bool :=
  match t with
  | [] => false
  | c :: rest => c.isDigit && rest.all isDigitOrGap

/-- A place of a number in base sixty: one digit, or two below sixty. -/
def isSixtieth (t : Text) : Bool :=
  match t with
  | [c] => c.isDigit
  | [c, d] => c.isDigit && c < '6' && d.isDigit
  | _ => false

/-- A number in base sixty, of two places at least. -/
def isSexagesimal (t : Text) : Bool :=
  match Text.splitOn ':' t with
  | first :: second :: rest => isGrouped first && (second :: rest).all isSixtieth
  | _ => false

/-- The exponent of a floating point number, whose sign is written; or nothing. -/
def isExponent (t : Text) : Bool :=
  match t with
  | [] => true
  | e :: sign :: d :: rest =>
    (e = 'e' || e = 'E') && (sign = '+' || sign = '-') && (d :: rest).all CodePoint.isDigit
  | _ => false

/-- The written form of a floating point number: there is a point, and an exponent has a sign. -/
def isFloat (t : Text) : Bool :=
  let body := unsigned t
  let whole := body.takeWhile (· ≠ CodePoint.ofChar '.')
  match body.drop whole.length with
  | [] => false
  | _ :: fraction =>
    let exponent := fraction.dropWhile isDigitOrGap
    if whole.isEmpty then
      ([("inf" : Text), "Inf", "INF"].contains fraction) ||
        (body = t && ([("nan" : Text), "NaN", "NAN"].contains fraction ||
          (isGrouped (fraction.takeWhile isDigitOrGap) && isExponent exponent)))
    else (isGrouped whole && isExponent exponent) || (isSexagesimal whole && exponent.isEmpty)

/-- The written form of an integer in base two, eight, ten, sixteen or sixty. -/
def isInt (t : Text) : Bool :=
  match unsigned t with
  | [] => false
  | c :: rest =>
    if c = '0' then
      match rest with
      | [] => true
      | d :: more =>
        if d = 'b' then !more.isEmpty && more.all fun x => x = '0' || x = '1' || x = '_'
        else if d = 'x' then !more.isEmpty && more.all fun x => x.hexValue?.isSome || x = '_'
        else rest.all fun x => (x.isDigit && x < '8') || x = '_'
    else isGrouped (c :: rest) || isSexagesimal (c :: rest)

/-- The written form of a date. -/
def isTimestamp (t : Text) : Bool :=
  match Timestamp.read? t with
  | some s => s.isCanonical
  | none => false

/-- A text without one line feed at its end. -/
def chomp (t : Text) : Text :=
  if t.getLast? = some '\n' then t.dropLast else t

/-- The kind of value that a plain scalar stands for. -/
def ofPlain (t : Text) : Tag :=
  let body := chomp t
  if body.isEmpty && !t.isEmpty then .text
  else if boolWords.contains body then .bool
  else if isFloat body then .float
  else if isInt body then .int
  else if body = ("<<" : Text) then .merge
  else if nullWords.contains body then .null
  else if isTimestamp body then .timestamp
  else if body = ("=" : Text) then .default
  else if body = ("!" : Text) || body = ("&" : Text) || body = ("*" : Text) then .unknown
  else .text

end Tag

end LayeredConfig.Yaml
