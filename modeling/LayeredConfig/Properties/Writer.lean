import LayeredConfig.Failure
import LayeredConfig.RawValue

/-!
# Writing a properties text

Each entry is written on a line of its own as `key=value`, comments first. Whatever a reader would take for a
line end, a separator, a comment, a blank to drop or an escape gets a backslash:

* in a key, every space, separator and comment mark;
* in a value, a space at either end and a comment mark at its start;
* in both, the backslash itself and the controls tab, line feed, carriage return and form feed.
-/

namespace LayeredConfig.Properties

/-- The escape of the code points that are escaped everywhere. -/
def controlEscape? (c : CodePoint) : Option Text :=
  if c = '\\' then some "\\\\"
  else if c = '\t' then some "\\t"
  else if c = '\n' then some "\\n"
  else if c = '\r' then some "\\r"
  else if c = '\x0C' then some "\\f"
  else none

/-- Whether a code point of a key would be taken for something else. -/
def isKeyMark (c : CodePoint) : Bool :=
  c = ' ' || c = '=' || c = ':' || c = '#' || c = '!'

def escapeInKey (c : CodePoint) : Text :=
  match controlEscape? c with
  | some t => t
  | none => if isKeyMark c then ['\\', c] else [c]

def escapeKey (key : Text) : Text :=
  key.flatMap escapeInKey

/-- One code point of a value: `first` and `last` say where in the value it stands. -/
def escapeInValue (first last : Bool) (c : CodePoint) : Text :=
  match controlEscape? c with
  | some t => t
  | none =>
    if c = ' ' && (first || last) then ['\\', c]
    else if (c = '#' || c = '!') && first then ['\\', c]
    else [c]

/-- A value, or the rest of one. -/
def escapeValueFrom (first : Bool) : Text → Text
  | [] => []
  | c :: rest => escapeInValue first rest.isEmpty c ++ escapeValueFrom false rest

def escapeValue (value : Text) : Text :=
  escapeValueFrom true value

def writeEntry (entry : Text × Text) : Text :=
  escapeKey entry.1 ++ "=" ++ escapeValue entry.2

def writeComment (comment : Text) : Text :=
  "# " ++ comment

/-- The text of comments, then entries in order. -/
def writeLines (entries : List (Text × Text)) (header : List Text) : Text :=
  Text.join "\n" (header.map writeComment ++ entries.map writeEntry) ++ "\n"

/-- The text of a map: its comments, then its entries in order. -/
def write (entries : OrderedMap Text) (header : List Text) : Text :=
  writeLines entries.entries header

/-- The entries of a map as readers are given them; no value counts as the empty text. -/
def presentAll (entries : List (Text × Value)) : Except Failure (List (Text × Text)) :=
  entries.mapM fun (key, v) =>
    match v.decode with
    | .ok t => .ok (key, t.getD [])
    | .error kind => .error (.misfit (.presented kind))

/-- The text of comments, then entries of any values in order. -/
def dump (entries : OrderedMap Value) (header : List Text) : Except Failure Text := do
  return writeLines (← presentAll entries.entries) header

end LayeredConfig.Properties
