import LayeredConfig.Json.Basic

/-!
# Writing JSON

`Json.write` writes a value on one line, the members of an object in the order of their names. Only the quote,
the backslash and the control characters below U+0020 are escaped, so no line break is ever written; all
other code points stand for themselves. A `JsonLayout` says what stands between items and after names.
-/

namespace LayeredConfig

/-- What stands between the parts of a written value. -/
structure JsonLayout where
  /-- Between two items or members. -/
  item : Text
  /-- Between a name and its value. -/
  name : Text

namespace JsonLayout

/-- Nothing but the punctuation. -/
def compact : JsonLayout := ⟨",", ":"⟩

def spaced : JsonLayout := ⟨", ", ": "⟩

end JsonLayout

namespace Json

/-- One code point within a string. -/
def escape (c : CodePoint) : Text :=
  if c = '"' then "\\\""
  else if c = '\\' then "\\\\"
  else if c = '\n' then "\\n"
  else if c = '\r' then "\\r"
  else if c = '\t' then "\\t"
  else if c = '\x0C' then "\\f"
  else if c = '\x08' then "\\b"
  else if c.toNat < 0x20 then "\\u" ++ Text.hex 4 c.toNat
  else [c]

def writeText (t : Text) : Text :=
  "\"" ++ t.flatMap escape ++ "\""

/-- Members in the order of their names. -/
def sortMembers {α : Type} (members : List (Text × α)) : List (Text × α) :=
  members.mergeSort fun a b => a.1.le b.1

/-- The text of an object whose members are written already. -/
def writeObject (layout : JsonLayout) (members : List (Text × Text)) : Text :=
  "\x7b" ++ Text.join layout.item
    ((sortMembers members).map fun (name, value) => writeText name ++ layout.name ++ value) ++ "\x7d"

mutual

def write (layout : JsonLayout) : Json → Text
  | .null => "null"
  | .bool b => if b then "true" else "false"
  | .int n => Text.ofInt n
  | .float x => FloatLayout.json.write x
  | .text t => writeText t
  | .list items => "[" ++ Text.join layout.item (writeItems layout items) ++ "]"
  | .object members => writeObject layout (writeMembers layout members)

def writeItems (layout : JsonLayout) : List Json → List Text
  | [] => []
  | j :: rest => write layout j :: writeItems layout rest

/-- The members of an object with their values written. -/
def writeMembers (layout : JsonLayout) : List (Text × Json) → List (Text × Text)
  | [] => []
  | (name, j) :: rest => (name, write layout j) :: writeMembers layout rest

end

end Json

end LayeredConfig
