import LayeredConfig.Json.Basic

/-!
# JSON values in messages

How a value is shown in the middle of a message: texts between quotes, lists and objects between brackets and
braces, and the literals with their capital names.
-/

namespace LayeredConfig.Json

mutual

/-- A value as messages show it. -/
def shown : Json → Text
  | .null => "None"
  | .bool b => if b then "True" else "False"
  | .int n => Text.ofInt n
  | .float x => FloatLayout.plain.write x
  | .text t => t.quoted
  | .list items => "[" ++ Text.join ", " (shownItems items) ++ "]"
  | .object members => "\x7b" ++ Text.join ", " (shownMembers members) ++ "\x7d"

def shownItems : List Json → List Text
  | [] => []
  | j :: rest => shown j :: shownItems rest

def shownMembers : List (Text × Json) → List Text
  | [] => []
  | (name, j) :: rest => (name.quoted ++ ": " ++ shown j) :: shownMembers rest

end

/-- A value in place of a text: texts stand for themselves. -/
def asText : Json → Text
  | .text t => t
  | j => j.shown

end LayeredConfig.Json
