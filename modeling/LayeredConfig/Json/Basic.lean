import LayeredConfig.OrderedMap
import LayeredConfig.Value

/-!
# JSON values

The values of a JSON text. `Json.toValue` embeds them into the values of structured sources: members become
entries of a map whose keys are texts.
-/

namespace LayeredConfig

inductive Json
  | null
  | bool (b : Bool)
  /-- A number without fraction and exponent. -/
  | int (n : Int)
  | float (x : Binary64)
  | text (t : Text)
  | list (items : List Json)
  /-- An object: its members in the order in which their names came first. -/
  | object (members : List (Text × Json))

namespace Json

instance : Inhabited Json := ⟨.null⟩

def ofMap (m : OrderedMap Json) : Json := .object m.entries

mutual

/-- A JSON value as a value of a structured source. -/
def toValue : Json → Value
  | .null => .atom .null
  | .bool b => .atom (.bool b)
  | .int n => .atom (.int n)
  | .float x => .atom (.float x)
  | .text t => .atom (.text t)
  | .list items => .list (listToValues items)
  | .object members => .map (membersToEntries members)

def listToValues : List Json → List Value
  | [] => []
  | j :: rest => j.toValue :: listToValues rest

def membersToEntries : List (Text × Json) → List (Atom × Value)
  | [] => []
  | (name, j) :: rest => (.text name, j.toValue) :: membersToEntries rest

end

end Json

end LayeredConfig
