import LayeredConfig.Calendar
import LayeredConfig.Number.Shortest
import LayeredConfig.Text.Quoted

/-!
# Values of a document

What a structured source holds. An `Atom` is a value without parts; atoms are also the keys of maps. A `Value`
is an atom, a list, a map in the order of its entries, a set, or a pair. Sets and pairs have no place in a
configuration, so of them only the kind is kept. `Value.kind` is the name of a value's kind as messages
give it, `Atom.label` the text of an atom that serves as a key.
-/

namespace LayeredConfig

/-- A value without parts. -/
inductive Atom
  | null
  | bool (b : Bool)
  | int (n : Int)
  | float (x : Binary64)
  | text (t : Text)
  | date (d : Date)
  | time (t : DateTime)
  | bytes (b : List UInt8)
  deriving DecidableEq

/-- A value of a structured source. -/
inductive Value
  | atom (a : Atom)
  | list (items : List Value)
  /-- Keys and their values, in the order in which the keys came first. -/
  | map (entries : List (Atom × Value))
  /-- Distinct atoms. -/
  | set
  /-- Two values in order. -/
  | pair

namespace Atom

def kind : Atom → Text
  | .null => "NoneType"
  | .bool _ => "bool"
  | .int _ => "int"
  | .float _ => "float"
  | .text _ => "str"
  | .date _ => "date"
  | .time _ => "datetime"
  | .bytes _ => "bytes"

/-- The text of an atom that is a key. -/
def label : Atom → Except DigitLimitError Text
  | .null => .ok "None"
  | .bool b => .ok (if b then "True" else "False")
  | .int n => Number.writeInt n
  | .float x => .ok (FloatLayout.plain.write x)
  | .text t => .ok t
  | .date d => .ok d.iso
  | .time t => .ok (t.iso ' ')
  | .bytes b => .ok (Text.quotedBytes b)

/-- Whether two atoms are one key: numbers and truth values by what they count, points in time by the
moment, and all else by its kind and parts. -/
def sameKey : Atom → Atom → Bool
  | .bool b, .bool c => b == c
  | .bool b, .int n => (b.toInt : Int) == n
  | .int n, .bool b => (b.toInt : Int) == n
  | .bool b, .float x => x.equalsInt b.toInt
  | .float x, .bool b => x.equalsInt b.toInt
  | .int n, .int m => n == m
  | .int n, .float x => x.equalsInt n
  | .float x, .int n => x.equalsInt n
  | .float x, .float y => x.equals y
  | .time t, .time u => t.same u
  | a, b => a = b

end Atom

namespace Value

abbrev text (t : Text) : Value := .atom (.text t)

abbrev int (n : Int) : Value := .atom (.int n)

abbrev null : Value := .atom .null

instance : Inhabited Value := ⟨null⟩

def kind : Value → Text
  | .atom a => a.kind
  | .list _ => "list"
  | .map _ => "dict"
  | .set => "set"
  | .pair => "tuple"

def text? : Value → Option Text
  | .atom (.text t) => some t
  | _ => none

end Value

end LayeredConfig
