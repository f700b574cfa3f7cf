import LayeredConfig.OrderedMap
import LayeredConfig.RawValue

/-!
# Flattening

A structured source nests maps, and a configuration has one level: the keys on the way to a value are joined by
dots. An empty map gives nothing, an empty list the empty text. Other lists become lists of texts. A key that is
reached twice keeps its first position and takes the last value. Only atoms that are not bytes have a text
(`Atom.scalarText`); the first value that has none is refused with its key.
-/

namespace LayeredConfig

inductive FlattenError
  /-- The value at a key is of a kind that has no text. -/
  | notScalar (key kind : Text)
  | digits (e : DigitLimitError)
  deriving DecidableEq

/-- The text of an atom that is a value; bytes have none. -/
def Atom.scalarText (key : Text) : Atom → Except FlattenError Text
  | .null => .ok []
  | .bool b => .ok (if b then "true" else "false")
  | .int n => (Number.writeInt n).mapError .digits
  | .float x => .ok (FloatLayout.plain.write x)
  | .text t => .ok t
  | .date d => .ok d.iso
  | .time t => .ok (t.iso 'T')
  | .bytes b => .error (.notScalar key (Atom.bytes b).kind)

namespace Value

/-- The text of a value; only atoms have one. -/
def scalarText (key : Text) : Value → Except FlattenError Text
  | .atom a => a.scalarText key
  | v => .error (.notScalar key v.kind)

def rawList : List Text → RawValue
  | [] => .text []
  | head :: tail => .list head tail

mutual

/-- Writes what the value at `key` gives to a map. -/
def flattenAt (key : Text) (out : OrderedMap RawValue) : Value → Except FlattenError (OrderedMap RawValue)
  | .map entries => do
    let inner ← flattenFrom (key ++ ".") .empty entries
    return out.update inner
  | .list items => do
    let texts ← items.mapM (scalarText key)
    return out.put key (rawList texts)
  | v => do
    let text ← v.scalarText key
    return out.put key (.text text)

/-- Writes what entries give to a map; `lead` stands before each key. -/
def flattenFrom (lead : Text) (out : OrderedMap RawValue) :
    List (Atom × Value) → Except FlattenError (OrderedMap RawValue)
  | [] => .ok out
  | (k, v) :: rest => do
    let label ← k.label.mapError FlattenError.digits
    let out ← flattenAt (lead ++ label) out v
    flattenFrom lead out rest

end

def flatten (entries : List (Atom × Value)) : Except FlattenError (OrderedMap RawValue) :=
  flattenFrom [] .empty entries

end Value

end LayeredConfig
