import LayeredConfig.Text.LowerCase
import LayeredConfig.Text.WhiteSpace
import LayeredConfig.Value

/-!
# Raw values

What a configuration holds at a key: a text, or several texts, of which there is one at least. Readers are
given one text, the items joined by commas (`RawValue.decoded`); a comma in an item is not told apart from one
that joins. Where any value may be offered, `RawValue.ofValue?` says which ones are accepted.
-/

namespace LayeredConfig

inductive RawValue
  | text (t : Text)
  /-- Several texts, or one that was given as a list. -/
  | list (head : Text) (tail : List Text)
  deriving DecidableEq

namespace RawValue

def items : RawValue → List Text
  | .text t => [t]
  | .list head tail => head :: tail

/-- The text that readers are given. -/
def decoded (v : RawValue) : Text :=
  Text.join "," v.items

def toValue : RawValue → Value
  | .text t => .text t
  | .list head tail => .list ((head :: tail).map Value.text)

/-- The raw value that a value is: a text, or a list of texts that is not empty. -/
def ofValue? : Value → Option RawValue
  | .atom (.text t) => some (.text t)
  | .list items =>
    match items.mapM Value.text? with
    | some (head :: tail) => some (.list head tail)
    | _ => none
  | _ => none

end RawValue

namespace Value

def isRaw (v : Value) : Bool :=
  (RawValue.ofValue? v).isSome

/-- The text that readers are given of a value: none of no value, and of a list the items joined, also if
there are none. The error is the name of the kind of any other value. -/
def decode : Value → Except Text (Option Text)
  | .atom .null => .ok none
  | .atom (.text t) => .ok (some t)
  | .list items =>
    match items.mapM Value.text? with
    | some texts => .ok (some (Text.join "," texts))
    | none => .error "list"
  | v => .error v.kind

end Value

def Text.lowerWords (t : Text) : List Text :=
  t.words.map Text.lowerCase

/-- A key behind a prefix and a dot; an empty prefix is none. -/
def Text.qualify (lead : Option Text) (key : Text) : Text :=
  match lead with
  | none | some [] => key
  | some p => p ++ "." ++ key

end LayeredConfig
