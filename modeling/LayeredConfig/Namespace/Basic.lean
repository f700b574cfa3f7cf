import LayeredConfig.Failure
import LayeredConfig.OrderedMap
import LayeredConfig.Override
import LayeredConfig.RawValue

/-!
# Namespaces

A namespace is the store of merged values: for each key a raw value and the source that set it, in the order in
which the keys came, and the list of all overrides so far. Keys are texts that are not empty.

* `set`, `remove`: the changes of one key.
* `get?`, `sourceOf`, `keys`: what is stored.
* `getString`, `getInt`, `getWords`: a value as a text, as an integer of 32 bits, as words.

Reading an integer is lenient: a value that is no integer of 32 bits counts as absent. Only a text of more
digits than are ever converted fails.
-/

namespace LayeredConfig

structure Entry where
  value : RawValue
  source : Option Text
  deriving DecidableEq

/-- A store of merged values. -/
@[ext] structure Namespace where
  /-- The keys with their values and sources, in the order in which the keys came. -/
  entries : OrderedMap Entry
  /-- The overrides in the order in which they happened. -/
  overrides : List Override

namespace Namespace

def empty : Namespace := ⟨.empty, []⟩

instance : Inhabited Namespace := ⟨empty⟩

def get? (ns : Namespace) (key : Text) : Option RawValue :=
  (ns.entries.get? key).map Entry.value

def sourceOf (ns : Namespace) (key : Text) : Option Text :=
  (ns.entries.get? key).bind Entry.source

def contains (ns : Namespace) (key : Text) : Bool :=
  ns.entries.contains key

def keys (ns : Namespace) : List Text :=
  ns.entries.keys

def size (ns : Namespace) : Nat :=
  ns.entries.size

/-- The values at all keys, in order. -/
def snapshot (ns : Namespace) : OrderedMap RawValue :=
  ns.entries.mapValues Entry.value

/-- Stores a raw value at a key that is not empty. -/
def put (ns : Namespace) (key : Text) (value : RawValue) (source : Option Text) : Namespace :=
  { ns with entries := ns.entries.put key ⟨value, source⟩ }

/-- Sets a key. The key has to be a text that is not empty, the value one that is accepted as a raw value. -/
def set (ns : Namespace) (key : Text) (value : Value) (source : Option Text) : Except Failure Namespace :=
  if key.isEmpty then .error .badKey
  else
    match RawValue.ofValue? value with
    | some raw => .ok (ns.put key raw source)
    | none => .error (.misfit (.set key value.kind))

def setAll (ns : Namespace) (source : Option Text) : List (Text × Value) → Except Failure Namespace
  | [] => .ok ns
  | (key, value) :: rest =>
    match ns.set key value source with
    | .ok ns => setAll ns source rest
    | .error e => .error e

def ofValues (values : OrderedMap Value) (source : Option Text) : Except Failure Namespace :=
  empty.setAll source values.entries

/-- Takes a key out, and says whether it was there. -/
def remove (ns : Namespace) (key : Text) : Bool × Namespace :=
  (ns.contains key, { ns with entries := ns.entries.erase key })

/-! ## Typed access -/

def text? (ns : Namespace) (key : Text) : Option Text :=
  (ns.get? key).map RawValue.decoded

/-- The text at a key, or a default where there is none. -/
def getString (ns : Namespace) (key : Text) (default : Option Text) : Option Text :=
  (ns.text? key).or default

def isInt32 (n : Int) : Bool :=
  -0x80000000 ≤ n && n ≤ 0x7FFFFFFF

/-- The sign and the digits of a text that is an optional sign before one ASCII digit or more. -/
def numeral? (t : Text) : Option (Bool × Text) :=
  let (negative, digits) : Bool × Text :=
    match t with
    | [] => (false, [])
    | c :: rest => if c = '-' then (true, rest) else if c = '+' then (false, rest) else (false, t)
  if !digits.isEmpty && digits.all CodePoint.isDigit then some (negative, digits) else none

/-- The integer of 32 bits that a text names, white space around it left aside. -/
def readInt32 (t : Text) : Except DigitLimitError (Option Int) :=
  match numeral? t.trim with
  | none => .ok none
  | some (negative, digits) =>
    match Number.readDecimal digits with
    | .error e => .error e
    | .ok n =>
      let n := Number.signed negative n
      .ok (if isInt32 n then some n else none)

/-- The integer of 32 bits at a key, if the text there names one. -/
def int? (ns : Namespace) (key : Text) : Except Failure (Option Int) :=
  match ns.text? key with
  | none => .ok none
  | some t => (readInt32 t).mapError .digits

def getInt (ns : Namespace) (key : Text) (default : Int) : Except Failure Int :=
  (ns.int? key).map (·.getD default)

def getWords (ns : Namespace) (key : Text) : List Text :=
  ((ns.text? key).map Text.lowerWords).getD []

def shown (ns : Namespace) : Text :=
  "Namespace(keys=" ++ Text.ofNat ns.size ++ ", conflicts=" ++ Text.ofNat ns.overrides.length ++ ")"

end Namespace

end LayeredConfig
