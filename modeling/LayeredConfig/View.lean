import LayeredConfig.Json.Shown
import LayeredConfig.Namespace.Basic

/-!
# Views

A view shows the keys of a namespace that start with a prefix and a dot, without them. It holds no values: it
reads and writes the namespace, each key behind the prefix and the dot. A view may be taken within a view. A
`Scope` is either a whole namespace or a view of it, and has the accessors of both.
-/

namespace LayeredConfig

/-- A view of a namespace. -/
structure View where
  /-- The prefix, without a dot at its end. -/
  lead : Text
  deriving DecidableEq

namespace View

/-- Whether a prefix is accepted: it holds something else than dots and blanks. -/
def accepts (lead : Text) : Bool :=
  lead.any fun c => c ≠ '.' && c ≠ ' '

/-- A prefix without the dots at its end. -/
def trimDots (lead : Text) : Text :=
  Text.dropEndWhile (· = CodePoint.ofChar '.') lead

/-- The view behind a prefix. -/
def of (lead : Text) : Except Failure View :=
  if accepts lead then .ok ⟨trimDots lead⟩ else .error .badPrefix

/-- What stands before each key of the view. -/
def head (v : View) : Text :=
  v.lead ++ "."

/-- The key of the namespace that a key of the view stands for. -/
def qualify (v : View) (key : Text) : Text :=
  v.head ++ key

def within (v : View) (lead : Text) : Except Failure View :=
  View.of (v.qualify (trimDots lead))

/-- The key of the view that a key of the namespace is, if it is one. -/
def key? (v : View) (key : Text) : Option Text :=
  match Text.after? v.head key with
  | some [] => none
  | rest => rest

def keys (v : View) (ns : Namespace) : List Text :=
  ns.keys.filterMap v.key?

def isEmpty (v : View) (ns : Namespace) : Bool :=
  (v.keys ns).isEmpty

def toList (v : View) (ns : Namespace) : List (Text × Option Text) :=
  (v.keys ns).map fun key => (key, ns.text? (v.qualify key))

def shown (v : View) (ns : Namespace) : Text :=
  "PrefixView(prefix=" ++ v.lead.quoted ++ ", keys=" ++ Text.ofNat (v.keys ns).length ++ ")"

end View

/-- A namespace as a whole, or a view of it. -/
inductive Scope
  | whole
  | view (v : View)
  deriving DecidableEq

namespace Scope

/-- The key of the namespace that a key stands for. -/
def qualify : Scope → Text → Text
  | .whole, key => key
  | .view v, key => v.qualify key

def subset : Scope → Text → Except Failure View
  | .whole, lead => View.of lead
  | .view v, lead => v.within lead

/-- The view behind a prefix that may be any value. -/
def subsetAt (s : Scope) (lead : Value) : Except Failure View :=
  match lead.text?, s with
  | some t, _ => s.subset t
  | none, .whole => .error .badPrefix
  | none, .view _ => .error (.prefixNotText lead.kind)

/-- The view behind one prefix after the other. -/
def descend (s : Scope) : List Value → Except Failure Scope
  | [] => .ok s
  | lead :: rest =>
    match s.subsetAt lead with
    | .ok v => descend (.view v) rest
    | .error e => .error e

def get? (s : Scope) (ns : Namespace) (key : Text) : Option RawValue :=
  ns.get? (s.qualify key)

def getString (s : Scope) (ns : Namespace) (key : Text) (default : Option Text) : Option Text :=
  ns.getString (s.qualify key) default

/-- The integer of 32 bits at a key, if the text there names one. -/
def int? (s : Scope) (ns : Namespace) (key : Text) : Except Failure (Option Int) :=
  ns.int? (s.qualify key)

/-- The integer of 32 bits at a key, or a default where there is none. -/
def getInt (s : Scope) (ns : Namespace) (key : Text) (default : Int) : Except Failure Int :=
  ns.getInt (s.qualify key) default

def getWords (s : Scope) (ns : Namespace) (key : Text) : List Text :=
  ns.getWords (s.qualify key)

def contains (s : Scope) (ns : Namespace) (key : Text) : Bool :=
  ns.contains (s.qualify key)

/-- Whether a value is a key that is there; only texts are keys. -/
def containsValue (s : Scope) (ns : Namespace) (key : Value) : Bool :=
  match key.text? with
  | some t => s.contains ns t
  | none => false

def keys (s : Scope) (ns : Namespace) : List Text :=
  match s with
  | .whole => ns.keys
  | .view v => v.keys ns

def set (s : Scope) (ns : Namespace) (key : Text) (value : Value) (source : Option Text) :
    Except Failure Namespace :=
  ns.set (s.qualify key) value source

/-- Sets a key that may be any value. A view puts it behind its prefix as messages show it. -/
def setAt (s : Scope) (ns : Namespace) (key : Json) (value : Value) (source : Option Text) :
    Except Failure Namespace :=
  match key, s with
  | .text t, _ => s.set ns t value source
  | _, .whole => .error .badKey
  | j, .view _ => s.set ns j.asText value source

def shown (s : Scope) (ns : Namespace) : Text :=
  match s with
  | .whole => ns.shown
  | .view v => v.shown ns

end Scope

end LayeredConfig
