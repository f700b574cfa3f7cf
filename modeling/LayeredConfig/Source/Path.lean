import LayeredConfig.Text.LowerCase

/-!
# Paths

The identifier of a source reads as a path: parts between slashes, of which empty ones and single dots do not
count. A path that starts with a slash is absolute; two slashes at the start are kept apart from one, more are
one. The last part is the *name*; what follows its last dot, the dot included, is the *suffix*, unless the dot
is the first or the last code point of the name.
-/

namespace LayeredConfig

structure Path where
  /-- The slashes at its start that count; a relative path has none. -/
  root : Text
  parts : List Text
  deriving DecidableEq

namespace Path

/-- The slashes at the start of a text that count. -/
def rootOf (t : Text) : Text :=
  match (t.takeWhile (· = CodePoint.ofChar '/')).length with
  | 0 => []
  | 2 => "//"
  | _ => "/"

def partsOf (t : Text) : List Text :=
  (Text.splitOn '/' t).filter fun part => part ≠ [] && part ≠ ("." : Text)

def ofText (t : Text) : Path :=
  ⟨rootOf t, partsOf t⟩

/-- How a path is written; the path without parts is a single dot. -/
def toText (p : Path) : Text :=
  if p.root.isEmpty && p.parts.isEmpty then "." else p.root ++ Text.join "/" p.parts

def isAbsolute (p : Path) : Bool :=
  !p.root.isEmpty

/-- The last part; a path without parts has the empty name. -/
def name (p : Path) : Text :=
  p.parts.getLastD []

def parent (p : Path) : Path :=
  { p with parts := p.parts.dropLast }

/-- A path seen from another one; an absolute path stands for itself. -/
def join (p q : Path) : Path :=
  if q.isAbsolute then q else { p with parts := p.parts ++ q.parts }

def child (p : Path) (part : Text) : Path :=
  { p with parts := p.parts ++ [part] }

/-- A path with `tail` at the end of its name. -/
def extend (p : Path) (tail : Text) : Path :=
  p.parent.child (p.name ++ tail)

/-- The last dot of a name and what follows it. The name is given reversed, and so is the answer. -/
def reversedSuffix? : Text → Option Text
  | [] => none
  | c :: rest => if c = '.' then some [c] else (reversedSuffix? rest).map (c :: ·)

def suffixOf (name : Text) : Text :=
  match reversedSuffix? name.reverse with
  | some reversed =>
    if 1 < reversed.length && reversed.length < name.length then reversed.reverse else []
  | none => []

def suffix (p : Path) : Text :=
  suffixOf p.name

end Path

end LayeredConfig
