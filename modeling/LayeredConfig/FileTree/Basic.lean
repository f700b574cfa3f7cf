import LayeredConfig.Source.Path

/-!
# File trees

A `FileTree` holds files, directories and symbolic links, each at a `Location`: the names on the way from the
root to it. The root is a directory. `nodeAt?`, `put`, `erase` and `names` are all that the tree itself knows;
how paths lead to locations is said in `FileTree/Walk`.
-/

namespace LayeredConfig

/-- The names on the way from the root. -/
abbrev Location := List Text

inductive Node
  | file (data : List UInt8)
  | directory
  | link (target : Text)
  deriving DecidableEq

namespace Node

def isFile : Node → Bool
  | .file _ => true
  | _ => false

def isDirectory : Node → Bool
  | .directory => true
  | _ => false

end Node

structure FileTree where
  /-- The locations below the root with what stands there. -/
  nodes : List (Location × Node)
  workingDirectory : Location

namespace FileTree

def nodeAt? (t : FileTree) (l : Location) : Option Node :=
  if l.isEmpty then some .directory else t.nodes.lookup l

/-- Puts a node at a location in place of what is there. -/
def put (t : FileTree) (l : Location) (node : Node) : FileTree :=
  { t with nodes := (t.nodes.filter fun e => e.1 ≠ l) ++ [(l, node)] }

/-- Takes out what stands at a location, and all that is below it. -/
def erase (t : FileTree) (l : Location) : FileTree :=
  { t with nodes := t.nodes.filter fun e => !l.isPrefixOf e.1 }

def children (t : FileTree) (l : Location) : List Location :=
  (t.nodes.map Prod.fst).filter fun k => k ≠ [] && k.dropLast = l

def names (t : FileTree) (l : Location) : List Text :=
  (t.children l).map fun k => k.getLastD []

/-- The nodes below a location, by the names on the way from there. -/
def below (t : FileTree) (l : Location) : List (Location × Node) :=
  t.nodes.filterMap fun (k, node) => if l.isPrefixOf k && l ≠ k then some (k.drop l.length, node) else none

end FileTree

def Location.path (l : Location) : Path :=
  ⟨"/", l⟩

end LayeredConfig
