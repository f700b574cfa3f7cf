import LayeredConfig.Failure
import LayeredConfig.FileTree.Basic

/-!
# Walking along paths

A path is walked part by part. Two dots lead to the directory above, a link leads on to its target, and all but
the last part have to lead to directories. The walk ends at a node or at a free location in a directory. More
than forty links on one walk are taken to lead to each other.
-/

namespace LayeredConfig

/-- Where a walk ends. -/
inductive Place
  | taken (l : Location) (node : Node)
  /-- At a location where nothing stands, in a directory. -/
  | free (l : Location)

namespace FileTree

/-- The number of links that one walk follows. -/
def linkLimit : Nat := 40

def nameLimit : Nat := 255

def isTooLong (name : Text) : Bool :=
  nameLimit < (name.flatMap Utf8.encodeCodePoint).length

/-- Walks on from a directory. A link at the very end is followed if `followLast` holds. -/
def walk (t : FileTree) (followLast : Bool) (links : Nat) (current : Location) :
    List Text → Except PathFault Place
  | [] => .ok (.taken current .directory)
  | part :: rest =>
    let next := current ++ [part]
    if part = (".." : Text) then walk t followLast links current.dropLast rest
    else if isTooLong part then .error .nameTooLong
    else
      match t.nodeAt? next with
      | none => if rest.isEmpty then .ok (.free next) else .error .missing
      | some .directory => walk t followLast links next rest
      | some (.file data) => if rest.isEmpty then .ok (.taken next (.file data)) else .error .notDirectory
      | some (.link target) =>
        if rest.isEmpty && !followLast then .ok (.taken next (.link target))
        else
          match links with
          | 0 => .error .linkLoop
          | links + 1 =>
            let p := Path.ofText target
            walk t followLast links (if p.isAbsolute then [] else current) (p.parts ++ rest)
termination_by parts => (links, parts.length)

def locate (t : FileTree) (followLast : Bool) (p : Path) : Except PathFault Place :=
  t.walk followLast linkLimit (if p.isAbsolute then [] else t.workingDirectory) p.parts

/-- The location and the node that a path leads to, with all links followed. -/
def find (t : FileTree) (p : Path) : Except PathFault (Location × Node) :=
  match t.locate true p with
  | .ok (.taken l node) => .ok (l, node)
  | .ok (.free _) => .error .missing
  | .error e => .error e

end FileTree

end LayeredConfig
