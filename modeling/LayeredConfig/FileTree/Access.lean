import LayeredConfig.FileTree.Walk

/-!
# Access to a file tree

What can be done with the node that a path leads to. Each access fails with the path as it is written. Asking
whether something is there does not fail where nothing is.

* `isFile`, `isDirectory`, `read`: looking.
* `makeDirectories`, `openFile`, `rename`: the changes of which a save consists.
-/

namespace LayeredConfig

/-- Whether a fault says that there is nothing at a path. -/
def PathFault.isAbsence : PathFault → Bool
  | .missing | .notDirectory | .linkLoop => true
  | _ => false

def PathFault.at (e : PathFault) (p : Path) : Failure :=
  .storage (.path e p.toText none)

namespace FileTree

/-- Paths hold no null character, and only what can be encoded. -/
def checkPath (p : Path) : Except Failure Unit :=
  match Utf8.encode p.toText with
  | .error e => .error (.unencodable e)
  | .ok bytes => if bytes.contains 0 then .error .nullInPath else .ok ()

def leadsTo (t : FileTree) (kind : Node → Bool) (p : Path) : Except Failure Bool :=
  match checkPath p with
  | .error _ => .ok false
  | .ok () =>
    match t.find p with
    | .ok (_, node) => .ok (kind node)
    | .error e => if e.isAbsence then .ok false else .error (e.at p)

def isFile (t : FileTree) (p : Path) : Except Failure Bool :=
  t.leadsTo Node.isFile p

def isDirectory (t : FileTree) (p : Path) : Except Failure Bool :=
  t.leadsTo Node.isDirectory p

def read (t : FileTree) (p : Path) : Except Failure (List UInt8) := do
  checkPath p
  match t.find p with
  | .ok (_, .file data) => .ok data
  | .ok _ => .error (PathFault.isDirectory.at p)
  | .error e => .error (e.at p)

/-- The path without links that a path leads to. -/
def realPath (t : FileTree) (p : Path) : Path :=
  match t.find p with
  | .ok (l, _) => l.path
  | .error _ => p

/-- A path seen from the root. -/
def absolute (t : FileTree) (p : Path) : Path :=
  t.workingDirectory.path.join p

def list (t : FileTree) (p : Path) : List Path :=
  match t.find p with
  | .ok (l, _) => (t.names l).map p.child
  | .error _ => []

def makeDirectory (t : FileTree) (p : Path) : Except PathFault FileTree :=
  match t.locate false p with
  | .ok (.taken _ _) => .error .exists
  | .ok (.free l) => .ok (t.put l .directory)
  | .error e => .error e

/-- Accepts a directory that cannot be made because it is there. -/
def acceptDirectory (t : FileTree) (e : PathFault) (p : Path) : FileTree × Except Failure Unit :=
  match t.isDirectory p with
  | .ok true => (t, .ok ())
  | .ok false => (t, .error (e.at p))
  | .error e => (t, .error e)

/-- Makes a directory and those above it that are missing. The parts are given from the last one on. -/
def makeAll (t : FileTree) (root : Text) : List Text → FileTree × Except Failure Unit
  | [] => t.acceptDirectory .exists ⟨root, []⟩
  | part :: above =>
    let p : Path := ⟨root, (part :: above).reverse⟩
    match checkPath p with
    | .error e => (t, .error e)
    | .ok () =>
      match t.makeDirectory p with
      | .ok t => (t, .ok ())
      | .error .missing =>
        match t.makeAll root above with
        | (t, .error e) => (t, .error e)
        | (t, .ok ()) =>
          match t.makeDirectory p with
          | .ok t => (t, .ok ())
          | .error .missing => (t, .error (PathFault.missing.at p))
          | .error e => t.acceptDirectory e p
      | .error e => t.acceptDirectory e p

/-- Makes a directory, if it is not there, and those above it. -/
def makeDirectories (t : FileTree) (p : Path) : FileTree × Except Failure Unit :=
  t.makeAll p.root p.parts.reverse

/-- Opens a file for writing: it is empty from now on. The answer is its location. -/
def openFile (t : FileTree) (p : Path) : Except Failure (Location × FileTree) := do
  checkPath p
  match t.locate true p with
  | .ok (.taken _ .directory) => .error (PathFault.isDirectory.at p)
  | .ok (.taken l _) | .ok (.free l) => .ok (l, t.put l (.file []))
  | .error e => .error (e.at p)

/-- Puts what stands at one path in the place of what stands at another one; links are not followed. -/
def move (t : FileTree) (source target : Path) : Except PathFault FileTree :=
  if target.name = (".." : Text) then .error .busy
  else
    match t.locate false source with
    | .error e => .error e
    | .ok (.free _) => .error .missing
    | .ok (.taken l node) =>
      match t.locate false target with
      | .error e => .error e
      | .ok (.taken _ .directory) => .error .isDirectory
      | .ok (.taken m _) | .ok (.free m) => .ok ((t.erase l).put m node)

def rename (t : FileTree) (source target : Path) : Except Failure FileTree :=
  (t.move source target).mapError fun e =>
    .storage (.path e source.toText (some target.toText))

end FileTree

end LayeredConfig
