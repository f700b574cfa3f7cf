import LayeredConfig.FileTree.Access
import LayeredConfig.Properties.Writer
import LayeredConfig.Store.Basic

/-!
# Sources in a file tree

Sources are files, and their identifiers are paths. A name is looked for in the search paths and at last in one
more directory, and the first place where something fitting stands counts: a file for a primary source, a
directory for the supplementary ones.

A map of values is written to a temporary file beside the source, which then takes its place, so nobody sees a
source that is half written.
-/

namespace LayeredConfig

/-- Sources in a file tree. -/
structure FileStore where
  tree : FileTree
  /-- The directories in which names are looked for. -/
  searchPaths : List Path
  /-- The directory in which they are looked for at last; if none is given, the working directory. -/
  lastPath : Option Path

namespace FileStore

/-- All directories in which names are looked for, in order. -/
def roots (s : FileStore) : List Path :=
  s.searchPaths ++ [s.lastPath.getD s.tree.workingDirectory.path]

/-- The first of several paths for which a check holds. -/
def firstThat (check : Path → Except Failure Bool) : List Path → Except Failure (Option Path)
  | [] => .ok none
  | p :: rest => do if ← check p then return some p else firstThat check rest

/-- The path of the primary source with a given name, without links. -/
def resolvePrimary (s : FileStore) (name : Text) : Except Failure Text := do
  match ← firstThat s.tree.isFile (s.roots.map fun root => root.join (Path.ofText name)) with
  | some p => return (s.tree.realPath p).toText
  | none => .error (.notFound name (some (s.roots.map Path.toText)))

def filesIn (s : FileStore) (p : Path) : Except Failure (List Text) := do
  let files ← (s.tree.list p).filterM s.tree.isFile
  return files.map fun f => (s.tree.absolute f).toText

def listSupplementary (s : FileStore) (name : Text) : Run (List Text) := do
  let found ← Run.ofExcept
    (firstThat s.tree.isDirectory (s.roots.map fun root => root.join (Path.ofText name)))
  match found with
  | some p => Run.ofExcept (s.filesIn p)
  | none =>
    Run.report [.noDirectory name]
    return []

def read (s : FileStore) (identifier : Text) : Except Failure (List UInt8) :=
  s.tree.read (Path.ofText identifier)

/-- The path of the temporary file beside a source. -/
def temporary (p : Path) : Except Failure Path :=
  if p.name.isEmpty then .error (.namelessPath p.toText) else .ok (p.extend ".tmp")

/-- Fills the temporary file and lets it take the place of the source. -/
def replace (t : FileTree) (source temporary : Path) (text : Text) : FileTree × Except Failure Unit :=
  match t.openFile temporary with
  | .error e => (t, .error e)
  | .ok (l, t) =>
    match Utf8.encode text with
    | .error e => (t, .error (.unencodable e))
    | .ok bytes =>
      let filled := t.put l (.file bytes)
      match filled.rename temporary source with
      | .ok t => (t, .ok ())
      | .error e => (filled, .error e)

def save (t : FileTree) (source : Path) (values : OrderedMap Value) : FileTree × Except Failure Unit :=
  match t.makeDirectories source.parent with
  | (t, .error e) => (t, .error e)
  | (t, .ok ()) =>
    match temporary source, Properties.dump values [] with
    | .error e, _ | _, .error e => (t, .error e)
    | .ok temporary, .ok text => replace t source temporary text

def persist (s : FileStore) (identifier : Text) (values : OrderedMap Value) : Commit FileStore :=
  let source := Path.ofText identifier
  let (tree, result) := save s.tree source values
  let notices : List Log.Notice :=
    match result with
    | .ok () => [.saved source.toText]
    | .error _ => []
  ⟨{ s with tree := tree }, notices, result⟩

instance : Store FileStore where
  reader s := ⟨s.resolvePrimary, s.listSupplementary, s.read⟩
  persist := persist

end FileStore

end LayeredConfig
