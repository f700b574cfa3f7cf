import LayeredConfig.Properties.Writer
import LayeredConfig.Store.Basic

/-!
# Sources in memory

A table of sources: identifiers with bytes, in order. Single sources can be unreadable, and writing can be refused.
The supplementary sources of a directory are those whose identifiers start with its name and a slash.
-/

namespace LayeredConfig

structure MemoryStore where
  files : OrderedMap (List UInt8)
  unreadable : List Text
  /-- The reason why nothing can be written, if so. -/
  persistError : Option Text

namespace MemoryStore

def resolvePrimary (m : MemoryStore) (name : Text) : Except Failure Text :=
  if m.files.contains name then .ok name else .error (.notFound name none)

def listSupplementary (m : MemoryStore) (directory : Text) : List Text :=
  m.files.keys.filter fun identifier => identifier.startsWith (directory ++ "/")

def read (m : MemoryStore) (identifier : Text) : Except Failure (List UInt8) :=
  if m.unreadable.contains identifier then .error (.storage (.denied ("denied: " ++ identifier)))
  else
    match m.files.get? identifier with
    | some data => .ok data
    | none => .error (.storage (.absent identifier))

/-- Writes the bytes of a source: in place, or at the end. -/
def put (m : MemoryStore) (identifier : Text) (data : List UInt8) : MemoryStore :=
  { m with files := m.files.put identifier data }

def delete (m : MemoryStore) (identifier : Text) : MemoryStore :=
  { m with files := m.files.erase identifier }

/-- The bytes of a map of values as a properties text. -/
def render (values : OrderedMap Value) : Except Failure (List UInt8) := do
  let text ← Properties.dump values []
  (Utf8.encode text).mapError .unencodable

def persist (m : MemoryStore) (identifier : Text) (values : OrderedMap Value) : Commit MemoryStore :=
  match m.persistError with
  | some reason => ⟨m, [], .error (.storage (.denied reason))⟩
  | none =>
    match render values with
    | .ok data => ⟨m.put identifier data, [], .ok ()⟩
    | .error e => ⟨m, [], .error e⟩

instance : Store MemoryStore where
  reader m := ⟨m.resolvePrimary, fun directory => .pure (m.listSupplementary directory), m.read⟩
  persist := persist

end MemoryStore

end LayeredConfig
