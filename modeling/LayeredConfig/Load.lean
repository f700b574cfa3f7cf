import LayeredConfig.Fingerprint
import LayeredConfig.Namespace.Merge
import LayeredConfig.Run
import LayeredConfig.Source.Parse

/-!
# Loading a configuration

A configuration is one primary source and any number of supplementary ones. The primary source gives a new
namespace; the supplementary ones are merged in one after the other, ordered by their names and then by their
whole identifiers, so the last one wins and the order in which they are listed does not matter. A candidate in
no known format is passed over, and so is the primary source where it is listed too. The first source that cannot
be read ends the load.
-/

namespace LayeredConfig

/-- How sources are found and read, at one moment. -/
structure SourceReader where
  resolvePrimary : Text → Except Failure Text
  listSupplementary : Text → Run (List Text)
  read : Text → Except Failure (List UInt8)

structure Loaded where
  namespace_ : Namespace
  location : Text
  /-- The identifiers of the supplementary sources that were merged, in order. -/
  supplementary : List Text

namespace Supplementary

def nameOf (identifier : Text) : Text :=
  (Path.ofText identifier).name

/-- Whether `a` is applied before `b`: by name, and by the whole identifier where the names are equal. -/
def le (a b : Text) : Bool :=
  if nameOf a = nameOf b then a.le b else (nameOf a).le (nameOf b)

def isSupported (identifier : Text) : Bool :=
  (Format.of? identifier).isSome

/-- The candidates in a known format, in the order in which they are applied. -/
def order (identifiers : List Text) : List Text :=
  (identifiers.filter isSupported).mergeSort le

/-- What is reported of the other candidates. -/
def ignored (identifiers : List Text) : List Log.Notice :=
  (identifiers.filter fun identifier => !isSupported identifier).map .ignoring

end Supplementary

namespace SourceReader

/-- The values of a source. A refused access makes the source unreadable. -/
def values (r : SourceReader) (identifier : Text) (strict : Bool) : Run (OrderedMap RawValue) :=
  let data : Except Failure (List UInt8) :=
    match r.read identifier with
    | .error (.storage e) => .error (.source ⟨.unreadable e, some identifier, none⟩)
    | other => other
  ⟨[.read identifier], do Source.parse identifier (← data) strict⟩

def loadPrimary (r : SourceReader) (identifier : Text) : Run Namespace := do
  Run.report [.loading identifier]
  let values ← r.values identifier false
  Run.ofExcept (Namespace.ofValues (values.mapValues RawValue.toValue) (some identifier))

def addSupplementary (r : SourceReader) (ns : Namespace) (identifier : Text) : Run Namespace := do
  Run.report [.adding identifier]
  let values ← r.values identifier true
  let merged := ns.merge (values.mapValues RawValue.toValue) identifier
  Run.report merged.notices
  let _ ← Run.ofExcept merged.result
  return merged.state

def addAll (r : SourceReader) (ns : Namespace) : List Text → Run Namespace
  | [] => return ns
  | identifier :: rest => do addAll r (← r.addSupplementary ns identifier) rest

/-- Loads the primary source at `location` and the supplementary sources of a directory. -/
def loadFrom (r : SourceReader) (location directory : Text) : Run Loaded := do
  let primary ← r.loadPrimary location
  let candidates ← r.listSupplementary directory
  Run.report (Supplementary.ignored candidates)
  let applied := (Supplementary.order candidates).filter (· ≠ location)
  let ns ← r.addAll primary applied
  let fingerprint ← Run.ofExcept (Fingerprint.ofRaw ns.snapshot)
  Run.report [.loaded ns.size applied.length ns.overrides.length fingerprint]
  return ⟨ns, location, applied⟩

def load (r : SourceReader) (name directory : Text) : Run Loaded := do
  r.loadFrom (← Run.ofExcept (r.resolvePrimary name)) directory

end SourceReader

end LayeredConfig
