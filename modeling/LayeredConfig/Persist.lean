import LayeredConfig.Namespace.Merge

/-!
# Saving changes

Changes are set in a namespace, each key behind an optional prefix, and the whole namespace is written to where
its primary source came from. A change whose value is not accepted refuses all changes before anything is done. If
the place where sources live refuses the write, the changes stay in the namespace and the refusal is reported.
-/

namespace LayeredConfig

/-- What a write to the place where sources live leaves. `τ` is the place. -/
abbrev Commit (τ : Type) := Outcome τ Unit

namespace Namespace

/-- Sets changes in order, up to the first one that cannot be set. -/
def applyChanges (location : Text) (lead : Option Text) :
    Namespace → List (Text × Value) → Namespace × Except Failure Unit
  | ns, [] => (ns, .ok ())
  | ns, (key, value) :: rest =>
    match ns.set (Text.qualify lead key) value (some location) with
    | .ok ns => applyChanges location lead ns rest
    | .error e => (ns, .error e)

/-- Writes a namespace as it is. Only a refusal of the place is a failure to save; a text that cannot be
encoded is reported as such. -/
def commit {τ : Type} (ns : Namespace) (location : Text)
    (persist : Text → OrderedMap Value → Commit τ) : Outcome (Namespace × τ) Unit :=
  let written := persist location (ns.snapshot.mapValues RawValue.toValue)
  match written.result with
  | .error (.storage e) =>
    ⟨(ns, written.state), written.notices ++ [.unsaved location e], .error (.unsaved location e)⟩
  | r => ⟨(ns, written.state), written.notices, r⟩

/-- Sets changes and writes the namespace to `location`. -/
def write {τ : Type} (ns : Namespace) (place : τ) (location : Text) (lead : Option Text)
    (changes : OrderedMap Value) (persist : Text → OrderedMap Value → Commit τ) :
    Outcome (Namespace × τ) Unit :=
  match firstMisfit? changes.entries with
  | some key => ⟨(ns, place), [], .error (.misfit (.changed (Text.qualify lead key)))⟩
  | none =>
    match applyChanges location lead ns changes.entries with
    | (ns, .error e) => ⟨(ns, place), [], .error e⟩
    | (ns, .ok ()) => ns.commit location persist

end Namespace

end LayeredConfig
