import LayeredConfig.Log.Notice
import LayeredConfig.Namespace.Basic

/-!
# Merging a source

The values of a source are merged key by key: each key that was there before is recorded as an override, and the
new value replaces the old one. Values are checked before anything is changed. A key that cannot be set stops
the merge where it stands, with the keys before it already merged, so a merge answers with the namespace it
leaves whether it succeeds or not.
-/

namespace LayeredConfig

/-- What an operation on a state leaves: the state, what was reported, and the answer. -/
structure Outcome (σ α : Type) where
  state : σ
  notices : List Log.Notice
  result : Except Failure α

namespace Namespace

/-- The override that setting a key from a source is. -/
def override? (ns : Namespace) (key : Text) (value : RawValue) (source : Text) : Option Override :=
  (ns.entries.get? key).map fun old => ⟨key, value, old.value, source, old.source⟩

def noteOverride (ns : Namespace) (o : Option Override) : Namespace :=
  { ns with overrides := ns.overrides ++ o.toList }

/-- The first key whose value is not accepted as a raw value. -/
def firstMisfit? (values : List (Text × Value)) : Option Text :=
  (values.find? fun e => !e.2.isRaw).map Prod.fst

/-- Merges entries in order; the answer is the list of overrides. -/
def mergeEntries (source : Text) : Namespace → List (Text × RawValue) → Outcome Namespace (List Override)
  | ns, [] => ⟨ns, [], .ok []⟩
  | ns, (key, value) :: rest =>
    let o := ns.override? key value source
    let noted := ns.noteOverride o
    let notices := o.toList.map Log.Notice.overridden
    if key.isEmpty then ⟨noted, notices, .error .badKey⟩
    else
      let after := mergeEntries source (noted.put key value (some source)) rest
      ⟨after.state, notices ++ after.notices, after.result.map (o.toList ++ ·)⟩

def merge (ns : Namespace) (values : OrderedMap Value) (source : Text) : Outcome Namespace (List Override) :=
  match firstMisfit? values.entries with
  | some key => ⟨ns, [], .error (.misfit (.merged key source))⟩
  | none =>
    mergeEntries source ns
      (values.entries.filterMap fun (key, v) => (RawValue.ofValue? v).map (key, ·))

end Namespace

end LayeredConfig
