import LayeredConfig.Load
import LayeredConfig.Persist
import LayeredConfig.View

/-!
# The configuration of a process

A configuration is loaded once, by the first operation that needs it, and holds what was loaded from then on,
whatever becomes of the sources. A first load that fails because of the configuration itself is remembered: the
failure is reported once, and each later operation fails with it. Any other failure is not remembered. `seed`
loads from a given primary source at once, and takes the place of whatever was held if it succeeds; `reset` goes
back to the start.
-/

namespace LayeredConfig

inductive Phase
  | unloaded
  /-- The failure of the first load. -/
  | failed (e : Failure)
  | loaded (l : Loaded)

structure Configuration where
  primaryName : Text
  supplementaryDirectory : Text
  phase : Phase

namespace Configuration

def defaultPrimaryName : Text := "lsc.properties"

def defaultDirectory : Text := "lsc.d"

/-- A configuration that holds nothing yet. -/
def new (primaryName supplementaryDirectory : Text) : Configuration :=
  ⟨primaryName, supplementaryDirectory, .unloaded⟩

def loaded? (c : Configuration) : Option Loaded :=
  match c.phase with
  | .loaded l => some l
  | _ => none

def isLoaded (c : Configuration) : Bool :=
  c.loaded?.isSome

/-- The configuration that holds the given namespace instead of its own. -/
def withNamespace (c : Configuration) (ns : Namespace) : Configuration :=
  match c.phase with
  | .loaded l => { c with phase := .loaded { l with namespace_ := ns } }
  | _ => c

/-- What the configuration holds, loaded now if this was not done yet. -/
def load (c : Configuration) (r : SourceReader) : Configuration × Run Loaded :=
  match c.phase with
  | .loaded l => (c, .pure l)
  | .failed e => (c, .fail e)
  | .unloaded =>
    let run := r.load c.primaryName c.supplementaryDirectory
    match run.result with
    | .ok l => ({ c with phase := .loaded l }, run)
    | .error e =>
      if e.isOfConfiguration then
        ({ c with phase := .failed e },
          ⟨run.acts ++ [.report (.unloadable c.primaryName e)], .error e⟩)
      else (c, run)

/-- Loads from the primary source at `location`, now. An empty name of a directory stands for the
configuration's own. -/
def seed (c : Configuration) (r : SourceReader) (location : Text) (directory : Option Text) :
    Configuration × Run Loaded :=
  let chosen :=
    match directory with
    | none | some [] => c.supplementaryDirectory
    | some d => d
  let run := r.loadFrom location chosen
  match run.result with
  | .ok l => ({ c with phase := .loaded l }, run)
  | .error _ => (c, run)

def reset (c : Configuration) : Configuration :=
  { c with phase := .unloaded }

/-- The fingerprint of what readers are given. -/
def fingerprintOf (l : Loaded) : Except Failure Text :=
  Fingerprint.ofTexts (l.namespace_.snapshot.mapValues RawValue.decoded)

def shown (c : Configuration) : Text :=
  "Configuration(primary_name=" ++ c.primaryName.quoted ++ ", state=" ++
    (if c.isLoaded then "loaded" else "unloaded" : Text) ++ ")"

end Configuration

end LayeredConfig
