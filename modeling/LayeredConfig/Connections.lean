import LayeredConfig.View

/-!
# Connections

The parameters of the two ends between which entries are synchronised: those of the source stand behind `src`,
those of the destination behind `dst`. Where there are none, the older prefix `ldap` is taken for the
destination.
-/

namespace LayeredConfig.Scope

def sourceView (s : Scope) : Except Failure View :=
  s.subset "src"

def destinationView (s : Scope) (ns : Namespace) : Except Failure View := do
  let v ← s.subset "dst"
  if v.isEmpty ns then s.subset "ldap" else return v

/-- The parameters of the source. -/
def sourceProperties (s : Scope) (ns : Namespace) : Except Failure (List (Text × Option Text)) :=
  s.sourceView.map (·.toList ns)

/-- The parameters of the destination. -/
def destinationProperties (s : Scope) (ns : Namespace) : Except Failure (List (Text × Option Text)) :=
  (s.destinationView ns).map (·.toList ns)

end LayeredConfig.Scope
