import LayeredConfig.Configuration

/-!
# Places where sources live

A `Store` is a place where sources live. It can be read at any moment (`Store.reader`), and a map of values can
be written to one of its sources (`Store.persist`); both can be refused. Setting properties of a configuration
changes its namespace and writes it back to where its primary source came from.
-/

namespace LayeredConfig

/-- A place where sources live. -/
class Store (τ : Type) where
  /-- How the sources are found and read as they are now. -/
  reader : τ → SourceReader
  persist : τ → Text → OrderedMap Value → Commit τ

namespace Configuration

/-- Sets changes behind an optional prefix, and writes all values to the primary source. -/
def setProperties {τ : Type} [Store τ] (c : Configuration) (store : τ) (lead : Option Text)
    (changes : OrderedMap Value) : (Configuration × τ) × Run Unit :=
  let (c, run) := c.load (Store.reader store)
  match run.result with
  | .error e => ((c, store), ⟨run.acts, .error e⟩)
  | .ok l =>
    let written := l.namespace_.write store l.location lead changes (Store.persist store)
    let (ns, store) := written.state
    ((c.withNamespace ns, store), ⟨run.acts ++ written.notices.map .report, written.result⟩)

end Configuration

end LayeredConfig
