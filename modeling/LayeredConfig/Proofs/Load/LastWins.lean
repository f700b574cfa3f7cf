import LayeredConfig.Proofs.Fingerprint
import LayeredConfig.Proofs.Load.Success
import LayeredConfig.Store.Memory

/-!
# The last source wins

What a load gives is told by the layers that it read, without running a merge (**`SourceReader.last_source_wins`**):
its keys are those of the layers in the order of first appearance, and at each key it has the value and the source of
the last layer that defines the key. `Stacked` is a store with layers that define a key again.
-/

namespace LayeredConfig

/-- A store with one source. -/
def MemoryStore.single (identifier : Text) (data : List UInt8) : MemoryStore where
  files := .ofList [(identifier, data)]
  unreadable := []
  persistError := none

/-! ## A store with three layers -/

namespace Stacked

/-- The bytes of a text of ASCII characters. -/
def ascii (s : String) : List UInt8 :=
  s.toList.map fun c => UInt8.ofNat c.toNat

/-- A primary source, and in its directory two sources that define some of its keys again and one in no known
format. -/
def store : MemoryStore where
  files := .ofList [("app.properties", ascii "a=1\nb=1\n"), ("app.d/20.properties", ascii "b=3\n"),
    ("app.d/10.properties", ascii "b=2\nc=2\n"), ("app.d/notes.txt", ascii "later")]
  unreadable := []
  persistError := none

def primary : Layer := ⟨"app.properties", .ofList [("a", .text "1"), ("b", .text "1")]⟩

def first : Layer := ⟨"app.d/10.properties", .ofList [("b", .text "2"), ("c", .text "2")]⟩

def second : Layer := ⟨"app.d/20.properties", .ofList [("b", .text "3")]⟩

def loaded : Loaded where
  namespace_ := Layer.stack [primary, first, second]
  location := primary.source
  supplementary := [first.source, second.source]

/-- Its three sources in known formats are the layers. -/
theorem applies : (Store.reader store).Applies primary.source (store.listSupplementary "app.d") primary
    [first, second] where
  source_primary := rfl
  provides_primary := ⟨ascii "a=1\nb=1\n", by decide +kernel, by decide +kernel⟩
  sources_rest := by decide +kernel
  sorted_rest := by
    have hle : Supplementary.le first.source second.source = true := by decide +kernel
    -- the store lists the second one first
    have hbefore : Supplementary.Before first.source second.source := Supplementary.le_iff_before.mp hle
    simp [hbefore]
  provides_rest := by
    have hfirst : (Store.reader store).Provides true first :=
      ⟨ascii "b=2\nc=2\n", by decide +kernel, by decide +kernel⟩
    have hsecond : (Store.reader store).Provides true second :=
      ⟨ascii "b=3\n", by decide +kernel, by decide +kernel⟩
    simp [hfirst, hsecond]
  keyed := by
    unfold Layer.Keyed
    decide

/-- The store can be loaded by the name of its primary source. -/
theorem loads : ((Store.reader store).loadAt (.name primary.source) "app.d").result = .ok loaded := by
  have hpossible : Fingerprint.Possible (Layer.stack [primary, first, second]).snapshot := by
    unfold Fingerprint.Possible
    decide
  obtain ⟨fingerprint, hfingerprint⟩ := (Fingerprint.exists_ofRaw_iff _).mpr hpossible
  have hlocate : (Store.reader store).locate (.name primary.source) = .ok loaded.location := by decide +kernel
  have hfrom := SourceReader.loadFrom_eq_ok.mpr
    ⟨[], _, primary, [first, second], fingerprint, rfl, applies, hfingerprint, rfl, rfl⟩
  have hload := SourceReader.loadAt_eq_ok.mpr ⟨hlocate, hfrom⟩
  rw [hload]

end Stacked

/-! ## Every load -/

/-- At each key a stack has the value and the source of the last layer that defines it. -/
theorem Layer.lookup_stack {layers : List Layer} {j : Nat} {l : Layer} {key : Text} {value : RawValue}
    (hj : layers[j]? = some l) (hvalue : l.values.get? key = some value)
    (hlast : ∀ (i : Nat) (l' : Layer), j < i → layers[i]? = some l' → l'.values.get? key = none) :
    (stack layers).get? key = some value ∧ (stack layers).sourceOf key = some l.source := by
  have hentry : l.lookup? key = some ⟨value, some l.source⟩ := by
    rw [lookup?, hvalue]
    rfl
  have hstored : (stack layers).entries.get? key = some ⟨value, some l.source⟩ := by
    rw [get?_stack]
    exact latest?_eq_some_iff.mpr ⟨j, l, hj, hentry, hlast⟩
  constructor
  · rw [Namespace.get?, hstored]
    rfl
  · rw [Namespace.sourceOf, hstored]
    rfl

/-- **The last source wins.** A load that succeeds read a primary source and then the supplementary ones in order
(`Reads`), and nothing but these layers decides the keys, the values and their sources, and what it says it
merged. -/
theorem SourceReader.last_source_wins {r : SourceReader} {start : Start} {directory : Text} {loaded : Loaded}
    (h : (r.loadAt start directory).result = .ok loaded) :
    ∃ primary rest, r.Reads start directory loaded.location primary rest ∧
      loaded.supplementary = rest.map Layer.source ∧
      loaded.namespace_.keys = ((primary :: rest).flatMap fun l => l.values.keys).eraseDups ∧
      ∀ (j : Nat) (l : Layer) (key : Text) (value : RawValue),
        (primary :: rest)[j]? = some l → l.values.get? key = some value →
        (∀ (i : Nat) (l' : Layer), j < i → (primary :: rest)[i]? = some l' → l'.values.get? key = none) →
        loaded.namespace_.get? key = some value ∧ loaded.namespace_.sourceOf key = some l.source := by
  obtain ⟨-, -, primary, rest, -, -, hreads, hstack, hsupplementary, -⟩ := exists_layers h
  refine ⟨primary, rest, hreads, hsupplementary, ?_, fun j l key value hj hvalue hlast => ?_⟩
  · rw [hstack]
    exact Layer.keys_stack (primary :: rest)
  · rw [hstack]
    exact Layer.lookup_stack hj hvalue hlast

theorem SourceReader.last_source_wins_stacked :
    ∃ loaded, ((Store.reader Stacked.store).loadAt (.name Stacked.primary.source) "app.d").result = .ok loaded ∧
      ∃ primary rest, (Store.reader Stacked.store).Reads (.name Stacked.primary.source) "app.d" loaded.location
          primary rest ∧
        loaded.supplementary = rest.map Layer.source ∧
        loaded.namespace_.keys = ((primary :: rest).flatMap fun l => l.values.keys).eraseDups := by
  obtain ⟨primary, rest, hreads, hsupplementary, hkeys, -⟩ := SourceReader.last_source_wins Stacked.loads
  exact ⟨Stacked.loaded, Stacked.loads, primary, rest, hreads, hsupplementary, hkeys⟩

example : Stacked.loaded.namespace_.get? "b" = some (.text "3") ∧
    Stacked.loaded.namespace_.sourceOf "b" = some "app.d/20.properties" := by decide

end LayeredConfig
