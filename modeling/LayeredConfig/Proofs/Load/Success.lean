import LayeredConfig.Load
import LayeredConfig.Proofs.Load.Layers
import LayeredConfig.Proofs.Load.Order
import LayeredConfig.Proofs.Run

/-!
# Successful loads

A load that succeeds read a list of layers: the primary source first, and then the supplementary sources that it
applied. This module takes the load apart, one lemma for each of its steps, into the layers, the namespace and
what was done on the way. Each lemma is an equivalence, so it also tells when the step succeeds.

* **`addAll_eq_ok`** — the supplementary sources, by induction on their identifiers.
* **`loadFrom_eq_ok`** — a whole load, in terms of `Applies` (which layers there are) and `loadActs` (what is done).
-/

namespace LayeredConfig

/-- What merging a layer does besides changing the namespace: it reports and reads the source, and reports each
override. -/
def Layer.actsOnto (ns : Namespace) (l : Layer) : List Act :=
  [.report (.adding l.source), .read l.source] ++
    (ns.overridesOf l.source l.values.entries).map fun o => .report (.overridden o)

/-- What merging layers in order does. -/
def Layer.stackActs (ns : Namespace) : List Layer → List Act
  | [] => []
  | l :: rest => l.actsOnto ns ++ stackActs (Layer.onto ns l) rest

namespace SourceReader

variable {r : SourceReader} {acts : List Act}

/-- Reading the source of the layer and parsing it gives the values of the layer. -/
def Provides (r : SourceReader) (strict : Bool) (l : Layer) : Prop :=
  ∃ data, r.read l.source = .ok data ∧ Source.parse l.source data strict = .ok l.values

/-- The layers that a load from `location` applies: the primary source, in any format, and then the candidates
of the directory that are applied. -/
structure Applies (r : SourceReader) (location : Text) (candidates : List Text) (primary : Layer)
    (rest : List Layer) : Prop where
  /-- The first layer comes from the location. -/
  source_primary : primary.source = location
  /-- It is what is read there. -/
  provides_primary : r.Provides false primary
  /-- The others come from the candidates in known formats; the location does not count as one. -/
  sources_rest : (rest.map Layer.source).Perm
    (candidates.filter fun c => Supplementary.isSupported c && c ≠ location)
  /-- They are applied by name, and by the whole identifier where the names are equal. -/
  sorted_rest : (rest.map Layer.source).Pairwise Supplementary.Before
  /-- They are what is read there. -/
  provides_rest : ∀ l ∈ rest, r.Provides true l
  /-- No layer has an empty key. -/
  keyed : ∀ l ∈ primary :: rest, l.Keyed

/-! ## One source -/

/-- **The values of a source** can be had exactly if it can be read and parsed. -/
theorem values_eq_ok {identifier : Text} {strict : Bool} {m : OrderedMap RawValue} :
    r.values identifier strict = ⟨acts, .ok m⟩ ↔
      acts = [.read identifier] ∧ r.Provides strict ⟨identifier, m⟩ := by
  rw [values, Provides]
  constructor
  · intro h
    refine ⟨(congrArg Run.acts h).symm, ?_⟩
    have hresult := congrArg Run.result h
    cases hread : r.read identifier with
    | ok data =>
      rw [hread] at hresult
      exact ⟨data, rfl, hresult⟩
    | error e =>
      rw [hread] at hresult
      cases e <;> cases hresult
  · rintro ⟨rfl, data, hread, hparse⟩
    simp only [hread, ← hparse]
    rfl

/-- **The primary source** is loaded exactly if its values can be had and have no empty key. -/
theorem loadPrimary_eq_ok {identifier : Text} {ns : Namespace} :
    r.loadPrimary identifier = ⟨acts, .ok ns⟩ ↔
      ∃ l : Layer, l.source = identifier ∧ r.Provides false l ∧ l.Keyed ∧ ns = Layer.stack [l] ∧
        acts = [.report (.loading identifier), .read identifier] := by
  rw [loadPrimary]
  simp only [Run.bind_eq_ok, Run.report_eq_ok, values_eq_ok, Run.ofExcept_eq_ok]
  constructor
  · rintro ⟨_, ⟨⟩, _, rfl, ⟨_, values, _, ⟨rfl, hprovides⟩, ⟨rfl, hset⟩, rfl⟩, rfl⟩
    have hkeyed : Layer.Keyed ⟨identifier, values⟩ := Namespace.keys_ne_nil_of_ofValues hset
    rw [Namespace.ofValues_eq hkeyed] at hset
    exact ⟨⟨identifier, values⟩, rfl, hprovides, hkeyed, (Except.ok.inj hset).symm, rfl⟩
  · rintro ⟨⟨_, values⟩, rfl, hprovides, hkeyed, rfl, rfl⟩
    exact ⟨_, (), _, rfl, ⟨_, values, _, ⟨rfl, hprovides⟩, ⟨rfl, Namespace.ofValues_eq hkeyed _⟩, rfl⟩, rfl⟩

/-- **Any other source** is merged exactly under the same conditions, over what was merged before. -/
theorem addSupplementary_eq_ok {ns ns' : Namespace} {identifier : Text} :
    r.addSupplementary ns identifier = ⟨acts, .ok ns'⟩ ↔
      ∃ l : Layer, l.source = identifier ∧ r.Provides true l ∧ l.Keyed ∧ ns' = Layer.onto ns l ∧
        acts = l.actsOnto ns := by
  rw [addSupplementary]
  simp only [Run.bind_eq_ok, Run.report_eq_ok, values_eq_ok, Run.ofExcept_eq_ok, Run.pure_eq_ok]
  constructor
  · rintro ⟨_, ⟨⟩, _, rfl, ⟨_, values, _, ⟨rfl, hprovides⟩,
      ⟨_, ⟨⟩, _, rfl, ⟨_, os, _, ⟨rfl, hmerged⟩, ⟨rfl, rfl⟩, rfl⟩, rfl⟩, rfl⟩, rfl⟩
    -- a merge that succeeds met no empty key, and then it is known what it leaves
    have hkeyed : Layer.Keyed ⟨identifier, values⟩ := Namespace.keys_ne_nil_of_merge hmerged
    rw [Namespace.merge_eq_overlay ns hkeyed]
    refine ⟨⟨identifier, values⟩, rfl, hprovides, hkeyed, rfl, ?_⟩
    simp only [Layer.actsOnto, List.map_map, List.append_nil, List.map_cons, List.map_nil,
      List.cons_append, List.nil_append]
    rfl
  · rintro ⟨⟨source, values⟩, rfl, hprovides, hkeyed, rfl, rfl⟩
    refine ⟨_, (), _, rfl, ⟨_, values, _, ⟨rfl, hprovides⟩,
      ⟨_, (), _, rfl, ⟨_, ns.overridesOf source values.entries, _, ⟨rfl, ?_⟩, ⟨rfl, ?_⟩, rfl⟩, rfl⟩, rfl⟩, ?_⟩
    · rw [Namespace.merge_eq_overlay ns hkeyed]
    · rw [Namespace.merge_eq_overlay ns hkeyed]
      rfl
    · rw [Namespace.merge_eq_overlay ns hkeyed]
      simp only [Layer.actsOnto, List.map_map, List.append_nil, List.map_cons, List.map_nil,
        List.cons_append, List.nil_append]
      rfl

/-! ## Many sources -/

/-- **Supplementary sources are merged in order** exactly if each one can be read and parsed and has no empty key. -/
theorem addAll_eq_ok {identifiers : List Text} {ns ns' : Namespace} {acts : List Act} :
    r.addAll ns identifiers = ⟨acts, .ok ns'⟩ ↔
      ∃ layers : List Layer, layers.map Layer.source = identifiers ∧ (∀ l ∈ layers, r.Provides true l) ∧
        (∀ l ∈ layers, l.Keyed) ∧ ns' = Layer.stackOn ns layers ∧ acts = Layer.stackActs ns layers := by
  -- over every namespace merged so far, since each layer is merged into the one before it left
  induction identifiers generalizing ns acts with
  | nil =>
    rw [addAll, Run.pure_eq_ok]
    constructor
    · rintro ⟨rfl, rfl⟩
      exact ⟨[], rfl, by simp, by simp, rfl, rfl⟩
    · rintro ⟨layers, hsources, -, -, rfl, rfl⟩
      rw [List.map_eq_nil_iff] at hsources
      rw [hsources]
      exact ⟨rfl, rfl⟩
  | cons identifier rest ih =>
    rw [addAll]
    simp only [Run.bind_eq_ok, addSupplementary_eq_ok, ih]
    constructor
    · rintro ⟨_, _, _, ⟨l, rfl, hprovides, hkeyed, rfl, rfl⟩, ⟨layers, rfl, hrest, hkeys, rfl, rfl⟩, rfl⟩
      exact ⟨l :: layers, rfl, List.forall_mem_cons.mpr ⟨hprovides, hrest⟩,
        List.forall_mem_cons.mpr ⟨hkeyed, hkeys⟩, rfl, rfl⟩
    · rintro ⟨layers, hsources, hprovides, hkeyed, rfl, rfl⟩
      obtain ⟨l, layers, rfl, rfl, hrest⟩ := List.map_eq_cons_iff.mp hsources
      obtain ⟨hl, hlayers⟩ := List.forall_mem_cons.mp hprovides
      obtain ⟨hkey, hkeys⟩ := List.forall_mem_cons.mp hkeyed
      exact ⟨_, _, _, ⟨l, rfl, hl, hkey, rfl, rfl⟩, ⟨layers, hrest, hlayers, hkeys, rfl, rfl⟩, rfl⟩

/-! ## A whole load -/

/-- What a successful load does: it reads the primary source, lists the directory and reports the candidates in no
known format, merges the others, and reports what it has. -/
def loadActs (listing : List Act) (candidates : List Text) (primary : Layer) (rest : List Layer)
    (fingerprint : Text) : List Act :=
  let ns := Layer.stack (primary :: rest)
  [.report (.loading primary.source), .read primary.source] ++ listing ++
    (Supplementary.ignored candidates).map .report ++ Layer.stackActs (Layer.stack [primary]) rest ++
    [.report (.loaded ns.size rest.length ns.overrides.length fingerprint)]

/-- **A load succeeds** exactly if the directory can be listed, all layers can be read, and what they make can
be fingerprinted; it gives the namespace of the layers. -/
theorem loadFrom_eq_ok {location directory : Text} {loaded : Loaded} :
    r.loadFrom location directory = ⟨acts, .ok loaded⟩ ↔
      ∃ listing candidates primary rest fingerprint,
        r.listSupplementary directory = ⟨listing, .ok candidates⟩ ∧
        r.Applies location candidates primary rest ∧
        Fingerprint.ofRaw (Layer.stack (primary :: rest)).snapshot = .ok fingerprint ∧
        loaded = ⟨Layer.stack (primary :: rest), location, rest.map Layer.source⟩ ∧
        acts = loadActs listing candidates primary rest fingerprint := by
  rw [loadFrom]
  simp only [Run.bind_eq_ok, loadPrimary_eq_ok, Run.report_eq_ok, addAll_eq_ok, Run.ofExcept_eq_ok,
    Run.pure_eq_ok]
  constructor
  · rintro ⟨_, _, _, ⟨primary, rfl, hprimary, hkey, rfl, rfl⟩, ⟨listing, candidates, _, hlist, ⟨_, ⟨⟩, _, rfl,
      ⟨_, _, _, ⟨rest, hsources, hrest, hkeys, rfl, rfl⟩, ⟨_, fingerprint, _, ⟨rfl, hfingerprint⟩,
        ⟨_, ⟨⟩, _, rfl, ⟨rfl, rfl⟩, rfl⟩, rfl⟩, rfl⟩, rfl⟩, rfl⟩, rfl⟩
    -- the program sorts and then leaves the location out; the layers only have to be in order
    obtain ⟨hperm, hsorted⟩ := Supplementary.eq_filter_order_iff.mp hsources
    refine ⟨listing, candidates, primary, rest, fingerprint, hlist,
      ⟨rfl, hprimary, hperm, hsorted, hrest, List.forall_mem_cons.mpr ⟨hkey, hkeys⟩⟩, hfingerprint, ?_, ?_⟩
    · rw [hsources]
      rfl
    · simp only [loadActs, ← hsources, List.length_map, List.append_assoc, List.nil_append, List.append_nil]
      rfl
  · rintro ⟨listing, candidates, primary, rest, fingerprint, hlist, ⟨rfl, hprimary, hperm, hsorted, hrest, hkeyed⟩,
      hfingerprint, rfl, rfl⟩
    have hsources := Supplementary.eq_filter_order_iff.mpr ⟨hperm, hsorted⟩
    obtain ⟨hkey, hkeys⟩ := List.forall_mem_cons.mp hkeyed
    refine ⟨_, _, _, ⟨primary, rfl, hprimary, hkey, rfl, rfl⟩, ⟨listing, candidates, _, hlist, ⟨_, (), _, rfl,
      ⟨_, _, _, ⟨rest, hsources, hrest, hkeys, rfl, rfl⟩, ⟨_, fingerprint, _, ⟨rfl, hfingerprint⟩,
        ⟨_, (), _, rfl, ⟨rfl, ?_⟩, rfl⟩, rfl⟩, rfl⟩, rfl⟩, rfl⟩, ?_⟩
    · rw [hsources]
      rfl
    · simp only [loadActs, ← hsources, List.length_map, List.append_assoc, List.nil_append, List.append_nil]
      rfl

/-- Where a load starts. -/
inductive Start
  | location (location : Text)
  | name (name : Text)

/-- The location of the primary source. -/
def locate (r : SourceReader) : Start → Except Failure Text
  | .location location => .ok location
  | .name name => r.resolvePrimary name

/-- A load from either start. -/
def loadAt (r : SourceReader) : Start → Text → Run Loaded
  | .location location, directory => r.loadFrom location directory
  | .name name, directory => r.load name directory

/-- A load by name is one from the location that the name stands for. -/
theorem load_eq_ok {name directory : Text} {loaded : Loaded} :
    r.load name directory = ⟨acts, .ok loaded⟩ ↔
      ∃ location, r.resolvePrimary name = .ok location ∧
        r.loadFrom location directory = ⟨acts, .ok loaded⟩ := by
  rw [load]
  simp only [Run.bind_eq_ok, Run.ofExcept_eq_ok]
  constructor
  · rintro ⟨_, location, _, ⟨rfl, hresolve⟩, hload, rfl⟩
    exact ⟨location, hresolve, hload⟩
  · rintro ⟨location, hresolve, hload⟩
    exact ⟨[], location, acts, ⟨rfl, hresolve⟩, hload, rfl⟩

/-- What was loaded knows where from. -/
theorem location_of_loadFrom {location directory : Text} {loaded : Loaded}
    (h : r.loadFrom location directory = ⟨acts, .ok loaded⟩) : loaded.location = location := by
  obtain ⟨_, _, _, _, _, _, _, _, rfl, _⟩ := loadFrom_eq_ok.mp h
  rfl

/-- A load from either start is one from the location that it finds. -/
theorem loadAt_eq_ok {start : Start} {directory : Text} {loaded : Loaded} :
    r.loadAt start directory = ⟨acts, .ok loaded⟩ ↔
      r.locate start = .ok loaded.location ∧
        r.loadFrom loaded.location directory = ⟨acts, .ok loaded⟩ := by
  cases start with
  | location location =>
    constructor
    · intro h
      have hlocation : loaded.location = location := location_of_loadFrom h
      rw [hlocation]
      exact ⟨rfl, h⟩
    · rintro ⟨hlocate, h⟩
      cases hlocate
      exact h
  | name name =>
    show r.load name directory = _ ↔ _
    rw [load_eq_ok]
    constructor
    · rintro ⟨location, hresolve, h⟩
      have hlocation : loaded.location = location := location_of_loadFrom h
      rw [hlocation]
      exact ⟨hresolve, h⟩
    · rintro ⟨hlocate, h⟩
      exact ⟨loaded.location, hlocate, h⟩

/-- A load that starts at `start` and ends at `location` reads these layers. -/
structure Reads (r : SourceReader) (start : Start) (directory location : Text) (primary : Layer)
    (rest : List Layer) : Prop where
  /-- This is where the load starts. -/
  located : r.locate start = .ok location
  /-- The layers are those of the candidates that the directory has. -/
  applies : ∃ candidates, (r.listSupplementary directory).result = .ok candidates ∧
    r.Applies location candidates primary rest

/-- **What a successful load is**: the layers that it read, the namespace that they make, and what was done. -/
theorem exists_layers {start : Start} {directory : Text} {loaded : Loaded}
    (h : (r.loadAt start directory).result = .ok loaded) :
    ∃ listing candidates primary rest fingerprint,
      r.listSupplementary directory = ⟨listing, .ok candidates⟩ ∧
      r.Reads start directory loaded.location primary rest ∧
      loaded.namespace_ = Layer.stack (primary :: rest) ∧
      loaded.supplementary = rest.map Layer.source ∧
      (r.loadAt start directory).acts = loadActs listing candidates primary rest fingerprint := by
  obtain ⟨hlocate, hfrom⟩ := loadAt_eq_ok.mp (Run.eq_of_result h)
  obtain ⟨listing, candidates, primary, rest, fingerprint, hlist, happlies, -, hloaded, hacts⟩ :=
    loadFrom_eq_ok.mp hfrom
  refine ⟨listing, candidates, primary, rest, fingerprint, hlist, ⟨hlocate, candidates, ?_, happlies⟩, ?_, ?_,
    hacts⟩
  · rw [hlist]
  · rw [hloaded]
  · rw [hloaded]

end SourceReader

end LayeredConfig
