import LayeredConfig.Configuration
import LayeredConfig.Proofs.Load.Success
import LayeredConfig.Proofs.Persist.Changes
import LayeredConfig.Store.Basic

/-!
# Sessions

A session is a configuration in use while its sources change. `Session.step` is one operation of a user or one change
of the sources, and `Session.run` a whole run of them. Besides what the program holds, a session remembers where
its configuration came from: the sources as they were when it was loaded, and the directory that was searched
(`Origin`). No operation reads this.

* **`Session.inv_run`** — whatever happened since, what is held has the location and the supplementary
  sources of a load from the origin, and no empty key.
-/

namespace LayeredConfig

/-! ## Operations -/

/-- A change of the namespace that is held. -/
inductive Edit
  /-- Sets a key, of the whole namespace or of a view. -/
  | set (scope : Scope) (key : Text) (value : Value) (source : Option Text)
  | remove (key : Text)
  | merge (values : OrderedMap Value) (source : Text)

/-- The namespace that a change leaves, whether it succeeds or not. -/
def Edit.apply (ns : Namespace) : Edit → Namespace
  | .set scope key value source =>
    match scope.set ns key value source with
    | .ok ns => ns
    | .error _ => ns
  | .remove key => (ns.remove key).2
  | .merge values source => (ns.merge values source).state

/-- What happens to a configuration and its sources. -/
inductive Operation (τ : Type)
  /-- The configuration is asked for something, and loads if it has not done so yet. -/
  | load
  | seed (location : Text) (directory : Option Text)
  | reset
  /-- Its namespace is changed, but not saved. -/
  | edit (e : Edit)
  /-- Properties are set and saved. -/
  | setProperties (lead : Option Text) (changes : OrderedMap Value)
  /-- The sources become others. -/
  | sources (store : τ)

/-- Where a configuration came from. -/
structure Origin (τ : Type) where
  /-- The sources when it was loaded. -/
  store : τ
  directory : Text

/-- A configuration in use. Its origin means something only while it holds something. -/
structure Session (τ : Type) where
  configuration : Configuration
  store : τ
  origin : Origin τ

namespace Configuration

/-- The directory that a load from a location searches. -/
def chosen (c : Configuration) : Option Text → Text
  | none | some [] => c.supplementaryDirectory
  | some directory => directory

variable {c c' : Configuration} {r : SourceReader} {l : Loaded} {acts : List Act}

/-- The directory that was chosen would be chosen again. -/
theorem chosen_some_chosen (c : Configuration) (directory : Option Text) :
    c.chosen (some (c.chosen directory)) = c.chosen directory := by
  have hown : c.chosen (some c.supplementaryDirectory) = c.supplementaryDirectory := by
    cases hc : c.supplementaryDirectory with
    | nil => exact hc
    | cons d ds => rfl
  rcases directory with _ | _ | ⟨d, ds⟩
  · exact hown
  · exact hown
  · rfl

/-- Only the own directory of a configuration has a part in the choice. -/
theorem chosen_congr (h : c'.supplementaryDirectory = c.supplementaryDirectory) (directory : Option Text) :
    c'.chosen directory = c.chosen directory := by
  rcases directory with _ | _ | ⟨d, ds⟩
  · exact h
  · exact h
  · rfl

/-- What is held is not loaded again. -/
theorem load_of_loaded (h : c.phase = .loaded l) : c.load r = (c, .pure l) := by
  rw [load, h]

/-- A failure that is remembered is the answer. -/
theorem load_of_failed {e : Failure} (h : c.phase = .failed e) : c.load r = (c, .fail e) := by
  rw [load, h]

/-- A first load that succeeds is held. -/
theorem load_of_result (h : c.phase = .unloaded) (hl : (r.load c.primaryName c.supplementaryDirectory).result = .ok l) :
    (c.load r).1 = { c with phase := .loaded l } := by
  rw [load, h]
  simp only [hl]

/-- A first load that fails is remembered and reported if the configuration is at fault, and forgotten otherwise. -/
theorem load_of_error {e : Failure} (h : c.phase = .unloaded)
    (he : (r.load c.primaryName c.supplementaryDirectory).result = .error e) :
    c.load r =
      if e.isOfConfiguration then
        ({ c with phase := .failed e },
          ⟨(r.load c.primaryName c.supplementaryDirectory).acts ++ [.report (.unloadable c.primaryName e)], .error e⟩)
      else (c, r.load c.primaryName c.supplementaryDirectory) := by
  rw [load, h]
  simp only [he]

/-- Whether it is remembered or not, the answer is that of the load. -/
theorem result_load_of_unloaded (h : c.phase = .unloaded) :
    (c.load r).2.result = (r.load c.primaryName c.supplementaryDirectory).result := by
  cases hresult : (r.load c.primaryName c.supplementaryDirectory).result with
  | ok l =>
    rw [load, h]
    simp only [hresult]
  | error e =>
    rw [load_of_error h hresult]
    split
    · rfl
    · exact hresult

/-- After an answer, what was answered is held. -/
theorem phase_load (h : (c.load r).2.result = .ok l) : (c.load r).1.phase = .loaded l := by
  rw [load] at h ⊢
  cases hphase : c.phase with
  | loaded l' =>
    rw [hphase] at h
    cases h
    exact hphase
  | failed e =>
    rw [hphase] at h
    cases h
  | unloaded =>
    rw [hphase] at h
    simp only at h ⊢
    cases hresult : (r.load c.primaryName c.supplementaryDirectory).result with
    | ok l' =>
      rw [hresult] at h
      have hl : l' = l := by simpa [hresult] using h
      rw [← hl]
    | error e =>
      rw [hresult] at h
      cases hconfiguration : e.isOfConfiguration <;> simp [hconfiguration, hresult] at h

/-- What is held after a first load was loaded by it. -/
theorem load_of_unloaded (h : c.phase = .unloaded) (hl : (c.load r).1.phase = .loaded l) :
    (r.load c.primaryName c.supplementaryDirectory).result = .ok l := by
  rw [load, h] at hl
  simp only at hl
  cases hresult : (r.load c.primaryName c.supplementaryDirectory).result with
  | ok l' =>
    rw [hresult] at hl
    cases hl
    rfl
  | error e =>
    rw [hresult] at hl
    cases hconfiguration : e.isOfConfiguration with
    | true =>
      simp only [hconfiguration, if_true] at hl
      cases hl
    | false =>
      simp only [hconfiguration, Bool.false_eq_true, if_false] at hl
      rw [h] at hl
      cases hl

@[simp] theorem supplementaryDirectory_load (c : Configuration) (r : SourceReader) :
    (c.load r).1.supplementaryDirectory = c.supplementaryDirectory := by
  rw [load]
  split
  · rfl
  · rfl
  · simp only
    split
    · rfl
    · split <;> rfl

@[simp] theorem supplementaryDirectory_withNamespace (c : Configuration) (ns : Namespace) :
    (c.withNamespace ns).supplementaryDirectory = c.supplementaryDirectory := by
  rw [withNamespace]
  split <;> rfl

theorem phase_withNamespace (h : c.phase = .loaded l) (ns : Namespace) :
    (c.withNamespace ns).phase = .loaded { l with namespace_ := ns } := by
  rw [withNamespace, h]

/-- Loading from a location holds what was loaded, or what was held before. -/
theorem seed_eq (c : Configuration) (r : SourceReader) (location : Text) (directory : Option Text) :
    c.seed r location directory =
      (match (r.loadFrom location (c.chosen directory)).result with
        | .ok l => { c with phase := .loaded l }
        | .error _ => c,
      r.loadFrom location (c.chosen directory)) := by
  have hsplit : ∀ run : Run Loaded,
      (match run.result with
        | .ok l => ({ c with phase := .loaded l }, run)
        | .error _ => (c, run)) =
      (match run.result with
        | .ok l => { c with phase := .loaded l }
        | .error _ => c,
      run) := by
    intro run
    cases run.result <;> rfl
  rcases directory with _ | _ | ⟨d, ds⟩
  · exact hsplit _
  · exact hsplit _
  · exact hsplit _

/-- A seed succeeds as the load from its location does, and holds what that gives. -/
theorem seed_eq_ok {location : Text} {directory : Option Text} :
    c.seed r location directory = (c', ⟨acts, .ok l⟩) ↔
      r.loadFrom location (c.chosen directory) = ⟨acts, .ok l⟩ ∧ c' = { c with phase := .loaded l } := by
  rw [seed_eq]
  constructor
  · intro h
    obtain ⟨hphase, hrun⟩ := Prod.mk.inj h
    rw [hrun] at hphase
    exact ⟨hrun, hphase.symm⟩
  · rintro ⟨hrun, rfl⟩
    rw [hrun]

/-! ## Setting properties -/

section SetProperties

variable {τ : Type} [Store τ] {c : Configuration} {store : τ} {l : Loaded}

/-- What is written when properties are set. -/
def written (l : Loaded) (store : τ) (lead : Option Text) (changes : OrderedMap Value) :
    Outcome (Namespace × τ) Unit :=
  l.namespace_.write store l.location lead changes (Store.persist store)

/-- Properties are set in what a load answers, and written from there. -/
theorem setProperties_of_ok (h : (c.load (Store.reader store)).2.result = .ok l) (lead : Option Text)
    (changes : OrderedMap Value) :
    (c.setProperties store lead changes).1 =
        ((c.load (Store.reader store)).1.withNamespace (written l store lead changes).state.1,
          (written l store lead changes).state.2) ∧
      (c.setProperties store lead changes).2.result = (written l store lead changes).result := by
  rw [setProperties]
  simp only [h]
  exact ⟨rfl, rfl⟩

/-- Without an answer nothing is set or written. -/
theorem setProperties_of_error {e : Failure} (h : (c.load (Store.reader store)).2.result = .error e)
    (lead : Option Text) (changes : OrderedMap Value) :
    (c.setProperties store lead changes).1 = ((c.load (Store.reader store)).1, store) := by
  rw [setProperties]
  simp only [h]

/-- Properties that were set and saved: all changes were made, and what they left was saved. -/
theorem saved_of_setProperties {lead : Option Text} {changes : OrderedMap Value}
    (hl : (c.load (Store.reader store)).2.result = .ok l)
    (hset : (c.setProperties store lead changes).2.result = .ok ()) :
    ∃ ns, Namespace.Admits lead changes ∧ ns = l.namespace_.changed l.location lead changes ∧
      (Store.persist store l.location (ns.snapshot.mapValues RawValue.toValue)).result = .ok () ∧
      (c.setProperties store lead changes).1 =
        ((c.load (Store.reader store)).1.withNamespace ns,
          (Store.persist store l.location (ns.snapshot.mapValues RawValue.toValue)).state) := by
  obtain ⟨hstate, hwritten⟩ := setProperties_of_ok hl lead changes
  obtain ⟨hadmits, hpersist, hleft⟩ := Namespace.write_eq_ok (hwritten.symm.trans hset)
  refine ⟨_, hadmits, rfl, hpersist, ?_⟩
  rw [hstate, written, hleft]

end SetProperties

end Configuration

/-! ## Runs -/

variable {τ : Type} [Store τ]

/-- Layers without empty keys make a namespace without one. -/
theorem Layer.keyed_stack {layers : List Layer} (h : ∀ l ∈ layers, l.Keyed) : (stack layers).Keyed := by
  intro key hkey
  have hmem : key ∈ (layers.flatMap fun l => l.values.keys).eraseDups := keys_stack layers ▸ hkey
  obtain ⟨l, hl, hlayer⟩ := List.mem_flatMap.mp (List.mem_eraseDups.mp hmem)
  exact h l hl key hlayer

namespace Session

/-- A new configuration, and the sources as they are at the beginning. -/
def start (primaryName supplementaryDirectory : Text) (store : τ) : Session τ :=
  ⟨.new primaryName supplementaryDirectory, store, ⟨store, supplementaryDirectory⟩⟩

/-- The session after a load, if there was none before. -/
def load (s : Session τ) : Session τ where
  configuration := (s.configuration.load (Store.reader s.store)).1
  store := s.store
  origin := if s.configuration.isLoaded then s.origin else ⟨s.store, s.configuration.supplementaryDirectory⟩

/-- One operation. What it answers is left to others. -/
def step (s : Session τ) : Operation τ → Session τ
  | .load => s.load
  | .seed location directory =>
    let (c, run) := s.configuration.seed (Store.reader s.store) location directory
    match run.result with
    | .ok _ => ⟨c, s.store, ⟨s.store, s.configuration.chosen directory⟩⟩
    | .error _ => ⟨c, s.store, s.origin⟩
  | .reset => { s with configuration := s.configuration.reset }
  | .edit e =>
    match s.load.configuration.phase with
    | .loaded l => { s.load with configuration := s.load.configuration.withNamespace (e.apply l.namespace_) }
    | _ => s.load
  | .setProperties lead changes =>
    let left := (s.configuration.setProperties s.store lead changes).1
    ⟨left.1, left.2, s.load.origin⟩
  | .sources store => { s with store := store }

def run (s : Session τ) (operations : List (Operation τ)) : Session τ :=
  operations.foldl step s

/-! ## What is held came from the origin -/

/-- What is held has the location and the supplementary sources of a load from the origin, and no empty key. -/
structure FromOrigin (s : Session τ) (l : Loaded) : Prop where
  /-- From the origin a load succeeds, and merges the same sources. -/
  loads : ∃ l₀, ((Store.reader s.origin.store).loadFrom l.location s.origin.directory).result = .ok l₀ ∧
    l₀.supplementary = l.supplementary
  /-- The directory is one that can be asked for. -/
  directory : s.configuration.chosen (some s.origin.directory) = s.origin.directory
  keyed : l.namespace_.Keyed

/-- Whatever is held came from the origin. -/
def Inv (s : Session τ) : Prop :=
  ∀ l, s.configuration.phase = .loaded l → s.FromOrigin l

variable {s : Session τ} {l : Loaded}

/-- Another namespace does not change where it came from. -/
theorem FromOrigin.withNamespace {s' : Session τ} (h : s.FromOrigin l) {ns : Namespace} (hkeyed : ns.Keyed)
    (horigin : s'.origin = s.origin)
    (hdirectory : s'.configuration.supplementaryDirectory = s.configuration.supplementaryDirectory) :
    s'.FromOrigin { l with namespace_ := ns } where
  loads := by
    rw [horigin]
    exact h.loads
  directory := by
    rw [horigin, Configuration.chosen_congr hdirectory]
    exact h.directory
  keyed := hkeyed

/-- A load that succeeds is its own origin. -/
theorem fromOrigin_of_loadFrom {s' : Session τ} {location : Text} {directory : Option Text} {acts : List Act}
    (h : (Store.reader s.store).loadFrom location (s.configuration.chosen directory) = ⟨acts, .ok l⟩)
    (horigin : s'.origin = ⟨s.store, s.configuration.chosen directory⟩)
    (hdirectory : s'.configuration.supplementaryDirectory = s.configuration.supplementaryDirectory) :
    s'.FromOrigin l := by
  have hlocation : l.location = location := SourceReader.location_of_loadFrom h
  obtain ⟨_, _, primary, rest, _, _, happlies, _, hl, _⟩ := SourceReader.loadFrom_eq_ok.mp h
  refine ⟨⟨l, ?_, rfl⟩, ?_, ?_⟩
  · rw [horigin, hlocation, h]
  · rw [horigin, Configuration.chosen_congr hdirectory]
    exact Configuration.chosen_some_chosen _ _
  · rw [hl]
    exact Layer.keyed_stack happlies.keyed

/-- Loading keeps what is held, or is the origin of what it loads. -/
theorem inv_load (h : s.Inv) : s.load.Inv := by
  intro l hl
  cases hphase : s.configuration.phase with
  | loaded l' =>
    have hload : s.load = s := by
      rw [load, Configuration.load_of_loaded hphase, Configuration.isLoaded, Configuration.loaded?, hphase]
      rfl
    rw [hload] at hl ⊢
    exact h l hl
  | failed e =>
    rw [load, Configuration.load_of_failed hphase, hphase] at hl
    cases hl
  | unloaded =>
    have hresult := Configuration.load_of_unloaded hphase hl
    have horigin : s.load.origin = ⟨s.store, s.configuration.chosen none⟩ := by
      rw [load, Configuration.isLoaded, Configuration.loaded?, hphase]
      rfl
    obtain ⟨location, -, hfrom⟩ := SourceReader.load_eq_ok.mp (Run.eq_of_result hresult)
    exact fromOrigin_of_loadFrom hfrom horigin (Configuration.supplementaryDirectory_load _ _)

/-- A seed is the origin of what it loads, or leaves what was held. -/
theorem inv_seed (h : s.Inv) (location : Text) (directory : Option Text) :
    (s.step (.seed location directory)).Inv := by
  intro l hl
  rw [step, Configuration.seed_eq] at hl ⊢
  rcases hrun : (Store.reader s.store).loadFrom location (s.configuration.chosen directory) with ⟨acts, e | l'⟩
  · -- a load that fails leaves what was held
    rw [hrun] at hl
    exact ⟨(h l hl).loads, (h l hl).directory, (h l hl).keyed⟩
  · rw [hrun] at hl
    cases hl
    exact fromOrigin_of_loadFrom hrun rfl rfl

/-- No change brings an empty key into the namespace. -/
theorem keyed_apply {ns : Namespace} (h : ns.Keyed) (e : Edit) : (e.apply ns).Keyed := by
  cases e with
  | set scope key value source =>
    rw [Edit.apply]
    cases hset : scope.set ns key value source with
    | ok ns' => exact h.set hset
    | error e => exact h
  | remove key => exact h.remove key
  | merge values source => exact h.merge values source

/-- A change of the namespace does not change where it came from. -/
theorem inv_edit (h : s.Inv) (e : Edit) : (s.step (.edit e)).Inv := by
  have hload : s.load.Inv := inv_load h
  rw [step]
  cases hphase : s.load.configuration.phase with
  | loaded l' =>
    intro l hl
    have hheld := Configuration.phase_withNamespace hphase (e.apply l'.namespace_)
    obtain rfl := Phase.loaded.inj (hheld.symm.trans hl)
    have horigin := hload l' hphase
    exact horigin.withNamespace (keyed_apply horigin.keyed e) rfl
      (Configuration.supplementaryDirectory_withNamespace _ _)
  | failed e => exact hload
  | unloaded => exact hload

/-- Whether properties are saved or not, what is held afterwards has the origin of what was loaded. -/
theorem inv_setProperties (h : s.Inv) (lead : Option Text) (changes : OrderedMap Value) :
    (s.step (.setProperties lead changes)).Inv := by
  have hload : s.load.Inv := inv_load h
  rw [step]
  cases hresult : (s.configuration.load (Store.reader s.store)).2.result with
  | ok l' =>
    obtain ⟨hstate, -⟩ := Configuration.setProperties_of_ok hresult lead changes
    rw [hstate]
    intro l hl
    have hphase : s.load.configuration.phase = .loaded l' := Configuration.phase_load hresult
    have hheld := Configuration.phase_withNamespace hphase
      (Configuration.written l' s.store lead changes).state.1
    obtain rfl := Phase.loaded.inj (hheld.symm.trans hl)
    have horigin := hload l' hphase
    exact horigin.withNamespace (horigin.keyed.write _ _ _ _ _) rfl
      (Configuration.supplementaryDirectory_withNamespace _ _)
  | error e =>
    rw [Configuration.setProperties_of_error hresult]
    exact fun l hl => ⟨(hload l hl).loads, (hload l hl).directory, (hload l hl).keyed⟩

/-- **One step** keeps the invariant. -/
theorem inv_step (h : s.Inv) (operation : Operation τ) : (s.step operation).Inv := by
  cases operation with
  | load => exact inv_load h
  | seed location directory => exact inv_seed h location directory
  -- nothing is held after a reset
  | reset =>
    intro l hl
    cases hl
  | edit e => exact inv_edit h e
  | setProperties lead changes => exact inv_setProperties h lead changes
  -- the origin remembers the sources of the load, not those of now
  | sources store => exact fun l hl => ⟨(h l hl).loads, (h l hl).directory, (h l hl).keyed⟩

/-- **A whole run** keeps the invariant: whatever is held at its end came from the origin. -/
theorem inv_run (primaryName supplementaryDirectory : Text) (store : τ) (operations : List (Operation τ)) :
    ((start primaryName supplementaryDirectory store).run operations).Inv := by
  have hrun : ∀ s : Session τ, s.Inv → (s.run operations).Inv := by
    induction operations with
    | nil => exact fun s h => h
    | cons operation rest ih => exact fun s h => ih (s.step operation) (inv_step h operation)
  -- at the start nothing is held
  refine hrun _ fun l hl => ?_
  cases hl

/-- A run of a single load. -/
theorem run_load {primaryName supplementaryDirectory : Text} {store : τ}
    (h : ((Store.reader store).load primaryName supplementaryDirectory).result = .ok l) :
    (start primaryName supplementaryDirectory store).run [.load] =
      ⟨⟨primaryName, supplementaryDirectory, .loaded l⟩, store, ⟨store, supplementaryDirectory⟩⟩ := by
  have hload := Configuration.load_of_result (c := .new primaryName supplementaryDirectory) rfl h
  show (start primaryName supplementaryDirectory store).load = _
  rw [load, start, hload]
  rfl

end Session

end LayeredConfig
