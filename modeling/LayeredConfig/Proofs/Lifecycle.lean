import LayeredConfig.Proofs.Load.LastWins
import LayeredConfig.Proofs.Session
import LayeredConfig.Store.Files

/-!
# Loaded once

A configuration is in one of three phases. A program that keeps what was loaded and the failure in two places of
their own (`Slots`) has four; that the fourth is never reached is not a matter of types but of what `load`, `seed` and
`reset` assign, and `Slots.run_ofPhase` follows the two places through every run.

Apart from that, one lemma says what each operation does to the phase, and everything else is read off it.

* **`reads_loadAt`** — a load that succeeds reads its location and what it merged, each once.
* **`step_of_loads`**, **`phase_step_of_loaded`** — an operation that loads, and one that finds something loaded:
  either way the namespace changes by what the operation writes and by nothing else.
* **`Session.life_cycle`** — these along a whole run, whatever happens to the sources meanwhile.
-/

namespace LayeredConfig

/-! ## What is read -/

/-- What is read among acts, in order. -/
def Act.reads (acts : List Act) : List Text :=
  (Run.mk acts (.ok ())).reads

namespace Act

theorem reads_append (acts acts' : List Act) : reads (acts ++ acts') = reads acts ++ reads acts' :=
  List.filterMap_append

/-- Reporting reads nothing. -/
theorem reads_map_report (notices : List Log.Notice) : reads (notices.map .report) = [] := by
  induction notices with
  | nil => rfl
  | cons n rest ih => exact ih

/-- Merging a layer reads its source, and once. -/
theorem reads_actsOnto (ns : Namespace) (l : Layer) : reads (l.actsOnto ns) = [l.source] := by
  have hreports := reads_map_report ((ns.overridesOf l.source l.values.entries).map Log.Notice.overridden)
  rw [List.map_map] at hreports
  rw [Layer.actsOnto, reads_append]
  exact congrArg ([l.source] ++ ·) hreports

/-- Merging layers reads the source of each, in order. -/
theorem reads_stackActs (layers : List Layer) :
    ∀ ns : Namespace, reads (Layer.stackActs ns layers) = layers.map Layer.source := by
  induction layers with
  | nil => exact fun _ => rfl
  | cons l rest ih =>
    intro ns
    rw [Layer.stackActs, reads_append, reads_actsOnto, ih]
    rfl

end Act

namespace SourceReader

variable {r : SourceReader} {start : Start} {directory : Text} {l : Loaded}

/-- A load reads its location, then what the listing reads, then what it merges. -/
theorem reads_loadActs (listing : List Act) (candidates : List Text) (primary : Layer) (rest : List Layer)
    (fingerprint : Text) :
    Act.reads (loadActs listing candidates primary rest fingerprint) =
      primary.source :: (Act.reads listing ++ rest.map Layer.source) := by
  unfold loadActs
  simp only [Act.reads_append, Act.reads_map_report, Act.reads_stackActs]
  show [primary.source] ++ Act.reads listing ++ [] ++ rest.map Layer.source ++ [] = _
  simp

/-- What a load reads: the location, and each source that is merged. -/
structure ReadOnce (r : SourceReader) (directory : Text) (l : Loaded) (read : List Text) : Prop where
  read_eq : read = l.location :: l.supplementary
  location_notMem : l.location ∉ l.supplementary
  /-- No source comes twice, unless the directory lists it twice. -/
  nodup : ∀ candidates, (r.listSupplementary directory).result = .ok candidates → candidates.Nodup → read.Nodup

/-- **A load that succeeds reads every source once**, if listing a directory reads none. -/
theorem reads_loadAt (hlist : (r.listSupplementary directory).reads = [])
    (h : (r.loadAt start directory).result = .ok l) : r.ReadOnce directory l (r.loadAt start directory).reads := by
  obtain ⟨listing, candidates, primary, rest, fingerprint, hlisting, hreads, -, hsupplementary, hacts⟩ :=
    exists_layers h
  obtain ⟨candidates', hcandidates', happlies⟩ := hreads.applies
  have hcandidates : candidates' = candidates := by
    rw [hlisting] at hcandidates'
    exact (Except.ok.inj hcandidates').symm
  rw [hcandidates] at happlies
  have hquiet : Act.reads listing = [] := by
    rw [hlisting] at hlist
    exact hlist
  have hread : (r.loadAt start directory).reads = l.location :: l.supplementary := by
    show Act.reads (r.loadAt start directory).acts = _
    rw [hacts, reads_loadActs, hquiet, happlies.source_primary, hsupplementary]
    rfl
  -- the location is left out of the candidates, so it is not read a second time
  have hmem : ∀ identifier ∈ l.supplementary, identifier ≠ l.location := by
    intro identifier hidentifier
    rw [hsupplementary, happlies.sources_rest.mem_iff, List.mem_filter] at hidentifier
    obtain ⟨-, hkept⟩ := hidentifier
    exact of_decide_eq_true (Bool.and_eq_true_iff.mp hkept).2
  have hlocation : l.location ∉ l.supplementary := fun hin => hmem _ hin rfl
  refine ⟨hread, hlocation, fun listed hlisted hnodup => ?_⟩
  have hsame : listed = candidates := by
    rw [hlisting] at hlisted
    exact (Except.ok.inj hlisted).symm
  rw [hread, List.nodup_cons, hsupplementary, happlies.sources_rest.nodup_iff]
  rw [hsame] at hnodup
  exact ⟨hsupplementary ▸ hlocation, hnodup.filter _⟩

end SourceReader

/-- Listing a directory in memory reads no source. -/
theorem MemoryStore.reads_listSupplementary (m : MemoryStore) (directory : Text) :
    ((Store.reader m).listSupplementary directory).reads = [] := rfl

/-- In memory no source is listed twice. -/
theorem MemoryStore.nodup_listSupplementary (m : MemoryStore) (directory : Text) :
    (m.listSupplementary directory).Nodup :=
  m.files.nodup_keys.sublist List.filter_sublist

/-- Listing a directory of files reads none of them. -/
theorem FileStore.reads_listSupplementary (s : FileStore) (directory : Text) :
    ((Store.reader s).listSupplementary directory).reads = [] := by
  show (s.listSupplementary directory).reads = []
  unfold listSupplementary
  cases firstThat s.tree.isDirectory (s.roots.map fun root => root.join (Path.ofText directory)) with
  | error e => rfl
  | ok found =>
    cases found with
    | none => rfl
    | some p => rfl

/-! ## What is written -/

section Operations

variable {τ : Type}

/-- What an operation writes to a namespace that is held, whether it succeeds or not. -/
def Operation.write (location : Text) (ns : Namespace) : Operation τ → Namespace
  | .edit e => e.apply ns
  | .setProperties lead changes => ns.changed location lead changes
  | .load | .seed _ _ | .reset | .sources _ => ns

/-- The operation asks for what is held. -/
inductive Operation.Asks : Operation τ → Prop where
  | load : Asks .load
  | edit (e : Edit) : Asks (.edit e)
  | setProperties (lead : Option Text) (changes : OrderedMap Value) : Asks (.setProperties lead changes)

/-- The operation loads from a location that it is given. -/
def Operation.IsSeed : Operation τ → Prop
  | .seed _ _ => True
  | .load | .reset | .edit _ | .setProperties _ _ | .sources _ => False

/-- The values of a source are merged by hand. -/
def Operation.Merges : Operation τ → Prop
  | .edit (.merge _ _) => True
  | .edit (.set _ _ _ _) | .edit (.remove _) => False
  | .load | .seed _ _ | .reset | .setProperties _ _ | .sources _ => False

/-- What there is besides operations that ask for what is held. -/
theorem Operation.cases_asks (operation : Operation τ) :
    operation.Asks ∨ (∃ location directory, operation = .seed location directory) ∨ operation = .reset ∨
      ∃ store, operation = .sources store := by
  cases operation with
  | load => exact .inl .load
  | edit e => exact .inl (.edit e)
  | setProperties lead changes => exact .inl (.setProperties lead changes)
  | seed location directory => exact .inr (.inl ⟨location, directory, rfl⟩)
  | reset => exact .inr (.inr (.inl rfl))
  | sources store => exact .inr (.inr (.inr ⟨store, rfl⟩))

/-- Nothing but a merge by hand adds records. -/
theorem Operation.overrides_write {operation : Operation τ} (h : ¬ operation.Merges) (location : Text)
    (ns : Namespace) : (operation.write location ns).overrides = ns.overrides := by
  cases operation with
  | load => rfl
  | seed => rfl
  | reset => rfl
  | sources => rfl
  | setProperties lead changes => exact ns.overrides_changed location lead changes
  | edit e =>
    cases e with
    | set scope key value source =>
      rw [Operation.write, Edit.apply]
      cases hset : scope.set ns key value source with
      | error e => rfl
      | ok ns' =>
        obtain ⟨-, raw, -, rfl⟩ := Namespace.set_eq_ok hset
        rfl
    | remove key => rfl
    | merge values source => exact absurd trivial h

/-- Operations one after the other add no records, if none of them merges. -/
theorem Operation.overrides_foldl_write {operations : List (Operation τ)} (h : ∀ o ∈ operations, ¬ o.Merges)
    (location : Text) :
    ∀ ns : Namespace, (operations.foldl (Operation.write location) ns).overrides = ns.overrides := by
  induction operations with
  | nil => exact fun _ => rfl
  | cons operation rest ih =>
    intro ns
    obtain ⟨hfirst, hrest⟩ := List.forall_mem_cons.mp h
    rw [List.foldl_cons, ih hrest, overrides_write hfirst]

end Operations

/-! ## One operation -/

/-- If something is held after asking for it, that is the answer. -/
theorem Configuration.result_load {c : Configuration} {r : SourceReader} {l : Loaded}
    (h : (c.load r).1.phase = .loaded l) : (c.load r).2.result = .ok l := by
  cases hphase : c.phase with
  | loaded l' =>
    rw [load_of_loaded hphase] at h ⊢
    exact congrArg Except.ok (Phase.loaded.inj (hphase.symm.trans h))
  | failed e =>
    rw [load_of_failed hphase, hphase] at h
    cases h
  | unloaded =>
    have hresult := load_of_unloaded hphase h
    rw [load, hphase]
    simp only [hresult]

namespace Session

variable {τ : Type} [Store τ]

/-- From where an operation loads, and which directory it searches then. -/
def attempt (s : Session τ) : Operation τ → Option (SourceReader.Start × Text)
  | .seed location directory => some (.location location, s.configuration.chosen directory)
  | .load | .edit _ | .setProperties _ _ =>
    match s.configuration.phase with
    | .unloaded => some (.name s.configuration.primaryName, s.configuration.supplementaryDirectory)
    | .failed _ | .loaded _ => none
  | .reset | .sources _ => none

/-- The operation loads `l` from the sources as they are now, and takes it for what is held. -/
def Loads (s : Session τ) (operation : Operation τ) (directory : Text) (l : Loaded) : Prop :=
  ∃ start, s.attempt operation = some (start, directory) ∧
    ((Store.reader s.store).loadAt start directory).result = .ok l

/-- What an operation reads, in order. -/
def reads (s : Session τ) : Operation τ → List Text
  | .load | .edit _ => (s.configuration.load (Store.reader s.store)).2.reads
  | .seed location directory => (s.configuration.seed (Store.reader s.store) location directory).2.reads
  | .setProperties lead changes => (s.configuration.setProperties s.store lead changes).2.reads
  | .reset | .sources _ => []

/-- The operation forgets what is held, or loads anew and succeeds. -/
def Replaces (s : Session τ) : Operation τ → Prop
  | .reset => True
  | .seed location directory =>
    ∃ l, (s.configuration.seed (Store.reader s.store) location directory).2.result = .ok l
  | .load | .edit _ | .setProperties _ _ | .sources _ => False

/-- No operation of a run replaces what is held. -/
def Keeps (s : Session τ) : List (Operation τ) → Prop
  | [] => True
  | operation :: rest => ¬ s.Replaces operation ∧ (s.step operation).Keeps rest

variable {s : Session τ} {operation : Operation τ} {directory : Text} {l : Loaded}

/-- Asking for what is held reads what a load would read, and nothing besides. -/
theorem reads_of_asks (s : Session τ) (h : operation.Asks) :
    s.reads operation = (s.configuration.load (Store.reader s.store)).2.reads := by
  cases h with
  | load => rfl
  | edit e => rfl
  | setProperties lead changes =>
    unfold reads Configuration.setProperties
    cases hresult : (s.configuration.load (Store.reader s.store)).2.result with
    | error e =>
      simp only [hresult]
      rfl
    | ok l =>
      -- what is written is reported, and nothing more is read
      simp only [hresult]
      show Act.reads (_ ++ _) = Act.reads _
      rw [Act.reads_append, Act.reads_map_report, List.append_nil]

omit [Store τ] in
/-- All operations that ask for what is held make the same attempt. -/
theorem attempt_of_asks (s : Session τ) (h : operation.Asks) : s.attempt operation = s.attempt .load := by
  cases h with
  | load => rfl
  | edit e => rfl
  | setProperties lead changes => rfl

/-- What an operation leaves that asks for what is held and gets it. -/
theorem phase_step_of_asks (hasks : operation.Asks)
    (h : (s.configuration.load (Store.reader s.store)).2.result = .ok l) :
    (s.step operation).configuration.phase =
      .loaded { l with namespace_ := operation.write l.location l.namespace_ } := by
  have hphase : s.load.configuration.phase = .loaded l := Configuration.phase_load h
  cases hasks with
  | load => exact hphase
  | edit e =>
    rw [step, hphase]
    exact Configuration.phase_withNamespace hphase _
  | setProperties lead changes =>
    obtain ⟨hstate, -⟩ := Configuration.setProperties_of_ok h lead changes
    rw [step, hstate]
    show (s.load.configuration.withNamespace _).phase = _
    rw [Configuration.phase_withNamespace hphase, Configuration.written, Namespace.write_state_fst]
    rfl

/-- The first load of a configuration is the attempt that it makes. -/
theorem load_of_attempt {start : SourceReader.Start} (h : s.attempt .load = some (start, directory))
    (hresult : ((Store.reader s.store).loadAt start directory).result = .ok l) :
    (s.configuration.load (Store.reader s.store)).2 = (Store.reader s.store).loadAt start directory := by
  unfold attempt at h
  cases hphase : s.configuration.phase with
  | loaded l' => rw [hphase] at h; cases h
  | failed e => rw [hphase] at h; cases h
  | unloaded =>
    rw [hphase] at h
    cases h
    have hload : ((Store.reader s.store).load s.configuration.primaryName
        s.configuration.supplementaryDirectory).result = .ok l := hresult
    rw [Configuration.load, hphase]
    simp only [hload]
    rfl

/-- A seed loads from its location, in the directory that it chooses. -/
theorem seed_run (s : Session τ) (location : Text) (searched : Option Text) :
    (s.configuration.seed (Store.reader s.store) location searched).2 =
      (Store.reader s.store).loadFrom location (s.configuration.chosen searched) :=
  congrArg Prod.snd (Configuration.seed_eq s.configuration (Store.reader s.store) location searched)

/-- A seed that succeeds holds what it loaded, whatever was held before. -/
theorem phase_step_seed_of_ok {location : Text} {searched : Option Text}
    (h : (s.configuration.seed (Store.reader s.store) location searched).2.result = .ok l) :
    (s.step (.seed location searched)).configuration.phase = .loaded l := by
  rw [seed_run] at h
  rw [step, Configuration.seed_eq]
  simp only [h]

/-- A seed that fails changes nothing. -/
theorem step_seed_of_error {location : Text} {searched : Option Text} {e : Failure}
    (h : (s.configuration.seed (Store.reader s.store) location searched).2.result = .error e) :
    s.step (.seed location searched) = s := by
  rw [seed_run] at h
  rw [step, Configuration.seed_eq]
  simp only [h]

/-- **An operation that loads** holds what it loaded, and has read it once. -/
theorem step_of_loads (hlist : ((Store.reader s.store).listSupplementary directory).reads = [])
    (h : s.Loads operation directory l) :
    (s.step operation).configuration.phase =
        .loaded { l with namespace_ := operation.write l.location l.namespace_ } ∧
      (Store.reader s.store).ReadOnce directory l (s.reads operation) := by
  obtain ⟨start, hattempt, hresult⟩ := h
  have honce := SourceReader.reads_loadAt hlist hresult
  rcases operation.cases_asks with hasks | ⟨location, searched, rfl⟩ | rfl | ⟨store, rfl⟩
  · rw [attempt_of_asks s hasks] at hattempt
    have hload := load_of_attempt hattempt hresult
    refine ⟨phase_step_of_asks hasks (hload ▸ hresult), ?_⟩
    rw [reads_of_asks s hasks, hload]
    exact honce
  · obtain ⟨rfl, rfl⟩ := Prod.mk.inj (Option.some.inj hattempt)
    have hrun := s.seed_run location searched
    refine ⟨phase_step_seed_of_ok (hrun ▸ hresult), ?_⟩
    rw [reads, hrun]
    exact honce
  · cases hattempt
  · cases hattempt

/-- **An operation that finds something loaded** and does not replace it. -/
theorem phase_step_of_loaded (hphase : s.configuration.phase = .loaded l) (h : ¬ s.Replaces operation) :
    (s.step operation).configuration.phase =
      .loaded { l with namespace_ := operation.write l.location l.namespace_ } := by
  rcases operation.cases_asks with hasks | ⟨location, searched, rfl⟩ | rfl | ⟨store, rfl⟩
  · refine phase_step_of_asks hasks ?_
    rw [Configuration.load_of_loaded hphase]
    rfl
  · cases hresult : (s.configuration.seed (Store.reader s.store) location searched).2.result with
    | ok l' => exact absurd ⟨l', hresult⟩ h
    | error e =>
      rw [step_seed_of_error hresult]
      exact hphase
  · exact absurd trivial h
  · exact hphase

/-- Once something is held, only a seed reads. -/
theorem reads_of_loaded (hphase : s.configuration.phase = .loaded l) (hseed : ¬ operation.IsSeed) :
    s.reads operation = [] := by
  rcases operation.cases_asks with hasks | ⟨location, searched, rfl⟩ | rfl | ⟨store, rfl⟩
  · rw [reads_of_asks s hasks, Configuration.load_of_loaded hphase]
    rfl
  · exact absurd trivial hseed
  · rfl
  · rfl

/-- What an operation leaves that asks for what is held and does not get it. -/
theorem phase_step_of_not_loaded (hasks : operation.Asks) (h : ∀ l, s.load.configuration.phase ≠ .loaded l) :
    (s.step operation).configuration.phase = s.load.configuration.phase := by
  cases hasks with
  | load => rfl
  | edit e =>
    rw [step]
    split
    · rename_i l hphase
      exact absurd hphase (h l)
    · rfl
  | setProperties lead changes =>
    cases hresult : (s.configuration.load (Store.reader s.store)).2.result with
    | ok l => exact absurd (Configuration.phase_load hresult) (h l)
    | error e =>
      rw [step, Configuration.setProperties_of_error hresult]
      rfl

/-- What is held after an operation was loaded by it, or was held before. -/
theorem loads_or_loaded (h : (s.step operation).configuration.phase = .loaded l) :
    (∃ directory l', s.Loads operation directory l') ∨
      ∃ l', s.configuration.phase = .loaded l' ∧ ¬ s.Replaces operation := by
  rcases operation.cases_asks with hasks | ⟨location, searched, rfl⟩ | rfl | ⟨store, rfl⟩
  · have hload : ∃ l', s.load.configuration.phase = .loaded l' := by
      by_contra hno
      have hsame := phase_step_of_not_loaded hasks fun l' hl' => hno ⟨l', hl'⟩
      exact hno ⟨l, hsame ▸ h⟩
    obtain ⟨l', hl'⟩ := hload
    -- it asks for what is held, so all depends on the phase that it meets
    cases hphase : s.configuration.phase with
    | loaded l₀ =>
      refine .inr ⟨l₀, rfl, ?_⟩
      cases hasks
      all_goals exact id
    | failed e =>
      rw [load, Configuration.load_of_failed hphase, hphase] at hl'
      cases hl'
    | unloaded =>
      refine .inl ⟨s.configuration.supplementaryDirectory, l', .name s.configuration.primaryName, ?_, ?_⟩
      · rw [attempt_of_asks s hasks, attempt, hphase]
      · exact Configuration.load_of_unloaded hphase hl'
  · cases hresult : (s.configuration.seed (Store.reader s.store) location searched).2.result with
    | ok l' =>
      rw [seed_run] at hresult
      exact .inl ⟨_, l', .location location, rfl, hresult⟩
    | error e =>
      rw [step_seed_of_error hresult] at h
      refine .inr ⟨l, h, ?_⟩
      rintro ⟨l', hl'⟩
      rw [hresult] at hl'
      cases hl'
  · cases h
  · exact .inr ⟨l, h, id⟩

/-! ## Every run -/

/-- What is left of `l` after operations that did not replace it. -/
structure Held (s : Session τ) (l : Loaded) (done : List (Operation τ)) : Prop where
  /-- The namespace is changed by what the operations write; the rest is as it was loaded. -/
  phase : s.configuration.phase =
    .loaded { l with namespace_ := done.foldl (Operation.write l.location) l.namespace_ }
  overrides : (∀ o ∈ done, ¬ o.Merges) →
    (done.foldl (Operation.write l.location) l.namespace_).overrides = l.namespace_.overrides
  reads : ∀ o : Operation τ, ¬ o.IsSeed → s.reads o = []

/-- The phase says all that is to be known of what is held. -/
theorem held_of_phase {done : List (Operation τ)}
    (h : s.configuration.phase = .loaded { l with namespace_ := done.foldl (Operation.write l.location) l.namespace_ }) :
    s.Held l done :=
  ⟨h, fun hmerges => Operation.overrides_foldl_write hmerges _ _, fun _ hseed => reads_of_loaded h hseed⟩

/-- **A run** that keeps what is held. -/
theorem Held.run {later : List (Operation τ)} :
    ∀ {s : Session τ} {done : List (Operation τ)}, s.Held l done → s.Keeps later →
      (s.run later).Held l (done ++ later) := by
  induction later with
  | nil =>
    intro s done h _
    rw [List.append_nil]
    exact h
  -- what is done so far grows at its end by the operation that is next
  | cons operation later ih =>
    intro s done h hkeeps
    have hphase := phase_step_of_loaded h.phase hkeeps.1
    have hnext : (s.step operation).Held l (done ++ [operation]) := by
      refine held_of_phase ?_
      rw [List.foldl_append]
      exact hphase
    rw [List.append_cons]
    exact ih hnext hkeeps.2

end Session

/-! ## Two places -/

/-- What was loaded and the failure of the first load, each kept in a place of its own. -/
structure Slots where
  result : Option Loaded
  failure : Option Failure

namespace Slots

def empty : Slots := ⟨none, none⟩

def ofPhase : Phase → Slots
  | .unloaded => ⟨none, none⟩
  | .failed e => ⟨none, some e⟩
  | .loaded l => ⟨some l, none⟩

/-- A load assigns one place, and only if both are empty. -/
def load (m : Slots) (c : Configuration) (r : SourceReader) : Slots :=
  match m.result, m.failure with
  | some _, _ | none, some _ => m
  | none, none =>
    match (r.load c.primaryName c.supplementaryDirectory).result with
    | .ok l => { m with result := some l }
    | .error e => if e.isOfConfiguration then { m with failure := some e } else m

/-- The namespace of what is held changes, if anything is held. -/
def write (m : Slots) (change : Loaded → Namespace) : Slots :=
  { m with result := m.result.map fun l => { l with namespace_ := change l } }

variable {τ : Type} [Store τ]

def step (m : Slots) (s : Session τ) : Operation τ → Slots
  | .load => m.load s.configuration (Store.reader s.store)
  | .seed location directory =>
    match ((Store.reader s.store).loadFrom location (s.configuration.chosen directory)).result with
    | .ok l => ⟨some l, none⟩
    | .error _ => m
  | .reset => ⟨none, none⟩
  | .edit e => (m.load s.configuration (Store.reader s.store)).write fun l => e.apply l.namespace_
  | .setProperties lead changes =>
    (m.load s.configuration (Store.reader s.store)).write fun l =>
      (Configuration.written l s.store lead changes).state.1
  | .sources _ => m

def run (m : Slots) (s : Session τ) : List (Operation τ) → Slots
  | [] => m
  | operation :: rest => (m.step s operation).run (s.step operation) rest

/-- A load assigns the places as it changes the phase. -/
theorem load_ofPhase (c : Configuration) (r : SourceReader) :
    (ofPhase c.phase).load c r = ofPhase (c.load r).1.phase := by
  cases hphase : c.phase with
  | loaded l =>
    rw [Configuration.load_of_loaded hphase, hphase]
    rfl
  | failed e =>
    rw [Configuration.load_of_failed hphase, hphase]
    rfl
  | unloaded =>
    rw [Configuration.load, hphase]
    show (match (r.load c.primaryName c.supplementaryDirectory).result with
      | .ok l => _
      | .error e => if e.isOfConfiguration then _ else _) = _
    cases hresult : (r.load c.primaryName c.supplementaryDirectory).result with
    | ok l => simp only [hresult, ofPhase]
    | error e =>
      cases hconfiguration : e.isOfConfiguration with
      | true => simp only [hconfiguration, hresult, if_true, ofPhase]
      | false => simp only [hconfiguration, hresult, hphase, Bool.false_eq_true, if_false, ofPhase]

/-- Where nothing is held there is nothing to change. -/
theorem write_of_not_loaded {phase : Phase} (h : ∀ l, phase ≠ .loaded l) {change : Loaded → Namespace} :
    (ofPhase phase).write change = ofPhase phase := by
  cases phase with
  | unloaded => rfl
  | failed e => rfl
  | loaded l => exact absurd rfl (h l)

/-- **One step**: both places are assigned as the phase changes. -/
theorem step_ofPhase (s : Session τ) (operation : Operation τ) :
    (ofPhase s.configuration.phase).step s operation = ofPhase (s.step operation).configuration.phase := by
  have hload := load_ofPhase s.configuration (Store.reader s.store)
  -- the three operations that ask for what is held load first, and then write to what they got
  have hasked {change : Loaded → Namespace} (hasks : operation.Asks)
      (hchange : ∀ l, change l = operation.write l.location l.namespace_) :
      ((ofPhase s.configuration.phase).load s.configuration (Store.reader s.store)).write change =
        ofPhase (s.step operation).configuration.phase := by
    rw [hload]
    show (ofPhase s.load.configuration.phase).write change = _
    by_cases hloaded : ∃ l, s.load.configuration.phase = .loaded l
    · obtain ⟨l, hphase⟩ := hloaded
      rw [Session.phase_step_of_asks hasks (Configuration.result_load hphase), ← hchange, hphase]
      rfl
    · have hnone : ∀ l, s.load.configuration.phase ≠ .loaded l := not_exists.mp hloaded
      rw [Session.phase_step_of_not_loaded hasks hnone]
      exact write_of_not_loaded hnone
  cases operation with
  | load => exact hload
  | seed location directory =>
    have hrun := s.seed_run location directory
    rw [step]
    cases hresult : ((Store.reader s.store).loadFrom location (s.configuration.chosen directory)).result with
    | ok l =>
      rw [Session.phase_step_seed_of_ok (hrun ▸ hresult)]
      rfl
    | error e => rw [Session.step_seed_of_error (hrun ▸ hresult)]
  | reset => rfl
  | edit e => exact hasked (.edit e) fun _ => rfl
  | setProperties lead changes =>
    exact hasked (.setProperties lead changes) fun _ => Namespace.write_state_fst _ _ _ _ _ _
  | sources store => rfl

/-- **A whole run.** -/
theorem run_ofPhase (operations : List (Operation τ)) :
    ∀ s : Session τ, (ofPhase s.configuration.phase).run s operations = ofPhase (s.run operations).configuration.phase := by
  induction operations with
  | nil => exact fun _ => rfl
  | cons operation rest ih =>
    intro s
    rw [run, step_ofPhase]
    exact ih (s.step operation)

/-- The fourth combination of the two places does not occur. -/
theorem one_empty (phase : Phase) : (ofPhase phase).result = none ∨ (ofPhase phase).failure = none := by
  cases phase with
  | unloaded => exact .inl rfl
  | failed e => exact .inl rfl
  | loaded l => exact .inr rfl

end Slots

/-! ## The life cycle -/

/-- **A configuration is loaded once.** After any run `earlier`, whatever happened to the sources:

* of the place of what was loaded and that of a failure one is empty, and they hold what the phase says;
* an operation that loads reads each of its sources once, and from then on, while nothing replaces what it loaded, no
  operation but a seed reads any source, and the namespace changes by what the operations write alone;
* nothing else brings what is held there;
* a seed that fails leaves everything as it was. -/
theorem Session.life_cycle {τ : Type} [Store τ] {primaryName supplementaryDirectory : Text} {store : τ}
    {earlier : List (Operation τ)} {s : Session τ}
    (hlist : ∀ (store : τ) (directory : Text), ((Store.reader store).listSupplementary directory).reads = [])
    (hs : s = (start primaryName supplementaryDirectory store).run earlier) :
    (∃ m : Slots, m = Slots.empty.run (start primaryName supplementaryDirectory store) earlier ∧
      m = Slots.ofPhase s.configuration.phase ∧ (m.result = none ∨ m.failure = none)) ∧
    (∀ operation directory l, s.Loads operation directory l →
      (Store.reader s.store).ReadOnce directory l (s.reads operation) ∧
        ∀ later, (s.step operation).Keeps later → ((s.step operation).run later).Held l (operation :: later)) ∧
    (∀ operation l, (s.step operation).configuration.phase = .loaded l →
      (∃ directory l', s.Loads operation directory l') ∨
        ∃ l', s.configuration.phase = .loaded l' ∧ ¬ s.Replaces operation) ∧
    (∀ location directory e,
      (s.configuration.seed (Store.reader s.store) location directory).2.result = .error e →
        s.step (.seed location directory) = s) := by
  refine ⟨⟨_, rfl, ?_⟩, ?_, fun operation l h => loads_or_loaded h, fun location directory e h => step_seed_of_error h⟩
  · have hrun := Slots.run_ofPhase earlier (start primaryName supplementaryDirectory store)
    rw [← hs] at hrun
    have hslots : Slots.empty.run (start primaryName supplementaryDirectory store) earlier =
        Slots.ofPhase s.configuration.phase := hrun
    rw [hslots]
    exact ⟨rfl, Slots.one_empty _⟩
  · intro operation directory l hloads
    obtain ⟨hphase, honce⟩ := step_of_loads (hlist s.store directory) hloads
    have hheld : (s.step operation).Held l [operation] := held_of_phase hphase
    exact ⟨honce, fun later hkeeps => Held.run hheld hkeeps⟩

/-- Loaded, left without its sources, and changed. -/
theorem Session.life_cycle_stacked :
    ∃ s : Session MemoryStore, s = start Stacked.primary.source "app.d" Stacked.store ∧
      (s.reads .load).Nodup ∧ s.reads .load = Stacked.loaded.location :: Stacked.loaded.supplementary ∧
      ∀ gone : MemoryStore,
        ((s.run [.load, .sources gone, .edit (.set .whole "a" (.text "2") none)]).Held Stacked.loaded
          [.load, .sources gone, .edit (.set .whole "a" (.text "2") none)]) := by
  obtain ⟨s, hs⟩ : ∃ s, s = start Stacked.primary.source "app.d" Stacked.store := ⟨_, rfl⟩
  obtain ⟨-, hcycle, -, -⟩ := @Session.life_cycle MemoryStore _ Stacked.primary.source "app.d" Stacked.store [] s
    MemoryStore.reads_listSupplementary hs
  have hloads : s.Loads .load "app.d" Stacked.loaded := by
    rw [hs]
    exact ⟨.name Stacked.primary.source, rfl, Stacked.loads⟩
  obtain ⟨honce, hheld⟩ := hcycle .load "app.d" Stacked.loaded hloads
  have hnodup := honce.nodup _ rfl (MemoryStore.nodup_listSupplementary _ _)
  refine ⟨s, hs, hnodup, honce.read_eq, fun gone => ?_⟩
  have hkeeps : (s.step .load).Keeps [.sources gone, .edit (.set .whole "a" (.text "2") none)] := ⟨id, id, trivial⟩
  exact hheld _ hkeeps

end LayeredConfig
