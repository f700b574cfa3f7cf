import LayeredConfig.Proofs.Load.Parsed

/-!
# Failures that stay

When the first load of a configuration fails, the configuration may remember it: the failure is reported as an error
once, and every operation that asks for something fails with it from then on, without an act, until a reset or a seed
that succeeds (`Session.Sticky`). A load reports no error by itself (`SourceReader.errors_load`), so the one error there
is comes with the remembering.

* **`Session.phase_run_of_failed`** — a failure that is remembered stays along every run.
* **`Session.sticky_iff`** — what is remembered are the failures of the configuration and no others.
-/

namespace LayeredConfig

/-! ## What is reported as an error -/

/-- The errors that are reported among acts. -/
def Act.errors (acts : List Act) : List Log.Notice :=
  acts.filterMap fun
    | .report n => if n.record.level = Log.Level.error then some n else none
    | .read _ => none

def Run.errors {α : Type} (r : Run α) : List Log.Notice :=
  Act.errors r.acts

namespace Act

theorem errors_append (acts acts' : List Act) : errors (acts ++ acts') = errors acts ++ errors acts' :=
  List.filterMap_append

/-- Notices of other levels are no errors. -/
theorem errors_map_report {notices : List Log.Notice} (h : ∀ n ∈ notices, n.record.level ≠ Log.Level.error) :
    errors (notices.map .report) = [] := by
  rw [errors, List.filterMap_eq_nil_iff, List.forall_mem_map]
  intro n hn
  exact if_neg (h n hn)

end Act

namespace Run

variable {α β : Type}

/-- Two steps report no error if neither does. -/
theorem errors_bind {r : Run α} {f : α → Run β} (hr : r.errors = []) (hf : ∀ a, (f a).errors = []) :
    (r >>= f).errors = [] := by
  obtain ⟨acts, result⟩ := r
  cases result with
  | error e => exact hr
  | ok a =>
    show Act.errors (acts ++ (f a).acts) = []
    rw [Act.errors_append, List.append_eq_nil_iff]
    exact ⟨hr, hf a⟩

theorem errors_pure (a : α) : (Pure.pure a : Run α).errors = [] := rfl

theorem errors_ofExcept (r : Except Failure α) : (ofExcept r).errors = [] := rfl

theorem errors_report {notices : List Log.Notice} (h : ∀ n ∈ notices, n.record.level ≠ Log.Level.error) :
    (report notices).errors = [] :=
  Act.errors_map_report h

end Run

namespace SourceReader

variable {r : SourceReader} {directory : Text}

/-- Reading a source reports nothing. -/
theorem errors_values (r : SourceReader) (identifier : Text) (strict : Bool) :
    (r.values identifier strict).errors = [] := rfl

theorem errors_loadPrimary (r : SourceReader) (identifier : Text) : (r.loadPrimary identifier).errors = [] :=
  Run.errors_bind rfl fun _ => Run.errors_bind (r.errors_values identifier false) fun _ => Run.errors_ofExcept _

/-- Merging a source reports overrides, as warnings. -/
theorem errors_addSupplementary (r : SourceReader) (ns : Namespace) (identifier : Text) :
    (r.addSupplementary ns identifier).errors = [] := by
  refine Run.errors_bind rfl fun _ => Run.errors_bind (r.errors_values identifier true) fun values => ?_
  obtain ⟨os, hos⟩ := Namespace.notices_mergeEntries identifier values.entries ns
  rw [← Namespace.merge_toValue] at hos
  refine Run.errors_bind (Run.errors_report ?_) fun _ => Run.errors_bind (Run.errors_ofExcept _) fun _ =>
    Run.errors_pure _
  rw [hos, List.forall_mem_map]
  intro o _
  show Log.Level.warning ≠ Log.Level.error
  decide

/-- Merging one source after the other reports no error. -/
theorem errors_addAll (r : SourceReader) (identifiers : List Text) :
    ∀ ns : Namespace, (r.addAll ns identifiers).errors = [] := by
  induction identifiers with
  | nil => exact fun ns => Run.errors_pure ns
  | cons identifier rest ih =>
    exact fun ns => Run.errors_bind (r.errors_addSupplementary ns identifier) ih

/-- **A load reports no error**, however it ends, if listing the directory reports none. -/
theorem errors_load (hlist : (r.listSupplementary directory).errors = []) (name : Text) :
    (r.load name directory).errors = [] := by
  refine Run.errors_bind (Run.errors_ofExcept _) fun location => Run.errors_bind (r.errors_loadPrimary location)
    fun primary => Run.errors_bind hlist fun candidates => Run.errors_bind (Run.errors_report ?_) fun _ =>
    Run.errors_bind (r.errors_addAll _ primary) fun ns => Run.errors_bind (Run.errors_ofExcept _) fun _ =>
    Run.errors_bind rfl fun _ => Run.errors_pure _
  rw [Supplementary.ignored, List.forall_mem_map]
  intro identifier _
  show Log.Level.debug ≠ Log.Level.error
  decide

end SourceReader

/-- Listing a directory in memory reports nothing. -/
theorem MemoryStore.errors_listSupplementary (m : MemoryStore) (directory : Text) :
    ((Store.reader m).listSupplementary directory).errors = [] := rfl

/-- Listing one of files reports nothing either. -/
theorem FileStore.errors_listSupplementary (s : FileStore) (directory : Text) :
    ((Store.reader s).listSupplementary directory).errors = [] := by
  refine Run.errors_bind (Run.errors_ofExcept _) fun found => ?_
  cases found with
  | none => rfl
  | some p => rfl

/-! ## What an operation does -/

variable {τ : Type} [Store τ]

/-- What an edit of a namespace does and answers, whatever it answers with. -/
def Edit.does (ns : Namespace) : Edit → Run Unit
  | .set scope key value source => Run.ofExcept ((scope.set ns key value source).map fun _ => ())
  | .remove _ => return ()
  | .merge values source =>
    let merged := ns.merge values source
    ⟨merged.notices.map .report, merged.result.map fun _ => ()⟩

namespace Session

/-- What an operation does and whether it succeeds, besides what it leaves. -/
def does (s : Session τ) : Operation τ → Run Unit
  | .load => do
    let _ ← (s.configuration.load (Store.reader s.store)).2
    return ()
  | .edit e => do
    let l ← (s.configuration.load (Store.reader s.store)).2
    e.does l.namespace_
  | .setProperties lead changes => (s.configuration.setProperties s.store lead changes).2
  | .seed location directory => do
    let _ ← (s.configuration.seed (Store.reader s.store) location directory).2
    return ()
  | .reset | .sources _ => return ()

variable {s : Session τ} {operation : Operation τ} {e : Failure}

/-- An operation that asks for something and does not get it has tried to load and nothing else. -/
theorem does_of_error (hasks : operation.Asks)
    (h : (s.configuration.load (Store.reader s.store)).2.result = .error e) :
    s.does operation = ⟨(s.configuration.load (Store.reader s.store)).2.acts, .error e⟩ := by
  have hload := Run.eq_of_result h
  cases hasks with
  | load => exact Run.bind_eq_error.mpr (.inl hload)
  | edit edit => exact Run.bind_eq_error.mpr (.inl hload)
  | setProperties lead changes =>
    rw [does, Configuration.setProperties]
    simp only [h]

/-- It leaves what trying to load left. -/
theorem phase_step_of_error {phase : Phase} (hasks : operation.Asks) (hload : s.load.configuration.phase = phase)
    (hne : ∀ l, phase ≠ .loaded l) : (s.step operation).configuration.phase = phase := by
  have hnone : ∀ l, s.load.configuration.phase ≠ .loaded l := hload ▸ hne
  rw [phase_step_of_not_loaded hasks hnone, hload]

/-! ## A failure that is remembered -/

/-- It stays as long as nothing is reset and no seed succeeds. -/
theorem phase_step_of_failed (hphase : s.configuration.phase = .failed e) (hkeeps : ¬ s.Replaces operation) :
    (s.step operation).configuration.phase = .failed e := by
  have hload : s.load.configuration.phase = .failed e := by
    rw [load, Configuration.load_of_failed hphase, hphase]
  rcases operation.cases_asks with hasks | ⟨location, searched, rfl⟩ | rfl | ⟨store, rfl⟩
  · exact phase_step_of_error hasks hload fun l => by simp
  · cases hresult : (s.configuration.seed (Store.reader s.store) location searched).2.result with
    | ok l => exact absurd ⟨l, hresult⟩ hkeeps
    | error f => rw [step_seed_of_error hresult, hphase]
  · exact absurd trivial hkeeps
  · exact hphase

/-- **Along a whole run**, whatever happens to the sources. -/
theorem phase_run_of_failed {later : List (Operation τ)} :
    ∀ {s : Session τ}, s.configuration.phase = .failed e → s.Keeps later →
      (s.run later).configuration.phase = .failed e := by
  induction later with
  | nil => exact fun hphase _ => hphase
  | cons operation rest ih =>
    intro s hphase hkeeps
    exact ih (phase_step_of_failed hphase hkeeps.1) hkeeps.2

/-- With a failure in mind nothing is read or reported. -/
theorem does_of_failed (hasks : operation.Asks) (hphase : s.configuration.phase = .failed e) :
    s.does operation = .fail e := by
  have hload : (s.configuration.load (Store.reader s.store)).2 = .fail e := by
    rw [Configuration.load_of_failed hphase]
  rw [does_of_error hasks (congrArg Run.result hload), hload]
  rfl

/-- The failure of an operation is reported as an error, once, and whatever asks for something fails with it from then
on and does nothing else, until a reset or a seed that succeeds. -/
structure Sticky (s : Session τ) (operation : Operation τ) (e : Failure) : Prop where
  reported : (s.does operation).errors = [.unloadable s.configuration.primaryName e]
  stays : ∀ later o, (s.step operation).Keeps later → o.Asks → ((s.step operation).run later).does o = .fail e

/-! ## A first load that fails -/

section FirstLoad

variable (hlist : ∀ directory, ((Store.reader s.store).listSupplementary directory).errors = [])
  (hphase : s.configuration.phase = .unloaded) (hasks : operation.Asks)
  (hfails : (s.configuration.load (Store.reader s.store)).2.result = .error e)

include hlist hphase hasks hfails

/-- A failure of the configuration is remembered … -/
theorem sticky_of_isOfConfiguration (h : e.isOfConfiguration = true) : s.Sticky operation e := by
  have hresult := (Configuration.result_load_of_unloaded hphase).symm.trans hfails
  have hload := Configuration.load_of_error hphase hresult
  rw [if_pos h] at hload
  have hleft : s.load.configuration.phase = .failed e := by rw [load, hload]
  have hnext : (s.step operation).configuration.phase = .failed e :=
    phase_step_of_error hasks hleft fun l => by simp
  refine ⟨?_, fun later o hkeeps ho => does_of_failed ho (phase_run_of_failed hnext hkeeps)⟩
  rw [does_of_error hasks hfails, hload]
  show Act.errors (_ ++ [_]) = _
  rw [Act.errors_append, show Act.errors _ = [] from SourceReader.errors_load (hlist _) _]
  rfl

/-- … and any other is not. -/
theorem forgets_of_not_isOfConfiguration (h : e.isOfConfiguration = false) :
    (s.does operation).errors = [] ∧ (s.step operation).configuration.phase = .unloaded := by
  have hresult := (Configuration.result_load_of_unloaded hphase).symm.trans hfails
  have hload := Configuration.load_of_error hphase hresult
  rw [if_neg (by simp [h])] at hload
  have hleft : s.load.configuration.phase = .unloaded := by rw [load, hload, hphase]
  refine ⟨?_, phase_step_of_error hasks hleft fun l => by simp⟩
  rw [does_of_error hasks hfails, hload]
  exact SourceReader.errors_load (hlist _) _

end FirstLoad

/-- **A first load that fails** is remembered exactly if it fails because of the configuration. Any other failure is
reported by nobody, and leaves the configuration as if it had not been asked. -/
theorem sticky_iff (hlist : ∀ directory, ((Store.reader s.store).listSupplementary directory).errors = [])
    (hphase : s.configuration.phase = .unloaded) (hasks : operation.Asks)
    (hfails : (s.configuration.load (Store.reader s.store)).2.result = .error e) :
    (s.does operation).result = .error e ∧ (s.Sticky operation e ↔ e.isOfConfiguration = true) ∧
      (e.isOfConfiguration = false →
        (s.does operation).errors = [] ∧ (s.step operation).configuration.phase = .unloaded) := by
  have hforgets := forgets_of_not_isOfConfiguration hlist hphase hasks hfails
  refine ⟨by rw [does_of_error hasks hfails], ⟨fun hsticky => ?_, ?_⟩, hforgets⟩
  · -- a failure that is forgotten is not reported, so it is not sticky
    by_contra hnot
    obtain ⟨hnone, -⟩ := hforgets (by simpa using hnot)
    rw [hsticky.reported] at hnone
    cases hnone
  · exact sticky_of_isOfConfiguration hlist hphase hasks hfails

end Session

/-- The primary source is missing at first and appears later. -/
theorem Session.sticky_iff_missing :
    ∃ s : Session MemoryStore, s = start "app.properties" "app.d" ⟨.empty, [], none⟩ ∧
      (s.does .load).errors = [.unloadable "app.properties" (.notFound "app.properties" none)] ∧
      (s.run [.load, .sources Stacked.store]).does .load = .fail (.notFound "app.properties" none) := by
  obtain ⟨s, hs⟩ : ∃ s : Session MemoryStore, s = start "app.properties" "app.d" ⟨.empty, [], none⟩ := ⟨_, rfl⟩
  have hphase : s.configuration.phase = .unloaded := by
    rw [hs]
    rfl
  have hfails : (s.configuration.load (Store.reader s.store)).2.result =
      .error (.notFound "app.properties" none) := by
    rw [Configuration.result_load_of_unloaded hphase, hs]
    rfl
  obtain ⟨-, hsticky, -⟩ := Session.sticky_iff (MemoryStore.errors_listSupplementary s.store) hphase .load hfails
  obtain ⟨hreported, hstays⟩ := hsticky.mpr rfl
  refine ⟨s, hs, ?_, hstays [.sources Stacked.store] .load ⟨id, trivial⟩ .load⟩
  rw [hreported, hs]
  rfl

/-- **Not every first failure stays**: with an empty name in the primary source, no error is reported. -/
theorem Session.not_sticky :
    ¬ ∀ (s : Session MemoryStore) (operation : Operation MemoryStore) (e : Failure),
      s.configuration.phase = .unloaded → operation.Asks →
      (s.configuration.load (Store.reader s.store)).2.result = .error e → s.Sticky operation e := by
  intro h
  obtain ⟨s, hs⟩ : ∃ s : Session MemoryStore, s = start Unnamed.layer.source "lsc.d" Unnamed.store := ⟨_, rfl⟩
  have hphase : s.configuration.phase = .unloaded := by
    rw [hs]
    rfl
  have hfails : (s.configuration.load (Store.reader s.store)).2.result = .error .badKey := by
    rw [Configuration.result_load_of_unloaded hphase, hs]
    exact Unnamed.fails
  have hreported := (h s .load .badKey hphase .load hfails).reported
  obtain ⟨hnone, -⟩ := Session.forgets_of_not_isOfConfiguration (MemoryStore.errors_listSupplementary s.store)
    hphase .load hfails rfl
  rw [hnone] at hreported
  cases hreported

end LayeredConfig
