import LayeredConfig.Proofs.History
import LayeredConfig.Proofs.Namespace.Keys
import LayeredConfig.View

/-!
# Runs of changes of a namespace

A namespace is changed by setting a key, by itself or through views within views, by removing one, by merging a
source, and by setting changes and saving them. Any of these can fail, some of them half way (`Command`).

What a command writes can be told without looking at the namespace (`Command.writes`): an entry is accepted if all
values that are offered with it are raw and no key up to its own is empty. So a whole run writes a history, and the
entries of the namespace are what that history leaves.

* **`entries_step`**, **`entries_run`** — the entries after a command, and after a run of them.
* **`keyed_run`** — no key is ever empty.
* **`overrides_step`** — overrides are only added at the end, by merges.
-/

namespace LayeredConfig

/-! ## Commands -/

namespace Scope

/-- The key of the namespace that a key of any kind stands for. Only a view takes keys that are no texts. -/
def target? (s : Scope) : Json → Option Text
  | .text t => some (s.qualify t)
  | key =>
    match s with
    | .whole => none
    | .view v => some (v.qualify key.asText)

/-- Setting a key of any kind is setting the key that it stands for, if it stands for one. -/
theorem setAt_eq (s : Scope) (ns : Namespace) (key : Json) (value : Value) (source : Option Text) :
    s.setAt ns key value source =
      match s.target? key with
      | some k => ns.set k value source
      | none => .error .badKey := by
  cases s <;> cases key <;> rfl

end Scope

namespace Namespace

/-- A change of a namespace. -/
inductive Command
  /-- Sets a key through the views behind some prefixes, the outermost one first. -/
  | set (path : List Value) (key : Json) (value : Value) (source : Option Text)
  | remove (key : Text)
  | merge (values : OrderedMap Value) (source : Text)
  /-- Sets changes and saves the namespace. -/
  | write (location : Text) (lead : Option Text) (changes : OrderedMap Value)

def Command.Merges : Command → Prop
  | .merge _ _ => True
  | .set _ _ _ _ | .remove _ | .write _ _ _ => False

/-- The answer to a command, with records of type `ω` for the keys that a merge defines again. -/
inductive Reply (ω : Type)
  | done
  | removed (present : Bool)
  | merged (records : List ω)

section Runs

variable {τ : Type} (persist : τ → Text → OrderedMap Value → Commit τ)

/-- One command, with what it leaves of the namespace and of the place where it is saved. -/
def step (s : Namespace × τ) : Command → (Namespace × τ) × Except Failure (Reply Override)
  | .set path key value source =>
    match Scope.whole.descend path with
    | .error e => (s, .error e)
    | .ok scope =>
      match scope.setAt s.1 key value source with
      | .ok ns => ((ns, s.2), .ok .done)
      | .error e => (s, .error e)
  | .remove key => (((s.1.remove key).2, s.2), .ok (.removed (s.1.remove key).1))
  | .merge values source => (((s.1.merge values source).state, s.2), (s.1.merge values source).result.map .merged)
  | .write location lead changes =>
    ((s.1.write s.2 location lead changes (persist s.2)).state,
      (s.1.write s.2 location lead changes (persist s.2)).result.map fun _ => .done)

def run (s : Namespace × τ) : List Command → (Namespace × τ) × List (Except Failure (Reply Override))
  | [] => (s, [])
  | c :: rest => ((run (step persist s c).1 rest).1, (step persist s c).2 :: (run (step persist s c).1 rest).2)

end Runs

/-! ## What is written -/

/-- The writes of raw values, up to the first empty key. -/
def puts (source : Option Text) (es : List (Text × RawValue)) : History Entry :=
  (es.takeWhile fun e => !e.1.isEmpty).map fun e => .put e.1 ⟨e.2, source⟩

/-- The writes of entries that are offered together. One value that is not raw refuses them all. -/
def accepted (source : Option Text) (es : List (Text × Value)) : History Entry :=
  match firstMisfit? es with
  | some _ => []
  | none => puts source (rawEntries es)

def Command.writes : Command → History Entry
  | .set path key value source =>
    match Scope.whole.descend path with
    | .error _ => []
    | .ok scope =>
      match scope.target? key with
      | some k => accepted source [(k, value)]
      | none => []
  | .remove key => [.drop key]
  | .merge values source => accepted (some source) values.entries
  | .write location lead changes =>
    accepted (some location) (changes.entries.map fun e => (Text.qualify lead e.1, e.2))

variable {τ : Type} {persist : τ → Text → OrderedMap Value → Commit τ} {ns ns' : Namespace} {key : Text}
  {value : Value} {source : Option Text}

/-- A key that is not empty is written, and the writes go on. -/
theorem puts_cons (hkey : key ≠ []) (raw : RawValue) (es : List (Text × RawValue)) :
    puts source ((key, raw) :: es) = .put key ⟨raw, source⟩ :: puts source es := by
  have hempty : key.isEmpty = false := by simpa using hkey
  simp [puts, hempty]

theorem accepted_offer (es : List (Text × RawValue)) : accepted source (offer es) = puts source es := by
  rw [accepted, firstMisfit?_offer, rawEntries_offer]

theorem accepted_of_misfit {es : List (Text × Value)} (h : firstMisfit? es = some key) : accepted source es = [] := by
  rw [accepted, h]

/-- If no key is empty, all writes are made. -/
theorem replay_puts {es : List (Text × RawValue)} (hkeys : ∀ e ∈ es, e.1 ≠ []) (m : OrderedMap Entry) :
    m.replay (puts source es) = m.putAll (es.map (stored source)) := by
  induction es generalizing m with
  | nil => rfl
  | cons e rest ih =>
    obtain ⟨key, raw⟩ := e
    obtain ⟨hkey, hrest⟩ := List.forall_mem_cons.mp hkeys
    rw [puts_cons hkey]
    exact ih hrest (m.put key ⟨raw, source⟩)

/-! ## Entries -/

/-- Setting one key: an accepted write, or nothing. -/
theorem entries_set (ns : Namespace) (key : Text) (value : Value) (source : Option Text) :
    (match ns.set key value source with
      | .ok ns' => ns'
      | .error _ => ns).entries = ns.entries.replay (accepted source [(key, value)]) := by
  cases hraw : RawValue.ofValue? value with
  | none =>
    have hmisfit : firstMisfit? [(key, value)] = some key := by simp [firstMisfit?, Value.isRaw, hraw]
    rw [accepted_of_misfit hmisfit, set, hraw]
    cases key.isEmpty <;> rfl
  | some raw =>
    obtain rfl := RawValue.ofValue?_eq_some_iff.mp hraw
    show _ = ns.entries.replay (accepted source (offer [(key, raw)]))
    rw [accepted_offer]
    cases key with
    | nil => rfl
    | cons c rest =>
      have hkey : c :: rest ≠ [] := List.cons_ne_nil c rest
      rw [set_toValue ns hkey, puts_cons hkey]
      rfl

/-- A merge writes its entries up to the first empty key. -/
theorem entries_mergeEntries (source : Text) (es : List (Text × RawValue)) :
    ∀ ns : Namespace, (mergeEntries source ns es).state.entries = ns.entries.replay (puts (some source) es) := by
  induction es with
  | nil => exact fun _ => rfl
  | cons e rest ih =>
    intro ns
    obtain ⟨key, raw⟩ := e
    cases key with
    | nil => rfl
    | cons c cs =>
      rw [puts_cons (List.cons_ne_nil c cs)]
      exact ih ((ns.noteOverride (ns.override? (c :: cs) raw source)).put (c :: cs) raw (some source))

/-- Changes write theirs, under the qualified keys. -/
theorem entries_applyChanges (location : Text) (lead : Option Text) (es : List (Text × RawValue)) :
    ∀ ns : Namespace, (ns.applyChanges location lead (offer es)).1.entries =
      ns.entries.replay (puts (some location) (es.map fun e => (Text.qualify lead e.1, e.2))) := by
  induction es with
  | nil => exact fun _ => rfl
  | cons e rest ih =>
    intro ns
    obtain ⟨key, raw⟩ := e
    show (ns.applyChanges location lead ((key, raw.toValue) :: offer rest)).1.entries = _
    rw [applyChanges, List.map_cons]
    -- it is the qualified key that must not be empty, not the one that was given
    cases hkey : Text.qualify lead key with
    | nil => rfl
    | cons c cs =>
      have hne : c :: cs ≠ [] := List.cons_ne_nil c cs
      rw [set_toValue ns hne, puts_cons hne]
      exact ih (ns.put (c :: cs) raw (some location))

/-- What setting properties leaves of the entries. -/
theorem entries_changed (ns : Namespace) (location : Text) (lead : Option Text) (changes : OrderedMap Value) :
    (ns.changed location lead changes).entries =
      ns.entries.replay (accepted (some location) (changes.entries.map fun e => (Text.qualify lead e.1, e.2))) := by
  -- the values that are offered decide, not the keys
  have hmisfit : (firstMisfit? (changes.entries.map fun e => (Text.qualify lead e.1, e.2))) =
      (firstMisfit? changes.entries).map (Text.qualify lead) := by
    rw [firstMisfit?, firstMisfit?, List.find?_map, Option.map_map, Option.map_map]
    rfl
  rw [changed]
  cases hfirst : firstMisfit? changes.entries with
  | some key =>
    rw [hfirst] at hmisfit
    rw [accepted_of_misfit hmisfit]
    rfl
  | none =>
    rw [map_eq_offer hfirst (Text.qualify lead), accepted_offer, ← entries_applyChanges, offer_rawEntries hfirst]

/-- Values that are set one after the other, if all are accepted. -/
theorem entries_of_setAll {source : Option Text} {es : List (Text × Value)} (h : ns.setAll source es = .ok ns') :
    ns'.entries = ns.entries.replay (accepted source es) := by
  have hraw : firstMisfit? es = none := firstMisfit?_of_setAll h
  -- nothing was refused, so no key cuts the writes off
  have hkeys : ∀ e ∈ rawEntries es, e.1 ≠ [] := by
    intro e he
    have hmem : (e.1, e.2.toValue) ∈ es := by
      rw [← offer_rawEntries hraw]
      exact List.mem_map_of_mem he
    exact keys_ne_nil_of_setAll source h _ hmem
  have hset := setAll_eq source hkeys ns
  rw [← offer_rawEntries hraw] at h ⊢
  rw [accepted_offer, replay_puts hkeys, Except.ok.inj (h.symm.trans hset)]

/-- **One command**: the entries are what its writes leave. -/
theorem entries_step (s : Namespace × τ) (c : Command) :
    (step persist s c).1.1.entries = s.1.entries.replay c.writes := by
  cases c with
  | remove key => rfl
  | merge values source =>
    show (s.1.merge values source).state.entries = s.1.entries.replay (accepted (some source) values.entries)
    rw [merge]
    cases hmisfit : firstMisfit? values.entries with
    | some key =>
      rw [accepted_of_misfit hmisfit]
      rfl
    | none =>
      rw [accepted, hmisfit]
      exact entries_mergeEntries source (rawEntries values.entries) s.1
  | write location lead changes =>
    show (s.1.write s.2 location lead changes (persist s.2)).state.1.entries = _
    rw [write_state_fst, entries_changed]
    rfl
  | set path key value source =>
    rw [step, Command.writes]
    -- what stops on the way to the key writes nothing, and `Command.writes` has nothing for it
    cases Scope.whole.descend path with
    | error e => rfl
    | ok scope =>
      simp only [Scope.setAt_eq]
      cases scope.target? key with
      | none => rfl
      | some k =>
        have hset := entries_set s.1 k value source
        simp only
        rw [← hset]
        cases s.1.set k value source <;> rfl

/-- **A run**: the entries are what the history of all its writes leaves. -/
theorem entries_run (cs : List Command) :
    ∀ s : Namespace × τ, (run persist s cs).1.1.entries = s.1.entries.replay (cs.flatMap Command.writes) := by
  induction cs with
  | nil => exact fun _ => rfl
  | cons c rest ih =>
    intro s
    rw [run, List.flatMap_cons, OrderedMap.replay_append, ← entries_step]
    exact ih _

/-! ## Keys and overrides -/

/-- No command brings an empty key. -/
theorem Keyed.step {s : Namespace × τ} (h : s.1.Keyed) (c : Command) : (Namespace.step persist s c).1.1.Keyed := by
  cases c with
  | remove key => exact h.remove key
  | merge values source => exact h.merge values source
  | write location lead changes => exact h.write s.2 location lead changes (persist s.2)
  | set path key value source =>
    rw [Namespace.step]
    cases Scope.whole.descend path with
    | error e => exact h
    | ok scope =>
      simp only [Scope.setAt_eq]
      cases scope.target? key with
      | none => exact h
      | some k =>
        simp only
        cases hset : s.1.set k value source with
        | ok ns' => exact h.set hset
        | error e => exact h

/-- **No key is ever empty**, whatever was done. -/
theorem keyed_run (cs : List Command) : ∀ {s : Namespace × τ}, s.1.Keyed → (run persist s cs).1.1.Keyed := by
  induction cs with
  | nil => exact fun h => h
  | cons c rest ih => exact fun h => ih (h.step c)

/-- A merge adds its records at the end, wherever it stops. -/
theorem overrides_mergeEntries (source : Text) (es : List (Text × RawValue)) :
    ∀ ns : Namespace, ∃ added, (mergeEntries source ns es).state.overrides = ns.overrides ++ added := by
  induction es with
  | nil => exact fun ns => ⟨[], by simp [mergeEntries]⟩
  | cons e rest ih =>
    intro ns
    obtain ⟨key, raw⟩ := e
    rw [mergeEntries]
    cases key with
    | nil => exact ⟨(ns.override? [] raw source).toList, rfl⟩
    | cons c cs =>
      obtain ⟨added, hadded⟩ := ih ((ns.noteOverride (ns.override? (c :: cs) raw source)).put (c :: cs) raw (some source))
      refine ⟨(ns.override? (c :: cs) raw source).toList ++ added, ?_⟩
      rw [← List.append_assoc]
      exact hadded

/-- **Overrides** are only added at the end, by merges. -/
theorem overrides_step (persist : τ → Text → OrderedMap Value → Commit τ) (s : Namespace × τ)
    (c : Command) :
    ∃ added, (step persist s c).1.1.overrides = s.1.overrides ++ added ∧ (added ≠ [] → c.Merges) := by
  have hsame {ns' : Namespace} (h : ns'.overrides = s.1.overrides) :
      ∃ added, ns'.overrides = s.1.overrides ++ added ∧ (added ≠ [] → c.Merges) :=
    ⟨[], by rw [h, List.append_nil], fun hne => absurd rfl hne⟩
  -- a merge notes overrides; any other command leaves the record as it is
  cases c with
  | remove key => exact hsame rfl
  | merge values source =>
    show ∃ added, (s.1.merge values source).state.overrides = _ ∧ _
    rw [merge]
    cases firstMisfit? values.entries with
    | some key => exact hsame rfl
    | none =>
      obtain ⟨added, hadded⟩ := overrides_mergeEntries source (rawEntries values.entries) s.1
      exact ⟨added, hadded, fun _ => trivial⟩
  | write location lead changes =>
    refine hsame ?_
    show (s.1.write s.2 location lead changes (persist s.2)).state.1.overrides = _
    rw [write_state_fst, overrides_changed]
  | set path key value source =>
    rw [step]
    cases Scope.whole.descend path with
    | error e => exact hsame rfl
    | ok scope =>
      simp only [Scope.setAt_eq]
      cases scope.target? key with
      | none => exact hsame rfl
      | some k =>
        simp only
        cases hset : s.1.set k value source with
        | ok ns' =>
          obtain ⟨-, raw, -, rfl⟩ := set_eq_ok hset
          exact hsame rfl
        | error e => exact hsame rfl

end Namespace

end LayeredConfig
