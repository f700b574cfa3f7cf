import LayeredConfig.Proofs.Namespace.Command
import LayeredConfig.Proofs.Properties.RoundTrip

/-!
# A namespace in three tables

A namespace holds a raw value and a source at each key, and its types leave no other choice. A program may keep
values of any kind, sources and records in tables of their own, ask of a value that it takes out only whether there was
one, and present a value only when it is asked for (`Tables`). That its tables stay together, and that nothing but raw
values gets into them, is then up to its operations. Here these operations are run beside those of a namespace.

* **`step_ofNamespace`**, **`run_ofNamespace`** — the tables are those of the namespace, and every answer is the same.
* **`Sound`** — what this says about the tables by themselves, with the history of what was written to them.
* **`Tables.sound_run`** — every run from a new namespace, whatever fails on the way.
-/

namespace LayeredConfig

/-- The record of a key that was defined again. -/
structure Redefinition where
  key : Text
  incoming : Value
  existing : Value
  source : Text
  previousSource : Option Text

def Redefinition.ofOverride (o : Override) : Redefinition :=
  ⟨o.key, o.incoming.toValue, o.existing.toValue, o.source, o.previousSource⟩

/-- Values, sources and records, each in a table of its own. -/
structure Tables where
  values : OrderedMap Value
  sources : OrderedMap (Option Text)
  redefinitions : List Redefinition

namespace Tables

def empty : Tables := ⟨.empty, .empty, []⟩

/-- A value as readers are given it. Of a value that is not raw this can fail. -/
def present (v : Value) : Except Failure (Option Text) :=
  v.decode.mapError fun kind => .misfit (.presented kind)

def text? (t : Tables) (key : Text) : Except Failure (Option Text) :=
  match t.values.get? key with
  | some v => present v
  | none => .ok none

def set (t : Tables) (key : Text) (value : Value) (source : Option Text) : Except Failure Tables :=
  if key.isEmpty then .error .badKey
  else if value.isRaw then
    .ok { t with values := t.values.put key value, sources := t.sources.put key source }
  else .error (.misfit (.set key value.kind))

def setAll (t : Tables) (source : Option Text) : List (Text × Value) → Except Failure Tables
  | [] => .ok t
  | (key, value) :: rest =>
    match t.set key value source with
    | .ok t => t.setAll source rest
    | .error e => .error e

def ofValues (values : OrderedMap Value) (source : Option Text) : Except Failure Tables :=
  empty.setAll source values.entries

/-- Takes a key out of both tables. The answer is whether a value came out that is not null. -/
def remove (t : Tables) (key : Text) : Bool × Tables :=
  (match t.values.get? key with
    | none | some (.atom .null) => false
    | some _ => true,
  { t with values := t.values.erase key, sources := t.sources.erase key })

/-- Records a key that is there, both of whose values are presented in a warning. -/
def redefine (t : Tables) (key : Text) (value : Value) (source : Text) : Except Failure (Tables × List Redefinition) :=
  match t.values.get? key with
  | none => .ok (t, [])
  | some existing => do
    let _ ← present value
    let _ ← present existing
    let r : Redefinition := ⟨key, value, existing, source, (t.sources.get? key).join⟩
    return ({ t with redefinitions := t.redefinitions ++ [r] }, [r])

def mergeEntries (source : Text) : Tables → List (Text × Value) → Tables × Except Failure (List Redefinition)
  | t, [] => (t, .ok [])
  | t, (key, value) :: rest =>
    match t.redefine key value source with
    | .error e => (t, .error e)
    | .ok (noted, rs) =>
      match noted.set key value (some source) with
      | .error e => (noted, .error e)
      | .ok after =>
        ((mergeEntries source after rest).1, (mergeEntries source after rest).2.map (rs ++ ·))

def merge (t : Tables) (values : OrderedMap Value) (source : Text) : Tables × Except Failure (List Redefinition) :=
  match Namespace.firstMisfit? values.entries with
  | some key => (t, .error (.misfit (.merged key source)))
  | none => mergeEntries source t values.entries

def applyChanges (location : Text) (lead : Option Text) :
    Tables → List (Text × Value) → Tables × Except Failure Unit
  | t, [] => (t, .ok ())
  | t, (key, value) :: rest =>
    match t.set (Text.qualify lead key) value (some location) with
    | .ok t => applyChanges location lead t rest
    | .error e => (t, .error e)

section Runs

variable {τ : Type} (persist : τ → Text → OrderedMap Value → Commit τ)

def write (t : Tables) (place : τ) (location : Text) (lead : Option Text) (changes : OrderedMap Value) :
    (Tables × τ) × Except Failure Unit :=
  match Namespace.firstMisfit? changes.entries with
  | some key => ((t, place), .error (.misfit (.changed (Text.qualify lead key))))
  | none =>
    match t.applyChanges location lead changes.entries with
    | (t, .error e) => ((t, place), .error e)
    | (t, .ok ()) =>
      ((t, (persist place location t.values).state),
        match (persist place location t.values).result with
        | .error (.storage e) => .error (.unsaved location e)
        | r => r)

def step (s : Tables × τ) : Namespace.Command → (Tables × τ) × Except Failure (Namespace.Reply Redefinition)
  | .set path key value source =>
    match Scope.whole.descend path with
    | .error e => (s, .error e)
    | .ok scope =>
      match scope.target? key with
      | none => (s, .error .badKey)
      | some k =>
        match s.1.set k value source with
        | .ok t => ((t, s.2), .ok .done)
        | .error e => (s, .error e)
  | .remove key => (((s.1.remove key).2, s.2), .ok (.removed (s.1.remove key).1))
  | .merge values source => (((s.1.merge values source).1, s.2), (s.1.merge values source).2.map .merged)
  | .write location lead changes =>
    ((s.1.write persist s.2 location lead changes).1, (s.1.write persist s.2 location lead changes).2.map fun _ => .done)

def run (s : Tables × τ) :
    List Namespace.Command → (Tables × τ) × List (Except Failure (Namespace.Reply Redefinition))
  | [] => (s, [])
  | c :: rest => ((run (step persist s c).1 rest).1, (step persist s c).2 :: (run (step persist s c).1 rest).2)

end Runs

/-! ## The tables of a namespace -/

def ofNamespace (ns : Namespace) : Tables where
  values := ns.entries.mapValues fun e => e.value.toValue
  sources := ns.entries.mapValues Entry.source
  redefinitions := ns.overrides.map Redefinition.ofOverride

def replyOf : Namespace.Reply Override → Namespace.Reply Redefinition
  | .done => .done
  | .removed present => .removed present
  | .merged records => .merged (records.map Redefinition.ofOverride)

variable {τ : Type} {persist : τ → Text → OrderedMap Value → Commit τ} {ns : Namespace} {key : Text}

/-- The table of values holds what the namespace holds, each raw value as a value. -/
theorem get?_values_ofNamespace (ns : Namespace) (key : Text) :
    (ofNamespace ns).values.get? key = (ns.get? key).map RawValue.toValue := by
  rw [ofNamespace, OrderedMap.get?_mapValues, Namespace.get?, Option.map_map]
  rfl

/-- A raw value can always be presented. -/
@[simp] theorem present_toValue (raw : RawValue) : present raw.toValue = .ok (some raw.decoded) := by
  rw [present, RawValue.decode_toValue]
  rfl

/-- Both tables are written at once, so the key gets the same position in both. -/
theorem ofNamespace_put (ns : Namespace) (key : Text) (raw : RawValue) (source : Option Text) :
    ofNamespace (ns.put key raw source) =
      { ofNamespace ns with
        values := (ofNamespace ns).values.put key raw.toValue
        sources := (ofNamespace ns).sources.put key source } := by
  simp only [ofNamespace, Namespace.put, OrderedMap.mapValues_put]

/-- Setting accepts what the namespace accepts, and fails alike. -/
theorem set_ofNamespace (ns : Namespace) (key : Text) (value : Value) (source : Option Text) :
    (ofNamespace ns).set key value source = (ns.set key value source).map ofNamespace := by
  rw [set, Namespace.set]
  cases key.isEmpty with
  | true => rfl
  | false =>
    cases hraw : RawValue.ofValue? value with
    | none =>
      simp only [Value.isRaw, hraw]
      rfl
    | some raw =>
      obtain rfl := RawValue.ofValue?_eq_some_iff.mp hraw
      rw [RawValue.isRaw_toValue]
      exact congrArg Except.ok (ofNamespace_put ns key raw source).symm

theorem setAll_ofNamespace (source : Option Text) (es : List (Text × Value)) :
    ∀ ns : Namespace, (ofNamespace ns).setAll source es = (ns.setAll source es).map ofNamespace := by
  induction es with
  | nil => exact fun _ => rfl
  | cons e rest ih =>
    intro ns
    obtain ⟨key, value⟩ := e
    rw [setAll, Namespace.setAll, set_ofNamespace]
    cases ns.set key value source with
    | ok ns' => exact ih ns'
    | error e => rfl

theorem ofValues_eq (values : OrderedMap Value) (source : Option Text) :
    ofValues values source = (Namespace.ofValues values source).map ofNamespace :=
  setAll_ofNamespace source values.entries Namespace.empty

/-- What comes out is a raw value, so it is not null. -/
theorem remove_ofNamespace (ns : Namespace) (key : Text) :
    (ofNamespace ns).remove key = ((ns.remove key).1, ofNamespace (ns.remove key).2) := by
  have hanswer : (match (ofNamespace ns).values.get? key with
      | none | some (.atom .null) => false
      | some _ => true) = ns.contains key := by
    rw [get?_values_ofNamespace, Namespace.contains, OrderedMap.contains, Namespace.get?]
    cases ns.entries.get? key with
    | none => rfl
    | some e => cases hvalue : e.value <;> simp [hvalue, RawValue.toValue]
  rw [remove, hanswer]
  simp only [ofNamespace, OrderedMap.mapValues_erase, Namespace.remove]

/-- A key that is there is recorded with what both tables say of it, and the warning does not fail. -/
theorem redefine_ofNamespace (ns : Namespace) (key : Text) (raw : RawValue) (source : Text) :
    (ofNamespace ns).redefine key raw.toValue source =
      .ok (ofNamespace (ns.noteOverride (ns.override? key raw source)),
        (ns.override? key raw source).toList.map Redefinition.ofOverride) := by
  rw [redefine, get?_values_ofNamespace, Namespace.override?, Namespace.get?]
  cases hold : ns.entries.get? key with
  | none => simp [ofNamespace, Namespace.noteOverride]
  | some old =>
    have hsource : ((ofNamespace ns).sources.get? key).join = old.source := by
      simp [ofNamespace, hold]
    simp only [Option.map_some, present_toValue, hsource]
    simp [ofNamespace, Namespace.noteOverride, Redefinition.ofOverride, bind, Except.bind, pure, Except.pure]

/-- Raw values are merged into the tables as into the namespace, and stop at the same key. -/
theorem mergeEntries_ofNamespace (source : Text) (es : List (Text × RawValue)) :
    ∀ ns : Namespace, mergeEntries source (ofNamespace ns) (Namespace.offer es) =
      (ofNamespace (Namespace.mergeEntries source ns es).state,
        (Namespace.mergeEntries source ns es).result.map (List.map Redefinition.ofOverride)) := by
  induction es with
  | nil => exact fun _ => rfl
  | cons e rest ih =>
    intro ns
    obtain ⟨key, raw⟩ := e
    show mergeEntries source (ofNamespace ns) ((key, raw.toValue) :: Namespace.offer rest) = _
    simp only [mergeEntries, Namespace.mergeEntries, redefine_ofNamespace, set_ofNamespace]
    -- an empty key ends both merges, and both have noted it before
    cases key with
    | nil => rfl
    | cons c cs =>
      rw [Namespace.set_toValue _ (List.cons_ne_nil c cs)]
      simp only [Except.map, ih]
      cases (Namespace.mergeEntries source
        ((ns.noteOverride (ns.override? (c :: cs) raw source)).put (c :: cs) raw (some source)) rest).result with
      | error e => rfl
      | ok os => simp

/-- A source is merged alike: refused as a whole for a misfit, or merged entry by entry. -/
theorem merge_ofNamespace (ns : Namespace) (values : OrderedMap Value) (source : Text) :
    (ofNamespace ns).merge values source =
      (ofNamespace (ns.merge values source).state,
        (ns.merge values source).result.map (List.map Redefinition.ofOverride)) := by
  rw [merge, Namespace.merge]
  cases hmisfit : Namespace.firstMisfit? values.entries with
  | some key => rfl
  | none =>
    -- without a misfit the values are those of raw entries, and no entry is dropped
    have hmerge := mergeEntries_ofNamespace source (Namespace.rawEntries values.entries) ns
    rw [Namespace.offer_rawEntries hmisfit] at hmerge
    exact hmerge

/-- Changes are made alike, as far as they go. -/
theorem applyChanges_ofNamespace (location : Text) (lead : Option Text) (changes : List (Text × Value)) :
    ∀ ns : Namespace, applyChanges location lead (ofNamespace ns) changes =
      (ofNamespace (ns.applyChanges location lead changes).1, (ns.applyChanges location lead changes).2) := by
  induction changes with
  | nil => exact fun _ => rfl
  | cons e rest ih =>
    intro ns
    obtain ⟨key, value⟩ := e
    rw [applyChanges, Namespace.applyChanges, set_ofNamespace]
    cases ns.set (Text.qualify lead key) value (some location) with
    | ok ns' => exact ih ns'
    | error e => rfl

/-- What is saved is the same. -/
theorem values_ofNamespace (ns : Namespace) : (ofNamespace ns).values = ns.snapshot.mapValues RawValue.toValue := by
  rw [Namespace.snapshot, OrderedMap.mapValues_mapValues]
  rfl

/-- A write changes the tables as it changes the namespace, and saves the same values. -/
theorem write_ofNamespace (ns : Namespace) (place : τ) (location : Text) (lead : Option Text)
    (changes : OrderedMap Value) :
    (ofNamespace ns).write persist place location lead changes =
      ((ofNamespace (ns.write place location lead changes (persist place)).state.1,
          (ns.write place location lead changes (persist place)).state.2),
        (ns.write place location lead changes (persist place)).result) := by
  rw [write, Namespace.write]
  cases Namespace.firstMisfit? changes.entries with
  | some key => rfl
  | none =>
    rw [applyChanges_ofNamespace]
    rcases ns.applyChanges location lead changes.entries with ⟨ns', e | u⟩
    · rfl
    · simp only [Namespace.commit, values_ofNamespace]
      rcases (persist place location (ns'.snapshot.mapValues RawValue.toValue)).result with e | u
      · cases e <;> rfl
      · rfl

/-! ## Runs -/

/-- **One command** on the tables of a namespace. -/
theorem step_ofNamespace (s : Namespace × τ) (c : Namespace.Command) :
    step persist (ofNamespace s.1, s.2) c =
      ((ofNamespace (Namespace.step persist s c).1.1, (Namespace.step persist s c).1.2),
        (Namespace.step persist s c).2.map replyOf) := by
  cases c with
  | remove key =>
    rw [step, remove_ofNamespace]
    rfl
  | merge values source =>
    rw [step, merge_ofNamespace, Namespace.step]
    cases (s.1.merge values source).result <;> rfl
  | write location lead changes =>
    rw [step, write_ofNamespace, Namespace.step]
    cases (s.1.write s.2 location lead changes (persist s.2)).result <;> rfl
  | set path key value source =>
    rw [step, Namespace.step]
    cases Scope.whole.descend path with
    | error e => rfl
    | ok scope =>
      simp only [Scope.setAt_eq]
      cases scope.target? key with
      | none => rfl
      | some k =>
        simp only [set_ofNamespace]
        cases s.1.set k value source <;> rfl

/-- **A whole run.** -/
theorem run_ofNamespace (persist : τ → Text → OrderedMap Value → Commit τ) (cs : List Namespace.Command) :
    ∀ s : Namespace × τ, run persist (ofNamespace s.1, s.2) cs =
      ((ofNamespace (Namespace.run persist s cs).1.1, (Namespace.run persist s cs).1.2),
        (Namespace.run persist s cs).2.map (Except.map replyOf)) := by
  induction cs with
  | nil => exact fun _ => rfl
  | cons c rest ih =>
    intro s
    simp only [run, Namespace.run, step_ofNamespace, ih, List.map_cons]

/-! ## What holds of the tables -/

/-- The tables are together and hold raw values only, at the keys that `h` left. -/
structure Sound (t : Tables) (h : History Entry) : Prop where
  /-- A key has a value exactly if it has a source, and stands at the same position. -/
  sources : t.sources.keys = t.values.keys
  keys_ne_nil : ∀ key ∈ t.values.keys, key ≠ []
  raw : ∀ key value, t.values.get? key = some value → value.isRaw = true
  /-- No reader fails: whatever is there is presented as a text. -/
  text : ∀ key, (key ∈ t.values.keys ∧ ∃ shown, t.text? key = .ok (some shown)) ∨
    (key ∉ t.values.keys ∧ t.text? key = .ok none)
  /-- All values can be presented at once, as a fingerprint and a dump do. -/
  all : ∃ shown, Properties.presentAll t.values.entries = .ok shown
  /-- A merge never fails at a value that it presents in a warning. -/
  warns : ∀ values source kind, (t.merge values source).2 ≠ .error (.misfit (.presented kind))
  nodup : t.values.keys.Nodup
  mem_keys : ∀ key, key ∈ t.values.keys ↔ History.Present h key
  /-- Each key was born once, by the write that last turned it from absent to present. -/
  born : ∀ key ∈ t.values.keys, ∃! i, History.BornAt h key i
  /-- The keys stand in the order of their births. -/
  order : t.values.keys.Pairwise fun key k => ∀ i j, History.BornAt h key i → History.BornAt h k j → i < j
  /-- Removing answers whether the key was there. -/
  remove : ∀ key, (t.remove key).1 = true ↔ key ∈ t.values.keys

/-- The keys are those of the namespace, in the same order. -/
theorem keys_ofNamespace (ns : Namespace) : (ofNamespace ns).values.keys = ns.keys := by
  simp [ofNamespace, Namespace.keys]

/-- Readers of the tables are answered as those of the namespace, and none fails. -/
theorem text?_ofNamespace (ns : Namespace) (key : Text) : (ofNamespace ns).text? key = .ok (ns.text? key) := by
  rw [text?, get?_values_ofNamespace, Namespace.text?]
  cases ns.get? key with
  | none => rfl
  | some raw => exact present_toValue raw

/-- A merge may fail at an empty key or for a misfit, but not at a value it presents. -/
theorem warns_ofNamespace (ns : Namespace) (values : OrderedMap Value) (source kind : Text) :
    ((ofNamespace ns).merge values source).2 ≠ .error (.misfit (.presented kind)) := by
  intro h
  rw [merge_ofNamespace, Namespace.merge] at h
  cases hmisfit : Namespace.firstMisfit? values.entries with
  | some key =>
    rw [hmisfit] at h
    cases h
  | none =>
    rw [hmisfit] at h
    cases hresult : (Namespace.mergeEntries source ns (Namespace.rawEntries values.entries)).result with
    | ok os =>
      have hok := h.symm.trans (congrArg (Except.map (List.map Redefinition.ofOverride)) hresult)
      cases hok
    | error e =>
      have herror := h.symm.trans (congrArg (Except.map (List.map Redefinition.ofOverride)) hresult)
      rw [Namespace.error_mergeEntries hresult] at herror
      cases herror

/-- **The tables of a namespace are sound**, with the history that left its entries. -/
theorem sound_ofNamespace {h : History Entry} (hkeyed : ns.Keyed) (hentries : ns.entries = OrderedMap.empty.replay h) :
    (ofNamespace ns).Sound h := by
  have hkeys : (ofNamespace ns).values.keys = (OrderedMap.empty.replay h).keys := by
    rw [keys_ofNamespace, Namespace.keys, hentries]
  have hget : ∀ key, key ∈ ns.keys ↔ (ns.get? key).isSome := fun key => by
    rw [Namespace.get?, Option.isSome_map, OrderedMap.isSome_get?_iff]
    rfl
  -- the first fields speak of the namespace; what is said of births comes from its history
  refine ⟨?_, ?_, ?_, ?_, ?_, warns_ofNamespace ns, OrderedMap.nodup_keys _, ?_, ?_, ?_, ?_⟩
  · simp [ofNamespace]
  · rw [keys_ofNamespace]
    exact hkeyed
  · intro key value hvalue
    rw [get?_values_ofNamespace, Option.map_eq_some_iff] at hvalue
    obtain ⟨raw, -, rfl⟩ := hvalue
    exact raw.isRaw_toValue
  · intro key
    rw [keys_ofNamespace, text?_ofNamespace, Namespace.text?, hget]
    cases ns.get? key with
    | none => simp
    | some raw => simp
  · rw [values_ofNamespace]
    have hpresented : ∀ e ∈ (ns.snapshot.mapValues RawValue.toValue).entries,
        ∃ shown, e.2.decode = .ok shown ∧ Properties.presented e.2 = shown.getD [] := by
      intro e he
      obtain ⟨e', -, rfl⟩ := List.mem_map.mp he
      refine ⟨some e'.2.decoded, RawValue.decode_toValue e'.2, ?_⟩
      rw [Properties.presented, RawValue.decode_toValue]
    exact ⟨_, Properties.presentAll_eq hpresented⟩
  · intro key
    rw [hkeys]
    exact History.mem_keys_replay h
  · intro key hkey
    rw [hkeys, History.mem_keys_replay] at hkey
    exact History.existsUnique_bornAt hkey
  · rw [hkeys]
    exact History.pairwise_keys_replay h
  · intro key
    rw [remove_ofNamespace, keys_ofNamespace]
    exact OrderedMap.isSome_get?_iff

/-! ## Every run -/

/-- **The tables are sound after every run** from a new namespace, whatever fails on the way: they are those of a
namespace that was given the same commands and answered them alike. The next command adds records at the end, if it is
a merge, or none. -/
theorem sound_run (persist : τ → Text → OrderedMap Value → Commit τ) {init : OrderedMap Value}
    {source : Option Text} {t₀ : Tables} (h : ofValues init source = .ok t₀) (place : τ) (cs : List Namespace.Command) :
    ∃ ns₀, Namespace.ofValues init source = .ok ns₀ ∧
      run persist (t₀, place) cs =
        ((ofNamespace (Namespace.run persist (ns₀, place) cs).1.1, (Namespace.run persist (ns₀, place) cs).1.2),
          (Namespace.run persist (ns₀, place) cs).2.map (Except.map replyOf)) ∧
      (run persist (t₀, place) cs).1.1.Sound
        (Namespace.accepted source init.entries ++ cs.flatMap Namespace.Command.writes) ∧
      ∀ c, ∃ added, (step persist (run persist (t₀, place) cs).1 c).1.1.redefinitions =
          (run persist (t₀, place) cs).1.1.redefinitions ++ added ∧ (added ≠ [] → c.Merges) := by
  rw [ofValues_eq] at h
  cases hns : Namespace.ofValues init source with
  | error e =>
    rw [hns] at h
    cases h
  | ok ns₀ =>
    rw [hns] at h
    obtain rfl := Except.ok.inj h
    have hrun := run_ofNamespace persist cs (ns₀, place)
    refine ⟨ns₀, rfl, hrun, ?_, fun c => ?_⟩
    · have hkeyed : ns₀.Keyed := Namespace.Keyed.setAll (fun _ hkey => absurd hkey List.not_mem_nil) hns
      rw [hrun]
      -- the history is that of the first values and then of the commands, as the entries are
      refine sound_ofNamespace (Namespace.keyed_run cs hkeyed) ?_
      rw [Namespace.entries_run, OrderedMap.replay_append]
      exact congrArg (OrderedMap.replay · _) (Namespace.entries_of_setAll hns)
    · obtain ⟨added, hadded, hmerges⟩ := Namespace.overrides_step persist (Namespace.run persist (ns₀, place) cs).1 c
      refine ⟨added.map Redefinition.ofOverride, ?_, fun hne => hmerges fun hnil => hne (by rw [hnil]; rfl)⟩
      rw [hrun, step_ofNamespace]
      show List.map Redefinition.ofOverride _ = List.map Redefinition.ofOverride _ ++ _
      rw [hadded, List.map_append]

/-- A key is set through a view, one is removed and set again, a merge stops at an empty key, and a save is refused. -/
def halfway : List Namespace.Command :=
  [.set [.text "src."] (.text "url") (.text "x") none, .remove "a", .set [] (.text "a") (.list []) none,
    .set [] (.text "a") (.text "2") none, .merge (.ofList [("b", .text "3"), ("", .text "4"), ("c", .text "5")]) "app.d",
    .write "app" (some "src") (.ofList [("dn", .text "y")])]

def refuse (_ : Unit) (_ : Text) (_ : OrderedMap Value) : Commit Unit :=
  ⟨(), [], .error (.storage (.denied "full"))⟩

theorem sound_run_halfway :
    ∃ t₀ t : Tables, ofValues (.ofList [("a", .text "1"), ("b", .list [.text "1", .text "2"])]) (some "app") = .ok t₀ ∧
      t = (run refuse (t₀, ()) halfway).1.1 ∧
      t.values.keys = (["b", "src.url", "a", "src.dn"] : List Text) ∧ t.redefinitions.map Redefinition.key = ["b"] ∧
      t.Sound (Namespace.accepted (some "app") [("a", .text "1"), ("b", .list [.text "1", .text "2"])] ++
        halfway.flatMap Namespace.Command.writes) := by
  obtain ⟨t₀, ht₀⟩ : ∃ t₀, ofValues (.ofList [("a", .text "1"), ("b", .list [.text "1", .text "2"])]) (some "app") =
      .ok t₀ := ⟨_, rfl⟩
  obtain ⟨ns₀, -, -, hsound, -⟩ := sound_run refuse ht₀ () halfway
  refine ⟨t₀, _, ht₀, rfl, ?_, ?_, hsound⟩
  · obtain rfl := Except.ok.inj ht₀
    decide +kernel
  · obtain rfl := Except.ok.inj ht₀
    decide +kernel

end Tables

end LayeredConfig
