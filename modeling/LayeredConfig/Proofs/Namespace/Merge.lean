import Mathlib.Data.List.Basic
import LayeredConfig.Namespace.Merge
import LayeredConfig.Proofs.OrderedMap
import LayeredConfig.Proofs.RawValue

/-!
# Merging: what a source does to a namespace

A merge goes key by key, and each override is read from the store just before the key is overwritten. As no key
comes twice in one source, what is read there is what stood in the namespace before the merge began; so the
overrides of a source are known in advance (`overridesOf`), and the merge itself is many writes (`stored`).

* **`mergeEntries_eq`** — the outcome of merging entries with distinct keys that are not empty.
* **`merge_eq_overlay`** — the same for the values of a source.
* **`setAll_eq`** — setting values one after the other makes the same writes and records nothing.
* **`keys_ne_nil_of_merge`**, **`keys_ne_nil_of_setAll`** — both refuse an empty key.
* **`error_mergeEntries`**, **`error_setAll`** — and neither refuses anything else of what was read from a source.
-/

namespace LayeredConfig.Namespace

/-- An entry as it is stored when it comes from a source. -/
def stored (source : Option Text) (e : Text × RawValue) : Text × Entry :=
  (e.1, ⟨e.2, source⟩)

/-- The overrides that entries of a source with distinct keys are, in order. -/
def overridesOf (ns : Namespace) (source : Text) (entries : List (Text × RawValue)) : List Override :=
  entries.filterMap fun e => ns.override? e.1 e.2 source

/-- What merging the values of a source leaves, if none of its keys is empty. -/
def overlay (ns : Namespace) (source : Text) (values : OrderedMap RawValue) : Namespace :=
  ⟨ns.entries.putAll (values.entries.map (stored (some source))),
    ns.overrides ++ ns.overridesOf source values.entries⟩

/-! ## Snapshots -/

theorem snapshot_keys (ns : Namespace) : ns.snapshot.keys = ns.keys :=
  OrderedMap.keys_mapValues _ _

theorem snapshot_get? (ns : Namespace) (key : Text) : ns.snapshot.get? key = ns.get? key :=
  OrderedMap.get?_mapValues _ _ _

theorem snapshot_put (ns : Namespace) (key : Text) (value : RawValue) (source : Option Text) :
    (ns.put key value source).snapshot = ns.snapshot.put key value :=
  OrderedMap.mapValues_put Entry.value ns.entries key ⟨value, source⟩

/-! ## What is offered -/

/-- Raw values, as values that are offered. -/
def offer (es : List (Text × RawValue)) : List (Text × Value) :=
  es.map fun e => (e.1, e.2.toValue)

/-- The raw values among values that are offered. -/
def rawEntries (es : List (Text × Value)) : List (Text × RawValue) :=
  es.filterMap fun e => (RawValue.ofValue? e.2).map (e.1, ·)

/-- Raw values that are offered are all accepted. -/
@[simp] theorem firstMisfit?_offer (es : List (Text × RawValue)) : firstMisfit? (offer es) = none := by
  rw [firstMisfit?, Option.map_eq_none_iff, List.find?_eq_none]
  intro e he
  obtain ⟨e', -, rfl⟩ := List.mem_map.mp he
  simp

/-- Raw values are found again among what is offered. -/
@[simp] theorem rawEntries_offer (es : List (Text × RawValue)) : rawEntries (offer es) = es := by
  rw [rawEntries, offer, List.filterMap_map]
  conv_rhs => rw [← @List.filterMap_some _ es]
  exact List.filterMap_congr fun e _ => by simp

/-- Entries of which none is refused are raw. -/
theorem offer_rawEntries {es : List (Text × Value)} (h : firstMisfit? es = none) : offer (rawEntries es) = es := by
  induction es with
  | nil => rfl
  | cons e rest ih =>
    rw [firstMisfit?, Option.map_eq_none_iff, List.find?_cons] at h
    -- the first entry is raw, since it would be the misfit otherwise
    cases hraw : RawValue.ofValue? e.2 with
    | none =>
      rw [Value.isRaw, hraw] at h
      cases h
    | some raw =>
      rw [Value.isRaw, hraw] at h
      have hrest : firstMisfit? rest = none := by
        rw [firstMisfit?, Option.map_eq_none_iff]
        exact h
      have hcons : rawEntries (e :: rest) = (e.1, raw) :: rawEntries rest := by
        rw [rawEntries, List.filterMap_cons, hraw]
        rfl
      rw [hcons, offer, List.map_cons, ← RawValue.ofValue?_eq_some_iff.mp hraw]
      exact congrArg (e :: ·) (ih hrest)

/-- If none is refused, no key is left out. -/
theorem map_fst_rawEntries {es : List (Text × Value)} (h : firstMisfit? es = none) :
    (rawEntries es).map Prod.fst = es.map Prod.fst := by
  conv_rhs => rw [← offer_rawEntries h, offer, List.map_map]
  rfl

/-- Raw entries are still raw under other keys. -/
theorem map_eq_offer {es : List (Text × Value)} (h : firstMisfit? es = none) (f : Text → Text) :
    es.map (fun e => (f e.1, e.2)) = offer ((rawEntries es).map fun e => (f e.1, e.2)) := by
  conv_lhs => rw [← offer_rawEntries h]
  simp [offer]

/-! ## Merging -/

/-- Whether a key is overridden does not depend on what is written to other keys. -/
theorem override?_put {ns : Namespace} {key k : Text} (h : k ≠ key) (v w : RawValue)
    (source : Option Text) (s : Text) :
    (ns.put key v source).override? k w s = ns.override? k w s := by
  rw [override?, override?]
  congr 1
  exact OrderedMap.get?_put_of_ne ns.entries _ h

/-- **The outcome of merging entries**: their writes, and the overrides that they were before the first of them. -/
theorem mergeEntries_eq (source : Text) {es : List (Text × RawValue)} (hkeys : ∀ e ∈ es, e.1 ≠ [])
    (hnodup : (es.map Prod.fst).Nodup) :
    ∀ ns : Namespace, mergeEntries source ns es =
      ⟨⟨ns.entries.putAll (es.map (stored (some source))), ns.overrides ++ ns.overridesOf source es⟩,
        (ns.overridesOf source es).map .overridden, .ok (ns.overridesOf source es)⟩ := by
  induction es with
  | nil =>
    intro ns
    rw [mergeEntries, overridesOf, List.filterMap_nil, List.append_nil]
    rfl
  | cons e rest ih =>
    intro ns
    obtain ⟨key, v⟩ := e
    rw [List.map_cons, List.nodup_cons] at hnodup
    have hkey : key.isEmpty = false := by
      have hne : key ≠ [] := hkeys (key, v) List.mem_cons_self
      simpa using hne
    have hrest (ns' : Namespace) (hoverride : ∀ e ∈ rest, ∀ w, ns'.override? e.1 w source =
        ns.override? e.1 w source) : ns'.overridesOf source rest = ns.overridesOf source rest :=
      List.filterMap_congr fun e he => hoverride e he e.2
    -- the override of the first key, if it is one, comes before those of the rest
    have hcons : ns.overridesOf source ((key, v) :: rest) =
        (ns.override? key v source).toList ++ ns.overridesOf source rest := by
      rw [overridesOf, List.filterMap_cons]
      cases ns.override? key v source with
      | none => rfl
      | some o => rfl
    -- the key does not come again, so the overrides of the rest can be read before it is written
    have hne : ∀ e ∈ rest, e.1 ≠ key := by
      intro e he heq
      exact hnodup.1 (List.mem_map.mpr ⟨e, he, heq⟩)
    have hsame := hrest ((ns.noteOverride (ns.override? key v source)).put key v (some source))
      fun e he w => override?_put (hne e he) v w (some source) source
    have hoverrides : ((ns.noteOverride (ns.override? key v source)).put key v (some source)).overrides =
        ns.overrides ++ (ns.override? key v source).toList := rfl
    rw [mergeEntries]
    simp only [hkey, Bool.false_eq_true, if_false,
      ih (fun e he => hkeys e (List.mem_cons_of_mem _ he)) hnodup.2, hsame, hcons, List.map_append,
      hoverrides, List.append_assoc, Except.map]
    rfl

/-- A merge of entries that succeeds met no empty key. -/
theorem keys_ne_nil_of_mergeEntries (source : Text) {es : List (Text × RawValue)} :
    ∀ {ns : Namespace} {os : List Override}, (mergeEntries source ns es).result = .ok os →
      ∀ e ∈ es, e.1 ≠ [] := by
  induction es with
  | nil => exact fun _ e he => absurd he List.not_mem_nil
  | cons e rest ih =>
    intro ns os h
    obtain ⟨key, v⟩ := e
    rw [mergeEntries] at h
    cases hkey : key.isEmpty with
    | true => simp only [hkey, if_true] at h; cases h
    | false =>
      simp only [hkey, Bool.false_eq_true, if_false] at h
      cases hafter : (mergeEntries source
          ((ns.noteOverride (ns.override? key v source)).put key v (some source)) rest).result with
      | error f => rw [hafter] at h; cases h
      | ok after =>
        intro e he
        rcases List.mem_cons.mp he with rfl | he
        · simpa using hkey
        · exact ih hafter e he

/-- Raw values are all accepted, so what stops a merge of them is an empty key. -/
theorem error_mergeEntries {source : Text} {es : List (Text × RawValue)} :
    ∀ {ns : Namespace} {e : Failure}, (mergeEntries source ns es).result = .error e → e = .badKey := by
  induction es with
  | nil =>
    intro ns e h
    cases h
  | cons entry rest ih =>
    intro ns e h
    obtain ⟨key, raw⟩ := entry
    rw [mergeEntries] at h
    -- an empty key stops the merge here, and any other one leaves it to the rest
    cases key with
    | nil => exact (Except.error.inj h).symm
    | cons c cs =>
      simp only [List.isEmpty_cons, Bool.false_eq_true, if_false] at h
      cases hafter : (mergeEntries source
          ((ns.noteOverride (ns.override? (c :: cs) raw source)).put (c :: cs) raw (some source)) rest).result with
      | ok os =>
        rw [hafter] at h
        cases h
      | error f =>
        rw [hafter] at h
        rw [← Except.error.inj h]
        exact ih hafter

/-- A merge reports overrides and nothing else, wherever it stops. -/
theorem notices_mergeEntries (source : Text) (es : List (Text × RawValue)) :
    ∀ ns : Namespace, ∃ os : List Override, (mergeEntries source ns es).notices = os.map .overridden := by
  induction es with
  | nil => exact fun _ => ⟨[], rfl⟩
  | cons entry rest ih =>
    intro ns
    obtain ⟨key, raw⟩ := entry
    rw [mergeEntries]
    cases hkey : key.isEmpty with
    | true => exact ⟨(ns.override? key raw source).toList, rfl⟩
    | false =>
      obtain ⟨os, hos⟩ := ih ((ns.noteOverride (ns.override? key raw source)).put key raw (some source))
      refine ⟨(ns.override? key raw source).toList ++ os, ?_⟩
      simp only [Bool.false_eq_true, if_false, hos, List.map_append]

/-- The values of a source that was read are all accepted, so merging them is merging its entries. -/
theorem merge_toValue (ns : Namespace) (values : OrderedMap RawValue) (source : Text) :
    ns.merge (values.mapValues RawValue.toValue) source = mergeEntries source ns values.entries := by
  have hoffer : (values.mapValues RawValue.toValue).entries = offer values.entries := rfl
  rw [merge, hoffer, firstMisfit?_offer]
  show mergeEntries source ns (rawEntries (offer values.entries)) = _
  rw [rawEntries_offer]

/-- **The outcome of merging the values of a source** none of whose keys is empty. -/
theorem merge_eq_overlay (ns : Namespace) {values : OrderedMap RawValue}
    (hkeys : ∀ key ∈ values.keys, key ≠ []) (source : Text) :
    ns.merge (values.mapValues RawValue.toValue) source =
      ⟨ns.overlay source values, (ns.overridesOf source values.entries).map .overridden,
        .ok (ns.overridesOf source values.entries)⟩ := by
  rw [merge_toValue, mergeEntries_eq source (fun e he => hkeys e.1 (List.mem_map_of_mem he)) values.nodup]
  rfl

/-- A merge of a source that succeeds met no empty key. -/
theorem keys_ne_nil_of_merge {ns : Namespace} {values : OrderedMap RawValue} {source : Text}
    {os : List Override} (h : (ns.merge (values.mapValues RawValue.toValue) source).result = .ok os) :
    ∀ key ∈ values.keys, key ≠ [] := by
  rw [merge_toValue] at h
  intro key hkey
  obtain ⟨e, he, rfl⟩ := List.mem_map.mp hkey
  exact keys_ne_nil_of_mergeEntries source h e he

/-! ## Setting -/

/-- A raw value is put at a key that is not empty. -/
theorem set_of_some (ns : Namespace) {key : Text} (hkey : key ≠ []) {value : Value} {raw : RawValue}
    (hraw : RawValue.ofValue? value = some raw) (source : Option Text) :
    ns.set key value source = .ok (ns.put key raw source) := by
  have hempty : key.isEmpty = false := by simpa using hkey
  rw [set, hraw]
  simp only [hempty, Bool.false_eq_true, if_false]

/-- A value that is not raw is refused with its key and its kind. -/
theorem set_of_none (ns : Namespace) {key : Text} (hkey : key ≠ []) {value : Value}
    (hraw : RawValue.ofValue? value = none) (source : Option Text) :
    ns.set key value source = .error (.misfit (.set key value.kind)) := by
  have hempty : key.isEmpty = false := by simpa using hkey
  rw [set, hraw]
  simp only [hempty, Bool.false_eq_true, if_false]

theorem set_toValue (ns : Namespace) {key : Text} (hkey : key ≠ []) (v : RawValue)
    (source : Option Text) : ns.set key v.toValue source = .ok (ns.put key v source) :=
  ns.set_of_some hkey (RawValue.ofValue?_toValue v) source

/-- **Setting succeeds** only at a key that is not empty, with a raw value. -/
theorem set_eq_ok {ns ns' : Namespace} {key : Text} {value : Value} {source : Option Text}
    (h : ns.set key value source = .ok ns') :
    key ≠ [] ∧ ∃ raw, RawValue.ofValue? value = some raw ∧ ns' = ns.put key raw source := by
  rw [set] at h
  cases hkey : key.isEmpty with
  | true => simp only [hkey, if_true] at h; cases h
  | false =>
    simp only [hkey, Bool.false_eq_true, if_false] at h
    refine ⟨by simpa using hkey, ?_⟩
    cases hraw : RawValue.ofValue? value with
    | none => rw [hraw] at h; cases h
    | some raw => rw [hraw] at h; exact ⟨raw, rfl, (Except.ok.inj h).symm⟩

/-- **Setting values one after the other** makes their writes and records nothing. -/
theorem setAll_eq (source : Option Text) {es : List (Text × RawValue)} (hkeys : ∀ e ∈ es, e.1 ≠ []) :
    ∀ ns : Namespace, ns.setAll source (es.map fun e => (e.1, e.2.toValue)) =
      .ok ⟨ns.entries.putAll (es.map (stored source)), ns.overrides⟩ := by
  induction es with
  | nil => exact fun ns => rfl
  | cons e rest ih =>
    intro ns
    obtain ⟨key, v⟩ := e
    rw [List.map_cons, setAll, set_toValue ns (hkeys (key, v) List.mem_cons_self)]
    exact ih (fun e he => hkeys e (List.mem_cons_of_mem _ he)) (ns.put key v source)

/-- Setting values one after the other met no empty key if it succeeds. -/
theorem keys_ne_nil_of_setAll (source : Option Text) {es : List (Text × Value)} :
    ∀ {ns ns' : Namespace}, ns.setAll source es = .ok ns' → ∀ e ∈ es, e.1 ≠ [] := by
  induction es with
  | nil => exact fun _ e he => absurd he List.not_mem_nil
  | cons e rest ih =>
    intro ns ns' h e' he'
    obtain ⟨key, v⟩ := e
    rw [setAll] at h
    cases hset : ns.set key v source with
    | error f => rw [hset] at h; cases h
    | ok after =>
      rw [hset] at h
      rcases List.mem_cons.mp he' with rfl | he'
      · exact (set_eq_ok hset).1
      · exact ih h e' he'

/-- Setting values one after the other met only raw ones if it succeeds. -/
theorem firstMisfit?_of_setAll {source : Option Text} {es : List (Text × Value)} :
    ∀ {ns ns' : Namespace}, ns.setAll source es = .ok ns' → firstMisfit? es = none := by
  induction es with
  | nil => exact fun _ => rfl
  | cons e rest ih =>
    intro ns ns' h
    obtain ⟨key, value⟩ := e
    rw [setAll] at h
    cases hset : ns.set key value source with
    | error f => rw [hset] at h; cases h
    | ok after =>
      rw [hset] at h
      obtain ⟨-, raw, hraw, -⟩ := set_eq_ok hset
      have hrest := ih h
      rw [firstMisfit?, Option.map_eq_none_iff] at hrest ⊢
      simpa [Value.isRaw, hraw] using hrest

/-- Setting raw values stops at an empty key only, as merging them does. -/
theorem error_setAll {source : Option Text} {es : List (Text × RawValue)} :
    ∀ {ns : Namespace} {e : Failure}, ns.setAll source (offer es) = .error e → e = .badKey := by
  induction es with
  | nil =>
    intro ns e h
    cases h
  | cons entry rest ih =>
    intro ns e h
    obtain ⟨key, raw⟩ := entry
    rw [offer, List.map_cons, setAll] at h
    cases key with
    | nil => exact (Except.error.inj h).symm
    | cons c cs =>
      rw [set_toValue ns (List.cons_ne_nil c cs)] at h
      exact ih h

/-- The namespace of one source is what merging it into the empty namespace leaves: there is nothing to
override. -/
theorem ofValues_eq {values : OrderedMap RawValue} (hkeys : ∀ key ∈ values.keys, key ≠ []) (source : Text) :
    ofValues (values.mapValues RawValue.toValue) (some source) = .ok (empty.overlay source values) := by
  have hnone : empty.overridesOf source values.entries = [] := by
    rw [overridesOf, List.filterMap_eq_nil_iff]
    exact fun e _ => rfl
  have hset := setAll_eq (some source) (fun e he => hkeys e.1 (List.mem_map_of_mem he)) empty
  rw [overlay, hnone, List.append_nil]
  exact hset

theorem keys_ne_nil_of_ofValues {values : OrderedMap RawValue} {source : Option Text} {ns : Namespace}
    (h : ofValues (values.mapValues RawValue.toValue) source = .ok ns) : ∀ key ∈ values.keys, key ≠ [] := by
  intro key hkey
  obtain ⟨e, he, rfl⟩ := List.mem_map.mp hkey
  exact keys_ne_nil_of_setAll source h (e.1, e.2.toValue) (List.mem_map.mpr ⟨e, he, rfl⟩)

/-! ## What a source leaves -/

@[simp] theorem map_fst_stored (source : Option Text) (es : List (Text × RawValue)) :
    (es.map (stored source)).map Prod.fst = es.map Prod.fst := by
  rw [List.map_map]
  rfl

theorem keys_overlay (ns : Namespace) (source : Text) (values : OrderedMap RawValue) :
    (ns.overlay source values).entries.keys = (ns.entries.keys ++ values.keys).eraseDups := by
  rw [overlay, OrderedMap.keys_putAll, map_fst_stored]
  rfl

theorem get?_overlay (ns : Namespace) (source : Text) (values : OrderedMap RawValue) (key : Text) :
    (ns.overlay source values).entries.get? key =
      ((values.get? key).map fun v => Entry.mk v (some source)).or (ns.entries.get? key) := by
  have hnodup : ((values.entries.map (stored (some source))).map Prod.fst).Nodup := by
    rw [map_fst_stored]
    exact values.nodup
  rw [overlay, OrderedMap.get?_putAll, Entries.lookup_reverse hnodup]
  congr 1
  exact Entries.lookup_map (fun v => Entry.mk v (some source)) values.entries key

end LayeredConfig.Namespace
