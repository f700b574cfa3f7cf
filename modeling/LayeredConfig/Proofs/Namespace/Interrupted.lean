import LayeredConfig.Proofs.Namespace.Merge

/-!
# Merges that fail

All values are looked at before a merge begins, so one that is not raw refuses the merge as a whole. The keys are not:
an empty key is met when its turn comes, and by then everything before it has been merged and reported.

* **`mergeEntries_badKey`** — what an empty key leaves: the merge of the entries before it.
* **`mergeAtomic_iff`** — a merge that fails has done nothing, unless an empty key stopped it behind something.
* **`not_mergeAtomic`** — which happens.
-/

namespace LayeredConfig.Namespace

/-- If the merge fails, the namespace is as it was and nothing was reported. -/
def MergeAtomic (ns : Namespace) (values : OrderedMap Value) (source : Text) : Prop :=
  ∀ e, (ns.merge values source).result = .error e →
    (ns.merge values source).state = ns ∧ (ns.merge values source).notices = []

/-- All values are raw, and an empty key stops their merge behind the entries `before`. It leaves a trace if there are
any, or if the namespace has an empty key itself, which is then overridden. -/
structure StopsAt (ns : Namespace) (values : OrderedMap Value) (before : List (Text × RawValue)) (value : RawValue) :
    Prop where
  split : ∃ after, values.entries = offer (before ++ ([], value) :: after)
  trace : before ≠ [] ∨ [] ∈ ns.keys

variable {ns : Namespace} {values : OrderedMap Value} {source : Text} {before after : List (Text × RawValue)}
  {value : RawValue}

/-! ## Where a merge stops -/

/-- An empty key ends a merge behind what was merged before it; the override of the empty key is still noted. -/
theorem mergeEntries_stops (hkeys : ∀ e ∈ before, e.1 ≠ []) :
    ∀ ns : Namespace,
      let merged := mergeEntries source ns before
      let o := merged.state.override? [] value source
      mergeEntries source ns (before ++ ([], value) :: after) =
        ⟨merged.state.noteOverride o, merged.notices ++ o.toList.map .overridden, .error .badKey⟩ := by
  induction before with
  | nil => exact fun _ => rfl
  | cons e rest ih =>
    intro ns
    obtain ⟨key, raw⟩ := e
    obtain ⟨hkey, hrest⟩ := List.forall_mem_cons.mp hkeys
    have hempty : key.isEmpty = false := by simpa using hkey
    have hnext := ih hrest ((ns.noteOverride (ns.override? key raw source)).put key raw (some source))
    rw [List.cons_append, mergeEntries, mergeEntries]
    simp only [hempty, Bool.false_eq_true, if_false, hnext, Except.map, List.append_assoc]

/-- **What an empty key leaves**: the writes of the entries before it and their overrides. If the namespace had an empty
key, one more override is noted. -/
theorem mergeEntries_badKey (hnodup : ((before ++ ([], value) :: after).map Prod.fst).Nodup) (ns : Namespace) :
    mergeEntries source ns (before ++ ([], value) :: after) =
      ⟨⟨ns.entries.putAll (before.map (stored (some source))),
          ns.overrides ++ ns.overridesOf source (before ++ [([], value)])⟩,
        (ns.overridesOf source (before ++ [([], value)])).map .overridden, .error .badKey⟩ := by
  rw [List.map_append, List.map_cons, List.nodup_append] at hnodup
  obtain ⟨hbefore, -, hapart⟩ := hnodup
  -- keys are distinct, so the ones before the empty key are not empty
  have hkeys : ∀ e ∈ before, e.1 ≠ [] := fun e he =>
    hapart e.1 (List.mem_map_of_mem he) [] List.mem_cons_self
  -- nothing before it was written to the empty key
  have hsame : (Namespace.mk (ns.entries.putAll (before.map (stored (some source))))
      (ns.overrides ++ ns.overridesOf source before)).override? [] value source = ns.override? [] value source := by
    have hnone : (before.map (stored (some source))).reverse.lookup [] = none := by
      rw [Entries.lookup_eq_none, List.map_reverse, List.mem_reverse, map_fst_stored]
      intro hmem
      obtain ⟨e, he, hnil⟩ := List.mem_map.mp hmem
      exact hkeys e he hnil
    unfold override?
    rw [OrderedMap.get?_putAll, hnone, Option.none_or]
  have hlast : ns.overridesOf source (before ++ [([], value)]) =
      ns.overridesOf source before ++ (ns.override? [] value source).toList := by
    rw [overridesOf, List.filterMap_append, List.filterMap_cons]
    cases ns.override? [] value source <;> rfl
  rw [mergeEntries_stops hkeys, mergeEntries_eq source hkeys hbefore]
  simp only [hsame, hlast, noteOverride, List.append_assoc, List.map_append]

/-! ## All or nothing -/

/-- Nothing is overridden exactly if no key was there. -/
theorem overridesOf_eq_nil_iff {es : List (Text × RawValue)} :
    ns.overridesOf source es = [] ↔ ∀ e ∈ es, e.1 ∉ ns.keys := by
  unfold overridesOf
  rw [List.filterMap_eq_nil_iff]
  refine forall₂_congr fun e _ => ?_
  rw [override?, Option.map_eq_none_iff, OrderedMap.get?_eq_none_iff]
  rfl

/-- An empty key that leaves no trace has nothing before it. -/
theorem untouched_iff :
    (ns.entries.putAll (before.map (stored (some source))) = ns.entries ∧
      ns.overridesOf source (before ++ [([], value)]) = []) ↔ before = [] ∧ [] ∉ ns.keys := by
  rw [overridesOf_eq_nil_iff]
  constructor
  · rintro ⟨hentries, hnew⟩
    refine ⟨?_, hnew ([], value) (by simp)⟩
    cases before with
    | nil => rfl
    | cons e rest =>
      -- its key is written, and was not there
      have hmem : e.1 ∈ (ns.entries.putAll ((e :: rest).map (stored (some source)))).keys := by
        rw [OrderedMap.keys_putAll, map_fst_stored, List.mem_eraseDups]
        simp
      rw [hentries] at hmem
      exact absurd hmem (hnew e (by simp))
  · rintro ⟨rfl, hnil⟩
    refine ⟨rfl, ?_⟩
    simpa using hnil

/-- Raw values, with an empty key among them. -/
theorem merge_of_split (h : values.entries = offer (before ++ ([], value) :: after)) (ns : Namespace) (source : Text) :
    ns.merge values source =
      ⟨⟨ns.entries.putAll (before.map (stored (some source))),
          ns.overrides ++ ns.overridesOf source (before ++ [([], value)])⟩,
        (ns.overridesOf source (before ++ [([], value)])).map .overridden, .error .badKey⟩ := by
  have hnodup : ((before ++ ([], value) :: after).map Prod.fst).Nodup := by
    have hkeys := values.nodup
    rwa [h, offer, List.map_map] at hkeys
  rw [merge, h, firstMisfit?_offer]
  show mergeEntries source ns (rawEntries (offer (before ++ ([], value) :: after))) = _
  rw [rawEntries_offer, mergeEntries_badKey hnodup]

/-- Only an empty key stops the merge of raw values. -/
theorem exists_split_of_error {e : Failure} (hraw : firstMisfit? values.entries = none)
    (h : (ns.merge values source).result = .error e) :
    ∃ before value after, values.entries = offer (before ++ ([], value) :: after) := by
  have hoffer := offer_rawEntries hraw
  -- without an empty key the merge would have succeeded
  have hmem : [] ∈ (rawEntries values.entries).map Prod.fst := by
    by_contra hnone
    have hkeys : ∀ e ∈ rawEntries values.entries, e.1 ≠ [] := fun e he hnil =>
      hnone (hnil ▸ List.mem_map_of_mem he)
    have hnodup : ((rawEntries values.entries).map Prod.fst).Nodup := by
      rw [map_fst_rawEntries hraw]
      exact values.nodup
    rw [merge, hraw] at h
    change (mergeEntries source ns (rawEntries values.entries)).result = _ at h
    rw [mergeEntries_eq source hkeys hnodup] at h
    cases h
  obtain ⟨⟨key, value⟩, he, rfl⟩ := List.mem_map.mp hmem
  obtain ⟨before, after, hsplit⟩ := List.append_of_mem he
  exact ⟨before, value, after, by rw [← hsplit, hoffer]⟩

/-- **A merge that fails has done nothing**, unless an empty key stopped it behind something. Then it has merged and
reported everything before the empty key, and nothing after it. -/
theorem mergeAtomic_iff (ns : Namespace) (values : OrderedMap Value) (source : Text) :
    (ns.MergeAtomic values source ↔ ∀ before value, ¬ ns.StopsAt values before value) ∧
      ∀ before value, ns.StopsAt values before value → ns.merge values source =
        ⟨⟨ns.entries.putAll (before.map (stored (some source))),
            ns.overrides ++ ns.overridesOf source (before ++ [([], value)])⟩,
          (ns.overridesOf source (before ++ [([], value)])).map .overridden, .error .badKey⟩ := by
  refine ⟨⟨fun hatomic before value hstops => ?_, fun hnever e hfails => ?_⟩, fun before value hstops => ?_⟩
  · -- a trace is left in the entries or in the records, and the merge would have left neither
    obtain ⟨after, hsplit⟩ := hstops.split
    have hmerge := merge_of_split hsplit ns source
    obtain ⟨hstate, hnotices⟩ := hatomic .badKey (by rw [hmerge])
    rw [hmerge] at hstate hnotices
    have hnothing := untouched_iff.mp ⟨congrArg entries hstate, List.map_eq_nil_iff.mp hnotices⟩
    rcases hstops.trace with hbefore | hkey
    · exact hbefore hnothing.1
    · exact hnothing.2 hkey
  · -- a value that is not raw stops the merge before it begins; else it was an empty key
    cases hmisfit : firstMisfit? values.entries with
    | some key =>
      rw [merge, hmisfit]
      exact ⟨rfl, rfl⟩
    | none =>
      obtain ⟨before, value, after, hsplit⟩ := exists_split_of_error hmisfit hfails
      -- an empty key that leaves a trace is excluded
      have hnothing : before = [] ∧ [] ∉ ns.keys := by
        by_contra htrace
        refine hnever before value ⟨⟨after, hsplit⟩, ?_⟩
        by_cases hbefore : before = []
        · exact .inr (by simpa [hbefore] using htrace)
        · exact .inl hbefore
      obtain ⟨hentries, hoverrides⟩ := untouched_iff.mpr hnothing
      rw [merge_of_split hsplit, hentries, hoverrides, List.append_nil]
      exact ⟨rfl, rfl⟩
  · obtain ⟨after, hsplit⟩ := hstops.split
    exact merge_of_split hsplit ns source

/-! A merge that an empty key stops behind another one. -/

namespace Interrupted

def held : Namespace :=
  ⟨.ofList [("a", ⟨.text "1", some "lsc.properties"⟩)], []⟩

def offered : OrderedMap Value :=
  .ofList [("a", .text "2"), ("", .text "x")]

end Interrupted

open Interrupted in
/-- **Not every merge that fails has done nothing.** -/
theorem not_mergeAtomic : ¬ held.MergeAtomic offered "lsc.d/10.json" := by
  intro h
  obtain ⟨-, hnotices⟩ := h .badKey (by decide +kernel)
  have hreported : (held.merge offered "lsc.d/10.json").notices.length = 1 := by decide +kernel
  rw [hnotices] at hreported
  cases hreported

end LayeredConfig.Namespace
