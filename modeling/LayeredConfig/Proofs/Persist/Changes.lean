import LayeredConfig.Proofs.Namespace.Command
import Mathlib.Data.List.Nodup

/-!
# What setting changes does

Changes are refused as a whole for a value that is not raw, and stopped by an empty key. Otherwise
(`Namespace.Admits`) all of them are made, and nothing else is (`Namespace.Holds`).

* **`holds_changed`** — what changes that are admitted leave of a namespace.
* **`write_of_misfit`**, **`write_of_badKey`**, **`write_of_admits`** — the three ways in which a write goes.
* **`write_eq_ok`** — a write that succeeds.
-/

namespace LayeredConfig

namespace Text

variable {lead : Option Text} {key : Text}

/-- A qualified key is empty only without a prefix, and is itself empty then. -/
theorem qualify_eq_nil_iff : qualify lead key = [] ↔ (lead = none ∨ lead = some []) ∧ key = [] := by
  rcases lead with _ | _ | ⟨c, cs⟩ <;> simp [qualify]

/-- Behind one prefix different keys stay different. -/
theorem qualify_injective (lead : Option Text) : Function.Injective (qualify lead) := by
  rcases lead with _ | _ | ⟨c, cs⟩
  · exact fun _ _ h => h
  · exact fun _ _ h => h
  · exact fun _ _ h => List.append_cancel_left h

end Text

namespace Namespace

/-- All changes can be made. -/
structure Admits (lead : Option Text) (changes : OrderedMap Value) : Prop where
  raw : firstMisfit? changes.entries = none
  keys : ∀ key ∈ changes.keys, Text.qualify lead key ≠ []

/-- The changes were made from a location, and nothing else was. -/
structure Holds (ns ns' : Namespace) (location : Text) (lead : Option Text) (changes : OrderedMap Value) : Prop where
  changed : ∀ key value, changes.get? key = some value →
    ∃ raw : RawValue, value = raw.toValue ∧ ns'.entries.get? (Text.qualify lead key) = some ⟨raw, some location⟩
  kept : ∀ k, (∀ key ∈ changes.keys, k ≠ Text.qualify lead key) → ns'.entries.get? k = ns.entries.get? k
  /-- New keys go to the end. -/
  keys : ns'.keys = ns.keys ++ (changes.keys.map (Text.qualify lead)).filter (· ∉ ns.keys)
  overrides : ns'.overrides = ns.overrides

variable {τ : Type} {ns : Namespace} {location key : Text} {lead : Option Text} {changes : OrderedMap Value}
  {persist : Text → OrderedMap Value → Commit τ}

/-! ## All changes are made -/

/-- Raw values at keys that are not empty are all set. -/
theorem applyChanges_ok {es : List (Text × RawValue)} (hkeys : ∀ e ∈ es, Text.qualify lead e.1 ≠ []) :
    ∀ ns : Namespace, (ns.applyChanges location lead (offer es)).2 = .ok () := by
  induction es with
  | nil => exact fun _ => rfl
  | cons e rest ih =>
    intro ns
    obtain ⟨key, raw⟩ := e
    obtain ⟨hkey, hrest⟩ := List.forall_mem_cons.mp hkeys
    show (ns.applyChanges location lead ((key, raw.toValue) :: offer rest)).2 = _
    rw [applyChanges, set_toValue ns hkey]
    exact ih hrest _

/-- No change that is admitted is at an empty key. -/
theorem Admits.qualify_ne_nil (h : Admits lead changes) :
    ∀ e ∈ rawEntries changes.entries, Text.qualify lead e.1 ≠ [] := by
  intro e he
  refine h.keys e.1 ?_
  rw [OrderedMap.keys, ← map_fst_rawEntries h.raw]
  exact List.mem_map_of_mem he

/-- The entries that changes from a location are. -/
def made (location : Text) (lead : Option Text) (changes : OrderedMap Value) : List (Text × Entry) :=
  (rawEntries changes.entries).map fun e => (Text.qualify lead e.1, ⟨e.2, some location⟩)

/-- They stand at the qualified keys, in the order of the changes. -/
theorem map_fst_made (h : firstMisfit? changes.entries = none) (location : Text) (lead : Option Text) :
    (made location lead changes).map Prod.fst = changes.keys.map (Text.qualify lead) := by
  rw [OrderedMap.keys, ← map_fst_rawEntries h, made, List.map_map, List.map_map]
  rfl

/-- Each value that is to be set is among what is made, as a raw value. -/
theorem mem_made (h : firstMisfit? changes.entries = none) (location : Text) (lead : Option Text) {value : Value}
    (hvalue : changes.get? key = some value) :
    ∃ raw : RawValue, value = raw.toValue ∧
      (Text.qualify lead key, Entry.mk raw (some location)) ∈ made location lead changes := by
  have hmem : (key, value) ∈ offer (rawEntries changes.entries) := by
    rw [offer_rawEntries h]
    exact OrderedMap.get?_eq_some_iff.mp hvalue
  obtain ⟨e, he, heq⟩ := List.mem_map.mp hmem
  obtain ⟨rfl, rfl⟩ := Prod.mk.inj heq
  exact ⟨e.2, rfl, List.mem_map.mpr ⟨e, he, rfl⟩⟩

/-- Changes that are admitted are all put into the entries. -/
theorem Admits.entries_changed (h : Admits lead changes) (ns : Namespace) (location : Text) :
    (ns.changed location lead changes).entries = ns.entries.putAll (made location lead changes) := by
  have hkeys : ∀ e ∈ (rawEntries changes.entries).map (fun e => (Text.qualify lead e.1, e.2)), e.1 ≠ [] :=
    List.forall_mem_map.mpr h.qualify_ne_nil
  rw [Namespace.entries_changed, map_eq_offer h.raw, accepted_offer, replay_puts hkeys, List.map_map]
  rfl

/-- **Changes that are admitted** are in the namespace, and nothing else was changed. -/
theorem holds_changed (h : Admits lead changes) (ns : Namespace) (location : Text) :
    ns.Holds (ns.changed location lead changes) location lead changes := by
  have hentries := h.entries_changed ns location
  have hfst := map_fst_made h.raw location lead
  have hnodup : ((made location lead changes).map Prod.fst).Nodup := by
    rw [hfst]
    exact changes.nodup_keys.map (Text.qualify_injective lead)
  -- a changed key is looked up among the changes, and any other one in what was there
  have hget (k : Text) : (ns.changed location lead changes).entries.get? k =
      ((made location lead changes).lookup k).or (ns.entries.get? k) := by
    rw [hentries, OrderedMap.get?_putAll, Entries.lookup_reverse hnodup]
  refine ⟨fun key value hvalue => ?_, fun k hk => ?_, ?_, overrides_changed ns location lead changes⟩
  · obtain ⟨raw, hraw, hmem⟩ := mem_made h.raw location lead hvalue
    refine ⟨raw, hraw, ?_⟩
    rw [hget, Entries.lookup_of_mem hnodup hmem, Option.some_or]
  · have hnone : k ∉ (made location lead changes).map Prod.fst := by
      rw [hfst]
      intro hmem
      obtain ⟨key, hkey, rfl⟩ := List.mem_map.mp hmem
      exact hk key hkey rfl
    rw [hget, Entries.lookup_eq_none.mpr hnone, Option.none_or]
  · show (ns.changed location lead changes).entries.keys = _
    have hnew : ((changes.keys.map (Text.qualify lead)).removeAll ns.entries.keys).Nodup :=
      (hfst ▸ hnodup).sublist List.filter_sublist
    -- no key comes twice in the changes, so all that is dropped are keys that were there
    rw [hentries, OrderedMap.keys_putAll, hfst, List.eraseDups_append, Entries.eraseDups_of_nodup ns.entries.nodup_keys,
      Entries.eraseDups_of_nodup hnew]
    refine congrArg (ns.entries.keys ++ ·) (List.filter_congr fun k _ => ?_)
    by_cases hk : k ∈ ns.entries.keys <;> simp [hk, keys]

/-! ## An empty key -/

/-- An empty key stops the changes, wherever it stands. -/
theorem applyChanges_badKey {es : List (Text × RawValue)} (h : ∃ e ∈ es, Text.qualify lead e.1 = []) :
    ∀ ns : Namespace, (ns.applyChanges location lead (offer es)).2 = .error .badKey := by
  induction es with
  | nil =>
    obtain ⟨e, he, -⟩ := h
    cases he
  | cons e rest ih =>
    intro ns
    obtain ⟨key, raw⟩ := e
    show (ns.applyChanges location lead ((key, raw.toValue) :: offer rest)).2 = _
    rw [applyChanges]
    by_cases hkey : Text.qualify lead key = []
    · rw [hkey]
      rfl
    · obtain ⟨e, he, hempty⟩ := h
      have hrest : e ∈ rest := (List.mem_cons.mp he).resolve_left fun heq => hkey (by rw [← hempty, heq])
      rw [set_toValue ns hkey]
      exact ih ⟨e, hrest, hempty⟩ _

/-! ## Writing -/

/-- **A value that is not raw** refuses all changes before any is made. -/
theorem write_of_misfit {place : τ} (h : firstMisfit? changes.entries = some key) :
    ns.write place location lead changes persist =
      ⟨(ns, place), [], .error (.misfit (.changed (Text.qualify lead key)))⟩ := by
  rw [write, h]

/-- Raw values are set, and saved if no key stopped them. -/
theorem write_of_raw {place : τ} (hraw : firstMisfit? changes.entries = none) :
    ns.write place location lead changes persist =
      match (ns.applyChanges location lead changes.entries).2 with
      | .error e => ⟨(ns.changed location lead changes, place), [], .error e⟩
      | .ok () => (ns.changed location lead changes).commit location persist := by
  rw [write, changed, hraw]
  rcases ns.applyChanges location lead changes.entries with ⟨ns', e | u⟩ <;> rfl

/-- **An empty key** stops the changes, and nothing is saved. -/
theorem write_of_badKey {place : τ} (hraw : firstMisfit? changes.entries = none)
    (hkey : ∃ key ∈ changes.keys, Text.qualify lead key = []) :
    ns.write place location lead changes persist =
      ⟨(ns.changed location lead changes, place), [], .error .badKey⟩ := by
  have hstopped : (ns.applyChanges location lead changes.entries).2 = .error .badKey := by
    rw [← offer_rawEntries hraw]
    refine applyChanges_badKey ?_ ns
    obtain ⟨key, hmem, hempty⟩ := hkey
    rw [OrderedMap.keys, ← map_fst_rawEntries hraw] at hmem
    obtain ⟨e, he, rfl⟩ := List.mem_map.mp hmem
    exact ⟨e, he, hempty⟩
  rw [write_of_raw hraw, hstopped]

/-- **Otherwise** all changes are made, and the namespace is saved. -/
theorem write_of_admits {place : τ} (h : Admits lead changes) :
    ns.write place location lead changes persist = (ns.changed location lead changes).commit location persist := by
  have hmade : (ns.applyChanges location lead changes.entries).2 = .ok () := by
    rw [← offer_rawEntries h.raw]
    exact applyChanges_ok h.qualify_ne_nil ns
  rw [write_of_raw h.raw, hmade]

/-- Changes that are not admitted are refused for a value or stopped by a key. -/
theorem not_admits_iff : ¬ Admits lead changes ↔ (∃ key, firstMisfit? changes.entries = some key) ∨
    (firstMisfit? changes.entries = none ∧ ∃ key ∈ changes.keys, Text.qualify lead key = []) := by
  constructor
  · intro h
    cases hraw : firstMisfit? changes.entries with
    | some key => exact .inl ⟨key, rfl⟩
    | none =>
      refine .inr ⟨rfl, ?_⟩
      by_contra hkeys
      exact h ⟨hraw, fun key hkey hempty => hkeys ⟨key, hkey, hempty⟩⟩
  · rintro (⟨key, hraw⟩ | ⟨-, key, hkey, hempty⟩) h
    · cases h.raw.symm.trans hraw
    · exact h.keys key hkey hempty

/-- Saving succeeds only if the store does, and leaves what the store leaves. -/
theorem commit_eq_ok (h : (ns.commit location persist).result = .ok ()) :
    (persist location (ns.snapshot.mapValues RawValue.toValue)).result = .ok () ∧
      (ns.commit location persist).state =
        (ns, (persist location (ns.snapshot.mapValues RawValue.toValue)).state) := by
  rw [commit] at h ⊢
  rcases hresult : (persist location (ns.snapshot.mapValues RawValue.toValue)).result with e | u
  · rw [hresult] at h
    cases e <;> cases h
  · exact ⟨rfl, rfl⟩

/-- A write that succeeds made all changes, and saved the namespace that it leaves. -/
theorem write_eq_ok {place : τ} (h : (ns.write place location lead changes persist).result = .ok ()) :
    Admits lead changes ∧
      (persist location ((ns.changed location lead changes).snapshot.mapValues RawValue.toValue)).result = .ok () ∧
      (ns.write place location lead changes persist).state = (ns.changed location lead changes,
        (persist location ((ns.changed location lead changes).snapshot.mapValues RawValue.toValue)).state) := by
  by_cases hadmits : Admits lead changes
  · rw [write_of_admits hadmits] at h ⊢
    exact ⟨hadmits, commit_eq_ok h⟩
  · rcases not_admits_iff.mp hadmits with ⟨key, hmisfit⟩ | ⟨hraw, hkey⟩
    · rw [write_of_misfit hmisfit] at h
      cases h
    · rw [write_of_badKey hraw hkey] at h
      cases h

end Namespace

end LayeredConfig
