import LayeredConfig.Proofs.Fingerprint
import LayeredConfig.Proofs.Persist.Changes
import LayeredConfig.Proofs.Store.Memory
import Mathlib.Data.List.TakeWhile

/-!
# Writes that fail

A write that fails has either left everything as it was, or made all changes and been refused by the store
(`AllOrNothing`). There are two exceptions. Without a prefix an empty key stops the changes where it stands
(`StopsHalfWay`); and a text that has no bytes fails as such, and not as a failure to save (`Unencodable`).

* **`allOrNothing_iff`** — a write is all or nothing, but for these two.
* **`not_allOrNothing`** — both of them happen.
-/

namespace LayeredConfig

/-- Whether a failure is one to save. -/
def Failure.IsUnsaved : Failure → Prop
  | .unsaved _ _ => True
  | _ => False

/-- A store that remembers what it was asked to save. -/
structure Watched where
  store : MemoryStore
  asked : List (Text × OrderedMap Value)

def Watched.persist (w : Watched) (location : Text) (values : OrderedMap Value) : Commit Watched :=
  let written := w.store.persist location values
  ⟨⟨written.state, w.asked ++ [(location, values)]⟩, written.notices, written.result⟩

def Watched.write (w : Watched) (ns : Namespace) (location : Text) (lead : Option Text) (changes : OrderedMap Value) :
    Outcome (Namespace × Watched) Unit :=
  ns.write w location lead changes w.persist

namespace Namespace

/-- What a write may leave when it fails. -/
structure AllOrNothing (ns : Namespace) (w : Watched) (location : Text) (lead : Option Text)
    (changes : OrderedMap Value) (after : Outcome (Namespace × Watched) Unit) : Prop where
  /-- Any failure but one to save leaves everything as it was. -/
  nothing : ∀ e, after.result = .error e → ¬ e.IsUnsaved → after.state = (ns, w)
  /-- If the store was asked and the write failed, it is a failure to save. -/
  reported : ∀ e, after.result = .error e → after.state.2.asked ≠ w.asked → e.IsUnsaved
  /-- A failure to save is that of one request; all changes are made, and the store is as it was. -/
  all : ∀ e, after.result = .error e → e.IsUnsaved →
    after.state.2.asked = w.asked ++ [(location, after.state.1.snapshot.mapValues RawValue.toValue)] ∧
      after.state.2.store = w.store ∧ ns.Holds after.state.1 location lead changes

/-- An empty key stops the changes, and one before it made a difference. -/
structure StopsHalfWay (ns : Namespace) (location : Text) (lead : Option Text) (changes : OrderedMap Value) :
    Prop where
  raw : firstMisfit? changes.entries = none
  bare : lead = none ∨ lead = some []
  empty : [] ∈ changes.keys
  before : ∃ e ∈ changes.entries.takeWhile fun e => !e.1.isEmpty,
    ns.entries.get? e.1 ≠ (RawValue.ofValue? e.2).map (⟨·, some location⟩)

/-- The store would save, but there is a surrogate in what it is given. -/
structure Unencodable (ns : Namespace) (w : Watched) (location : Text) (lead : Option Text)
    (changes : OrderedMap Value) : Prop where
  admits : Admits lead changes
  accepting : w.store.persistError = none
  surrogate : ¬ Fingerprint.Possible (ns.changed location lead changes).snapshot

variable {ns : Namespace} {w : Watched} {location : Text} {lead : Option Text} {changes : OrderedMap Value}
  {source : Option Text}

/-! ## The changes before an empty key -/

/-- The writes that are made are those before the first empty key. -/
theorem replay_puts_takeWhile (es : List (Text × RawValue)) (m : OrderedMap Entry) :
    m.replay (puts source es) = m.putAll ((es.takeWhile fun e => !e.1.isEmpty).map (stored source)) := by
  have hkeys : ∀ e ∈ es.takeWhile (fun e => !e.1.isEmpty), e.1 ≠ [] := by
    intro e he
    simpa using List.mem_takeWhile_imp he
  have hputs : puts source es = puts source (es.takeWhile fun e => !e.1.isEmpty) := by
    rw [puts, puts, List.takeWhile_idem]
  rw [hputs, replay_puts hkeys]

/-- Changes that an empty key stops make no difference exactly if none before it does. -/
theorem changed_eq_self_iff (hraw : firstMisfit? changes.entries = none) (hbare : lead = none ∨ lead = some [])
    (ns : Namespace) (location : Text) : ns.changed location lead changes = ns ↔
      ∀ e ∈ changes.entries.takeWhile fun e => !e.1.isEmpty,
        ns.entries.get? e.1 = (RawValue.ofValue? e.2).map (⟨·, some location⟩) := by
  have hqualify (key : Text) : Text.qualify lead key = key := by
    rcases hbare with rfl | rfl <;> rfl
  have hentries : (ns.changed location lead changes).entries = ns.entries.putAll
      (((rawEntries changes.entries).takeWhile fun e => !e.1.isEmpty).map (stored (some location))) := by
    rw [entries_changed, map_eq_offer hraw, accepted_offer, ← replay_puts_takeWhile]
    simp [hqualify]
  -- changes are no overrides, so only the entries can differ
  have hsame : ns.changed location lead changes = ns ↔ (ns.changed location lead changes).entries = ns.entries :=
    ⟨congrArg entries, fun h => Namespace.ext h (overrides_changed ns location lead changes)⟩
  have hnodup : ((((rawEntries changes.entries).takeWhile fun e => !e.1.isEmpty).map (stored (some location))).map
      Prod.fst).Nodup := by
    rw [map_fst_stored]
    refine List.Nodup.sublist ((List.takeWhile_sublist _).map Prod.fst) ?_
    rw [map_fst_rawEntries hraw]
    exact changes.nodup
  rw [hsame, hentries, OrderedMap.putAll_eq_self_iff hnodup, List.forall_mem_map]
  conv_rhs => rw [← offer_rawEntries hraw, offer, List.takeWhile_map, List.forall_mem_map]
  simp [stored, Function.comp_def]

/-! ## Saving -/

/-- What is saved has bytes exactly if there is no surrogate in the namespace. -/
theorem writable_write_snapshot (ns : Namespace) :
    (Properties.write (ns.snapshot.mapValues RawValue.decoded) []).Writable ↔ Fingerprint.Possible ns.snapshot := by
  rw [Properties.writable_write, OrderedMap.mapValues, List.forall_mem_map]
  simp only [Properties.writable_decoded]
  rfl

/-- A store that refuses has been asked, and is as it was. -/
theorem commit_of_refused {reason : Text} (h : w.store.persistError = some reason) (ns : Namespace) (location : Text) :
    ns.commit location w.persist =
      ⟨(ns, ⟨w.store, w.asked ++ [(location, ns.snapshot.mapValues RawValue.toValue)]⟩),
        [.unsaved location (.denied reason)], .error (.unsaved location (.denied reason))⟩ := by
  rw [commit]
  simp only [Watched.persist, MemoryStore.persist_of_refused h, List.nil_append]

/-- A store that accepts saves whatever has no surrogate in it. -/
theorem commit_of_possible (h : w.store.persistError = none) (hpossible : Fingerprint.Possible ns.snapshot)
    (location : Text) : (ns.commit location w.persist).result = .ok () := by
  have hencode := Utf8.encode_eq_ok_iff.mpr ⟨(writable_write_snapshot ns).mpr hpossible, rfl⟩
  rw [commit]
  simp only [Watched.persist, MemoryStore.persist_toValue h, hencode]

/-- A surrogate fails after the store was asked, and not as a failure to save. -/
theorem commit_of_surrogate (h : w.store.persistError = none) (hsurrogate : ¬ Fingerprint.Possible ns.snapshot)
    (location : Text) : ∃ e, ns.commit location w.persist =
      ⟨(ns, ⟨w.store, w.asked ++ [(location, ns.snapshot.mapValues RawValue.toValue)]⟩), [], .error (.unencodable e)⟩ := by
  cases hencode : Utf8.encode (Properties.write (ns.snapshot.mapValues RawValue.decoded) []) with
  | ok data => exact absurd ((writable_write_snapshot ns).mp (Utf8.encode_eq_ok_iff.mp hencode).1) hsurrogate
  | error e =>
    refine ⟨e, ?_⟩
    rw [commit]
    simp only [Watched.persist, MemoryStore.persist_toValue h, hencode]

/-! ## Failures -/

/-- A failure of another kind that leaves everything as it was. -/
theorem AllOrNothing.of_refused {e : Failure} (he : ¬ e.IsUnsaved) :
    ns.AllOrNothing w location lead changes ⟨(ns, w), [], .error e⟩ where
  nothing _ _ _ := rfl
  reported _ _ hasked := absurd rfl hasked
  all e' he' hunsaved := by
    obtain rfl := Except.error.inj he'
    exact absurd hunsaved he

/-- Nothing is asked of a write that succeeds. -/
theorem AllOrNothing.of_saved {after : Outcome (Namespace × Watched) Unit} (h : after.result = .ok ()) :
    ns.AllOrNothing w location lead changes after where
  nothing _ he := nomatch h.symm.trans he
  reported _ he := nomatch h.symm.trans he
  all _ he := nomatch h.symm.trans he

/-- Once all changes are made, only a surrogate is in the way. -/
theorem allOrNothing_of_admits (hadmits : Admits lead changes) (ns : Namespace) (w : Watched) (location : Text) :
    ns.AllOrNothing w location lead changes (w.write ns location lead changes) ↔
      ¬ ns.Unencodable w location lead changes := by
  have hholds := holds_changed hadmits ns location
  rw [Watched.write, write_of_admits hadmits]
  cases hrefused : w.store.persistError with
  -- the store refuses: all changes are made, and the failure is one to save
  | some reason =>
    have hencodable : ¬ ns.Unencodable w location lead changes := fun h => nomatch h.accepting.symm.trans hrefused
    rw [commit_of_refused hrefused]
    refine iff_of_true ⟨fun e he hunsaved => ?_, fun e he _ => ?_, fun _ _ _ => ⟨rfl, rfl, hholds⟩⟩ hencodable
    · obtain rfl := Except.error.inj he
      exact absurd trivial hunsaved
    · obtain rfl := Except.error.inj he
      trivial
  -- it would save, so what has bytes succeeds and what has none breaks the promise
  | none =>
    by_cases hpossible : Fingerprint.Possible (ns.changed location lead changes).snapshot
    · exact iff_of_true (.of_saved (commit_of_possible hrefused hpossible location)) fun h => h.surrogate hpossible
    · obtain ⟨e, hcommit⟩ := commit_of_surrogate hrefused hpossible location
      rw [hcommit]
      refine iff_of_false (fun h => ?_) (fun h => h ⟨hadmits, hrefused, hpossible⟩)
      exact h.reported (.unencodable e) rfl (by simp)

/-- An empty key stops the changes, so all depends on those before it. -/
theorem allOrNothing_of_badKey (hraw : firstMisfit? changes.entries = none) (hbare : lead = none ∨ lead = some [])
    (hkey : [] ∈ changes.keys) (ns : Namespace) (w : Watched) (location : Text) :
    ns.AllOrNothing w location lead changes (w.write ns location lead changes) ↔
      ¬ ns.StopsHalfWay location lead changes := by
  have hsame := changed_eq_self_iff hraw hbare ns location
  rw [Watched.write, write_of_badKey hraw ⟨[], hkey, Text.qualify_eq_nil_iff.mpr ⟨hbare, rfl⟩⟩]
  constructor
  · intro h hway
    have hstate := h.nothing .badKey rfl fun h => h
    obtain ⟨e, he, hne⟩ := hway.before
    exact hne (hsame.mp (congrArg Prod.fst hstate) e he)
  · -- if no change before the empty key makes a difference, nothing was changed
    intro hway
    have hunchanged : ns.changed location lead changes = ns := by
      by_contra hchanged
      rw [hsame] at hchanged
      push Not at hchanged
      exact hway ⟨hraw, hbare, hkey, hchanged⟩
    rw [hunchanged]
    exact .of_refused fun h => h

/-- **A write that fails is all or nothing**, unless an empty key stops it half way or there is a surrogate in what
it saves. -/
theorem allOrNothing_iff (ns : Namespace) (w : Watched) (location : Text) (lead : Option Text)
    (changes : OrderedMap Value) :
    ns.AllOrNothing w location lead changes (w.write ns location lead changes) ↔
      ¬ ns.StopsHalfWay location lead changes ∧ ¬ ns.Unencodable w location lead changes := by
  -- the two exceptions exclude each other: one of them has an empty key and the other has none
  by_cases hadmits : Admits lead changes
  · have hway : ¬ ns.StopsHalfWay location lead changes := fun h =>
      hadmits.keys [] h.empty (Text.qualify_eq_nil_iff.mpr ⟨h.bare, rfl⟩)
    rw [allOrNothing_of_admits hadmits]
    exact (and_iff_right hway).symm
  · have hencodable : ¬ ns.Unencodable w location lead changes := fun h => hadmits h.admits
    rw [and_iff_left hencodable]
    rcases not_admits_iff.mp hadmits with ⟨key, hmisfit⟩ | ⟨hraw, key, hkey, hempty⟩
    · have hway : ¬ ns.StopsHalfWay location lead changes := fun h => nomatch h.raw.symm.trans hmisfit
      rw [Watched.write, write_of_misfit hmisfit]
      exact iff_of_true (.of_refused fun h => h) hway
    · obtain ⟨hbare, rfl⟩ := Text.qualify_eq_nil_iff.mp hempty
      exact allOrNothing_of_badKey hraw hbare hkey ns w location

/-! Both exceptions happen, here to a namespace with one key and a store that saves whatever has bytes. -/

namespace Exceptions

def single : Namespace :=
  ⟨.ofList [("a", ⟨.text "1", none⟩)], []⟩

def accepting : Watched :=
  ⟨⟨.empty, [], none⟩, []⟩

/-- The second key is empty. -/
def halting : OrderedMap Value :=
  .ofList [("b", .text "2"), ("", .text "x")]

def surrogate : OrderedMap Value :=
  .ofList [("b", .text [.ofNat 0xD800])]

end Exceptions

open Exceptions in
theorem not_allOrNothing :
    ¬ single.AllOrNothing accepting "lsc.properties" none halting
        (accepting.write single "lsc.properties" none halting) ∧
      ¬ single.AllOrNothing accepting "lsc.properties" none surrogate
        (accepting.write single "lsc.properties" none surrogate) := by
  constructor
  · intro h
    have hstate := h.nothing .badKey (by decide +kernel) fun h => h
    have hsize : (accepting.write single "lsc.properties" none halting).state.1.size = 2 := by decide +kernel
    rw [hstate] at hsize
    revert hsize
    decide
  · intro h
    have hresult : (accepting.write single "lsc.properties" none surrogate).result =
        .error (.unencodable ⟨.ofNat 0xD800, 6, 1⟩) := by
      decide +kernel
    refine h.reported _ hresult fun hasked => ?_
    have hlength : (accepting.write single "lsc.properties" none surrogate).state.2.asked.length = 1 := by
      decide +kernel
    rw [hasked] at hlength
    cases hlength

end Namespace

end LayeredConfig
