import LayeredConfig.Persist
import LayeredConfig.Proofs.Namespace.Merge

/-!
# The keys of a namespace

No key of a namespace is ever empty (`Namespace.Keyed`): whatever is set was checked, and an operation that meets an
empty key stops before it. Each operation is shown to preserve this whether it succeeds or not.
-/

namespace LayeredConfig

namespace Namespace

def Keyed (ns : Namespace) : Prop :=
  ∀ key ∈ ns.keys, key ≠ []

variable {ns ns' : Namespace} {key location : Text} {lead : Option Text}

theorem Keyed.put (h : ns.Keyed) (hkey : key ≠ []) (value : RawValue) (source : Option Text) :
    (ns.put key value source).Keyed := by
  intro k hk
  rcases OrderedMap.mem_keys_put.mp hk with rfl | hk
  · exact hkey
  · exact h k hk

/-- Records are no entries. -/
theorem Keyed.noteOverride (h : ns.Keyed) (o : Option Override) : (ns.noteOverride o).Keyed := h

theorem Keyed.remove (h : ns.Keyed) (key : Text) : (ns.remove key).2.Keyed := by
  intro k hk
  have hmem : k ∈ (ns.entries.erase key).keys := hk
  rw [OrderedMap.keys_erase, List.mem_filter] at hmem
  exact h k hmem.1

theorem Keyed.set (h : ns.Keyed) {value : Value} {source : Option Text} (hset : ns.set key value source = .ok ns') :
    ns'.Keyed := by
  obtain ⟨hkey, raw, -, rfl⟩ := set_eq_ok hset
  exact h.put hkey raw source

/-- Setting values one after the other keeps the keys, if it succeeds. -/
theorem Keyed.setAll {source : Option Text} {es : List (Text × Value)} :
    ∀ {ns ns' : Namespace}, ns.Keyed → ns.setAll source es = .ok ns' → ns'.Keyed := by
  induction es with
  | nil =>
    intro ns ns' h hset
    rwa [← Except.ok.inj hset]
  | cons e rest ih =>
    intro ns ns' h hset
    obtain ⟨key, value⟩ := e
    rw [Namespace.setAll] at hset
    cases hfirst : ns.set key value source with
    | ok after =>
      rw [hfirst] at hset
      exact ih (h.set hfirst) hset
    | error e =>
      rw [hfirst] at hset
      cases hset

/-- A merge keeps them wherever it stops: an empty key is refused before it is written. -/
theorem Keyed.mergeEntries (source : Text) (es : List (Text × RawValue)) :
    ∀ {ns : Namespace}, ns.Keyed → (mergeEntries source ns es).state.Keyed := by
  induction es with
  | nil => exact fun h => h
  | cons e rest ih =>
    intro ns h
    obtain ⟨key, value⟩ := e
    rw [Namespace.mergeEntries]
    -- the override of the key is noted before the key is looked at
    have hnoted := h.noteOverride (ns.override? key value source)
    cases hkey : key.isEmpty with
    | true =>
      simp only [if_true]
      exact hnoted
    | false =>
      have hne : key ≠ [] := by simpa using hkey
      simp only [Bool.false_eq_true, if_false]
      exact ih (hnoted.put hne value (some source))

theorem Keyed.merge (h : ns.Keyed) (values : OrderedMap Value) (source : Text) :
    (ns.merge values source).state.Keyed := by
  rw [Namespace.merge]
  cases firstMisfit? values.entries with
  | some key => exact h
  | none => exact Keyed.mergeEntries source _ h

/-- Changes keep them as far as they are made. -/
theorem Keyed.applyChanges (location : Text) (lead : Option Text) (es : List (Text × Value)) :
    ∀ {ns : Namespace}, ns.Keyed → (applyChanges location lead ns es).1.Keyed := by
  induction es with
  | nil => exact fun h => h
  | cons e rest ih =>
    intro ns h
    obtain ⟨key, value⟩ := e
    rw [Namespace.applyChanges]
    cases hset : ns.set (Text.qualify lead key) value (some location) with
    | ok ns' => exact ih (h.set hset)
    | error e => exact h

/-- Saving does not touch the namespace. -/
theorem commit_state_fst {τ : Type} (ns : Namespace) (location : Text)
    (persist : Text → OrderedMap Value → Commit τ) : (ns.commit location persist).state.1 = ns := by
  rw [commit]
  split <;> rfl

/-- What setting properties leaves of a namespace, whether they are saved or not. -/
def changed (ns : Namespace) (location : Text) (lead : Option Text) (changes : OrderedMap Value) : Namespace :=
  match firstMisfit? changes.entries with
  | some _ => ns
  | none => (ns.applyChanges location lead changes.entries).1

/-- A write leaves the changed namespace, whatever becomes of the saving. -/
theorem write_state_fst {τ : Type} (ns : Namespace) (place : τ) (location : Text) (lead : Option Text)
    (changes : OrderedMap Value) (persist : Text → OrderedMap Value → Commit τ) :
    (ns.write place location lead changes persist).state.1 = ns.changed location lead changes := by
  rw [Namespace.write, changed]
  cases firstMisfit? changes.entries with
  | some key => rfl
  | none =>
    -- whether all changes were made or an empty key stopped them, saving does not touch the namespace
    rcases happly : applyChanges location lead ns changes.entries with ⟨ns', e | u⟩
    · rfl
    · simp only [commit_state_fst]

/-- Changes are no overrides. -/
theorem applyChanges_overrides (location : Text) (lead : Option Text) (changes : List (Text × Value)) :
    ∀ ns : Namespace, (ns.applyChanges location lead changes).1.overrides = ns.overrides := by
  induction changes with
  | nil => exact fun _ => rfl
  | cons change rest ih =>
    intro ns
    obtain ⟨key, value⟩ := change
    rw [applyChanges]
    cases hset : ns.set (Text.qualify lead key) value (some location) with
    | error e => rfl
    | ok ns' =>
      obtain ⟨-, raw, -, rfl⟩ := set_eq_ok hset
      exact ih _

theorem overrides_changed (ns : Namespace) (location : Text) (lead : Option Text) (changes : OrderedMap Value) :
    (ns.changed location lead changes).overrides = ns.overrides := by
  unfold changed
  split
  · rfl
  · exact applyChanges_overrides _ _ _ _

theorem Keyed.changed (h : ns.Keyed) (location : Text) (lead : Option Text) (changes : OrderedMap Value) :
    (ns.changed location lead changes).Keyed := by
  rw [Namespace.changed]
  cases firstMisfit? changes.entries with
  | some key => exact h
  | none => exact Keyed.applyChanges location lead changes.entries h

/-- A write leaves the keys in order even if the place refuses it. -/
theorem Keyed.write {τ : Type} (h : ns.Keyed) (place : τ) (location : Text) (lead : Option Text)
    (changes : OrderedMap Value) (persist : Text → OrderedMap Value → Commit τ) :
    (ns.write place location lead changes persist).state.1.Keyed := by
  rw [write_state_fst]
  exact h.changed location lead changes

end Namespace

end LayeredConfig
