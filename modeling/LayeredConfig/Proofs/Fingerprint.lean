import LayeredConfig.Fingerprint
import LayeredConfig.Proofs.OrderedMap
import LayeredConfig.Proofs.Text.Utf8
import Mathlib.Tactic.SplitIfs

/-!
# When a fingerprint can be taken

A fingerprint is the digest of a text in UTF-8, so what stands in its way is a surrogate. Escaping does not remove
any and nothing else that is written is one, so a map has a fingerprint exactly if there is none in its keys and
items (**`Fingerprint.exists_ofRaw_iff`**).
-/

namespace LayeredConfig

/-- Nothing that stands between the parts of a value is a surrogate. -/
structure JsonLayout.Writable (layout : JsonLayout) : Prop where
  item : layout.item.Writable
  name : layout.name.Writable

theorem JsonLayout.writable_compact : JsonLayout.compact.Writable :=
  ⟨Text.writable_ofString _, Text.writable_ofString _⟩

theorem JsonLayout.writable_spaced : JsonLayout.spaced.Writable :=
  ⟨Text.writable_ofString _, Text.writable_ofString _⟩

namespace Json

variable {layout : JsonLayout}

/-- An escape is written for a code point that is no surrogate, and without one. -/
theorem writable_escape (c : CodePoint) : (escape c).Writable ↔ c.isSurrogate = false := by
  have hescape : ∀ (u : Char), c = CodePoint.ofChar u → c.isSurrogate = false := by
    rintro u rfl
    exact Text.isSurrogate_ofChar u
  rw [escape]
  -- seven letters, the controls by number, and what stands for itself
  split_ifs with h₁ h₂ h₃ h₄ h₅ h₆ h₇ h₈
  · simp [hescape _ h₁]
  · simp [hescape _ h₂]
  · simp [hescape _ h₃]
  · simp [hescape _ h₄]
  · simp [hescape _ h₅]
  · simp [hescape _ h₆]
  · simp [hescape _ h₇]
  · have hc : c.isSurrogate = false := by
      simp only [CodePoint.isSurrogate, Bool.and_eq_false_iff, decide_eq_false_iff_not]
      omega
    simp [hc]
  · simp

theorem writable_writeText (t : Text) : (writeText t).Writable ↔ t.Writable := by
  simp [writeText, Text.writable_flatMap writable_escape]

theorem writeItems_eq (items : List Json) : writeItems layout items = items.map (write layout) := by
  induction items with
  | nil => rfl
  | cons j rest ih => rw [writeItems, ih, List.map_cons]

theorem writeMembers_eq (members : List (Text × Json)) :
    writeMembers layout members = members.map fun e => (e.1, write layout e.2) := by
  induction members with
  | nil => rfl
  | cons e rest ih => rw [writeMembers, ih, List.map_cons]

theorem sortMembers_perm {α : Type} (members : List (Text × α)) : (sortMembers members).Perm members :=
  List.mergeSort_perm _ _

theorem writable_list (hlayout : layout.Writable) (items : List Json) :
    (write layout (.list items)).Writable ↔ ∀ j ∈ items, (write layout j).Writable := by
  rw [write, writeItems_eq]
  simp [Text.writable_join hlayout.item]

/-- An object is written without surrogates if its names and its values are. -/
theorem writable_object (hlayout : layout.Writable) (members : List (Text × Json)) :
    (write layout (.object members)).Writable ↔
      ∀ e ∈ members, e.1.Writable ∧ (write layout e.2).Writable := by
  have hmember : ∀ e : Text × Text,
      (writeText e.1 ++ layout.name ++ e.2).Writable ↔ e.1.Writable ∧ e.2.Writable := fun e => by
    simp [hlayout.name, writable_writeText]
  rw [write, writeObject, writeMembers_eq, Text.writable_append, Text.writable_append,
    Text.writable_join hlayout.item, List.forall_mem_map]
  simp only [Text.writable_ofString, true_and, and_true, hmember]
  -- the members are sorted before they are written, which moves no surrogate in or out
  constructor
  · intro h e he
    exact h (e.1, write layout e.2) ((sortMembers_perm _).mem_iff.mpr (List.mem_map_of_mem he))
  · intro h e he
    obtain ⟨e, hmem, rfl⟩ := List.mem_map.mp ((sortMembers_perm _).mem_iff.mp he)
    exact h e hmem

end Json

/-- The canonical text of a raw value has a surrogate exactly if one of its items has. -/
theorem RawValue.writable_toJson (v : RawValue) :
    (v.toJson.write .compact).Writable ↔ ∀ t ∈ v.items, t.Writable := by
  cases v with
  | text t =>
    rw [toJson, Json.write, Json.writable_writeText]
    simp [items]
  | list head tail =>
    rw [toJson, Json.writable_list JsonLayout.writable_compact, List.forall_mem_map]
    simp only [Json.write, Json.writable_writeText]
    rfl

namespace Fingerprint

/-- No surrogate is in the keys and items of the map. -/
def Possible (m : OrderedMap RawValue) : Prop :=
  ∀ e ∈ m.entries, e.1.Writable ∧ ∀ t ∈ e.2.items, t.Writable

theorem possible_iff {m : OrderedMap RawValue} :
    Possible m ↔ ∀ key value, m.get? key = some value → key.Writable ∧ ∀ t ∈ value.items, t.Writable := by
  simp only [OrderedMap.get?_eq_some_iff]
  exact Prod.forall

/-- **A map has a fingerprint** exactly if there is no surrogate in it. -/
theorem exists_ofRaw_iff (m : OrderedMap RawValue) :
    (∃ fingerprint, ofRaw m = .ok fingerprint) ↔ Possible m := by
  -- the canonical text has a surrogate if a key or an item has one; and only that keeps it from having bytes
  have hcanonical : (Json.canonical (.ofMap (m.mapValues RawValue.toJson))).Writable ↔ Possible m := by
    rw [Json.canonical, Json.ofMap, Json.writable_object JsonLayout.writable_compact, OrderedMap.mapValues,
      List.forall_mem_map]
    simp only [RawValue.writable_toJson]
    rfl
  rw [ofRaw, ← hcanonical]
  show (∃ fingerprint, ofText (Json.canonical (.ofMap (m.mapValues RawValue.toJson))) = .ok fingerprint) ↔ _
  rw [ofText]
  constructor
  · rintro ⟨fingerprint, h⟩
    cases hencode : Utf8.encode (Json.canonical (.ofMap (m.mapValues RawValue.toJson))) with
    | ok bytes => exact (Utf8.encode_eq_ok_iff.mp hencode).1
    | error e =>
      rw [hencode] at h
      cases h
  · intro h
    rw [Utf8.encode_eq_ok_iff.mpr ⟨h, rfl⟩]
    exact ⟨_, rfl⟩

/-- Nothing but a surrogate is refused. -/
theorem error_ofRaw {m : OrderedMap RawValue} {e : Failure} (h : ofRaw m = .error e) : ∃ u, e = .unencodable u := by
  change ofText (Json.canonical (.ofMap (m.mapValues RawValue.toJson))) = _ at h
  rw [ofText] at h
  split at h
  · cases h
  · exact ⟨_, (Except.error.inj h).symm⟩

theorem ofTexts_eq (m : OrderedMap Text) : ofTexts m = ofRaw (m.mapValues RawValue.text) := by
  rw [ofTexts, ofRaw, OrderedMap.mapValues_mapValues]
  rfl

end Fingerprint

end LayeredConfig
