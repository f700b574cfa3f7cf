import LayeredConfig.OrderedMap

/-!
# Ordered maps: what writes do to keys and values

An ordered map is observed through two views: `OrderedMap.keys`, the keys in order, and
`OrderedMap.get?`, the value at a key. This module says what each operation does to the two views, so
that nothing later opens an operation again:

* **`keys_put`** / **`get?_put`** — one write: the key keeps its position or goes to the end.
* **`keys_putAll`** / **`get?_putAll`** — many writes: the keys are those of the map and of the writes in
  the order of first appearance, and at each key the last write wins.
* **`keys_update`** / **`get?_update`** — one map written to another.
* **`ext_get?`** — the two views determine the map.
* **`ofList_entries`** — a map is what its own entries make when they are written in order.
* **`Entries.put_map`**, **`Entries.filter_put_of_pos`**, **`Entries.filter_put_of_neg`** — a write among entries that
  are renamed or of which only some are kept.
-/

namespace LayeredConfig

variable {α β γ : Type}

/-! ## Lists of entries -/

namespace Entries

/-- `List.eraseDups` keeps the first of equal items, so it changes nothing where all are distinct. -/
theorem eraseDups_of_nodup {l : List Text} (h : l.Nodup) : l.eraseDups = l := by
  induction l with
  | nil => rfl
  | cons a rest ih =>
    rw [List.nodup_cons] at h
    have hfilter : (rest.filter fun b => !b == a) = rest := by
      rw [List.filter_eq_self]
      intro b hb
      have hne : b ≠ a := fun heq => h.1 (heq ▸ hb)
      simpa using hne
    rw [List.eraseDups_cons, hfilter, ih h.2]

theorem lookup_cons (e : Text × α) (rest : List (Text × α)) (key : Text) :
    (e :: rest).lookup key = if key = e.1 then some e.2 else rest.lookup key := by
  rw [List.lookup_cons]
  by_cases h : key = e.1
  · simp [h]
  · rw [if_neg h, beq_false_of_ne h]

/-- What a lookup finds after a write. -/
theorem lookup_put (key k : Text) (value : α) (entries : List (Text × α)) :
    (put key value entries).lookup k = if k = key then some value else entries.lookup k := by
  induction entries with
  | nil => rw [put, lookup_cons]
  | cons e rest ih =>
    obtain ⟨j, v⟩ := e
    -- the write replaces the first entry, or it goes on behind it
    by_cases hj : j = key
    · rw [put, if_pos hj, lookup_cons, lookup_cons, hj]
      by_cases hk : k = key
      · rw [if_pos hk, if_pos hk]
      · rw [if_neg hk, if_neg hk, if_neg hk]
    · rw [put, if_neg hj, lookup_cons, lookup_cons, ih]
      -- a lookup that stops at the first entry is not for the written key
      by_cases hkj : k = j
      · have hne : k ≠ key := fun h => hj (hkj ▸ h)
        rw [if_pos hkj, if_pos hkj, if_neg hne]
      · rw [if_neg hkj, if_neg hkj]

/-- A write keeps the keys where they are; a key that is new goes to the end. -/
theorem map_fst_put (key : Text) (value : α) (entries : List (Text × α)) :
    (put key value entries).map Prod.fst =
      if key ∈ entries.map Prod.fst then entries.map Prod.fst
      else entries.map Prod.fst ++ [key] := by
  induction entries with
  | nil => simp [put]
  | cons e rest ih =>
    obtain ⟨j, v⟩ := e
    by_cases hj : j = key
    · simp [put, hj]
    · have hj' : key ≠ j := fun h => hj h.symm
      simp only [put, if_neg hj, List.map_cons, ih, List.mem_cons, hj', false_or]
      by_cases hk : key ∈ rest.map Prod.fst
      · rw [if_pos hk, if_pos hk]
      · rw [if_neg hk, if_neg hk, List.cons_append]

/-- A key that is not there yet is written at the end. -/
theorem put_of_not_mem {key : Text} {entries : List (Text × α)} (value : α)
    (h : key ∉ entries.map Prod.fst) : put key value entries = entries ++ [(key, value)] := by
  induction entries with
  | nil => rfl
  | cons e rest ih =>
    obtain ⟨j, v⟩ := e
    simp only [List.map_cons, List.mem_cons, not_or] at h
    rw [put, if_neg (fun hj => h.1 hj.symm), ih h.2, List.cons_append]

/-- Renaming keys apart and changing values commutes with a write. -/
theorem put_map {f : Text → Text} (hf : Function.Injective f) (g : α → β) (key : Text) (value : α)
    (entries : List (Text × α)) :
    (put key value entries).map (fun e => (f e.1, g e.2)) =
      put (f key) (g value) (entries.map fun e => (f e.1, g e.2)) := by
  induction entries with
  | nil => rfl
  | cons e rest ih =>
    obtain ⟨j, v⟩ := e
    by_cases hj : j = key
    · simp [put, hj]
    · -- keys that differ still differ when they are renamed, so the write goes on in both lists
      have hfj : f j ≠ f key := fun h => hj (hf h)
      simp [put, hj, hfj, ih]

/-- A write at a key that is kept is seen among the kept entries. -/
theorem filter_put_of_pos {kept : Text → Bool} {key : Text} (h : kept key = true) (value : α)
    (entries : List (Text × α)) :
    (put key value entries).filter (fun e => kept e.1) = put key value (entries.filter fun e => kept e.1) := by
  induction entries with
  | nil => simp [put, h]
  | cons e rest ih =>
    obtain ⟨j, v⟩ := e
    by_cases hj : j = key
    · simp [put, hj, h]
    · by_cases hkept : kept j = true
      · simp [put, hj, hkept, ih]
      · simp [put, hj, hkept, ih]

/-- A write at any other key is not. -/
theorem filter_put_of_neg {kept : Text → Bool} {key : Text} (h : kept key = false) (value : α)
    (entries : List (Text × α)) :
    (put key value entries).filter (fun e => kept e.1) = entries.filter fun e => kept e.1 := by
  induction entries with
  | nil => simp [put, h]
  | cons e rest ih =>
    obtain ⟨j, v⟩ := e
    by_cases hj : j = key
    · simp [put, hj, h]
    · rw [put, if_neg hj, List.filter_cons, List.filter_cons, ih]

/-- Among distinct keys, every entry is the one that is found at its key. -/
theorem lookup_of_mem {entries : List (Text × α)} {e : Text × α}
    (h : (entries.map Prod.fst).Nodup) (he : e ∈ entries) : entries.lookup e.1 = some e.2 := by
  induction entries with
  | nil => simp at he
  | cons e' rest ih =>
    rw [List.map_cons, List.nodup_cons] at h
    rw [lookup_cons]
    rcases List.mem_cons.mp he with rfl | hrest
    · rw [if_pos rfl]
    · have hne : e.1 ≠ e'.1 := fun heq => h.1 (heq ▸ List.mem_map_of_mem hrest)
      rw [if_neg hne, ih h.2 hrest]

/-- Nothing is found exactly at the keys that are not there. -/
theorem lookup_eq_none {entries : List (Text × α)} {key : Text} :
    entries.lookup key = none ↔ key ∉ entries.map Prod.fst := by
  rw [List.lookup_eq_none_iff]
  constructor
  · intro h hmem
    obtain ⟨e, he, rfl⟩ := List.mem_map.mp hmem
    simpa using h e he
  · intro h e he
    have hne : key ≠ e.1 := fun heq => h (heq ▸ List.mem_map_of_mem he)
    simpa using hne

theorem lookup_map (f : α → β) (entries : List (Text × α)) (key : Text) :
    (entries.map fun e => (e.1, f e.2)).lookup key = (entries.lookup key).map f := by
  induction entries with
  | nil => rfl
  | cons e rest ih =>
    rw [List.map_cons, lookup_cons, lookup_cons, ih]
    by_cases hk : key = e.1
    · rw [if_pos hk, if_pos hk, Option.map_some]
    · rw [if_neg hk, if_neg hk]

/-- Where keys are distinct, it does not matter from which end one looks. -/
theorem lookup_reverse {entries : List (Text × α)} (h : (entries.map Prod.fst).Nodup) (key : Text) :
    entries.reverse.lookup key = entries.lookup key := by
  cases hl : entries.lookup key with
  | none =>
    rw [lookup_eq_none] at hl ⊢
    simpa using hl
  | some v =>
    -- the entry that is found first is the only one with its key
    obtain ⟨before, after, rfl, -⟩ := List.lookup_eq_some_iff.mp hl
    refine lookup_of_mem (e := (key, v)) ?_ (by simp)
    rw [List.map_reverse]
    exact List.pairwise_reverse.mpr (h.imp fun hne => hne.symm)

end Entries

/-! ## The two views of a map -/

namespace OrderedMap

theorem nodup_keys (m : OrderedMap α) : m.keys.Nodup := m.nodup

@[simp] theorem keys_empty : (empty : OrderedMap α).keys = [] := rfl

@[simp] theorem get?_empty (key : Text) : (empty : OrderedMap α).get? key = none := rfl

theorem get?_eq_none_iff {m : OrderedMap α} {key : Text} : m.get? key = none ↔ key ∉ m.keys :=
  Entries.lookup_eq_none

theorem isSome_get?_iff {m : OrderedMap α} {key : Text} : (m.get? key).isSome ↔ key ∈ m.keys := by
  rw [Option.isSome_iff_ne_none, ne_eq, get?_eq_none_iff, Classical.not_not]

/-- The values at the keys are the entries. -/
theorem get?_eq_some_iff {m : OrderedMap α} {key : Text} {value : α} :
    m.get? key = some value ↔ (key, value) ∈ m.entries := by
  constructor
  · intro h
    obtain ⟨before, after, heq, -⟩ := List.lookup_eq_some_iff.mp h
    rw [heq]
    simp
  · intro h
    exact Entries.lookup_of_mem m.nodup h

/-- **The two views determine the map**: equal keys in order and equal values make equal maps. -/
theorem ext_get? {m n : OrderedMap α} (hkeys : m.keys = n.keys)
    (hget : ∀ key ∈ m.keys, m.get? key = n.get? key) : m = n := by
  -- the entries are what `get?` says at the keys, one after the other
  have hentries (l : OrderedMap α) :
      l.entries.map some = l.keys.map fun key => (l.get? key).map fun v => (key, v) := by
    rw [keys, List.map_map]
    refine List.map_congr_left fun e he => ?_
    have : l.get? e.1 = some e.2 := Entries.lookup_of_mem l.nodup he
    simp [this]
  have hmap : m.entries.map some = n.entries.map some := by
    rw [hentries m, hentries n, ← hkeys]
    refine List.map_congr_left fun key hkey => ?_
    rw [hget key hkey]
  exact OrderedMap.ext ((List.map_inj_right fun _ _ => Option.some.inj).mp hmap)

/-! ## One write -/

/-- **The keys after a write.** A key that is there keeps its position, a new one goes to the end. -/
theorem keys_put (m : OrderedMap α) (key : Text) (value : α) :
    (m.put key value).keys = if key ∈ m.keys then m.keys else m.keys ++ [key] :=
  Entries.map_fst_put key value m.entries

/-- **The values after a write.** -/
theorem get?_put (m : OrderedMap α) (key k : Text) (value : α) :
    (m.put key value).get? k = if k = key then some value else m.get? k :=
  Entries.lookup_put key k value m.entries

theorem get?_put_self (m : OrderedMap α) (key : Text) (value : α) :
    (m.put key value).get? key = some value := by
  rw [get?_put, if_pos rfl]

theorem get?_put_of_ne (m : OrderedMap α) {key k : Text} (value : α) (h : k ≠ key) :
    (m.put key value).get? k = m.get? k := by
  rw [get?_put, if_neg h]

theorem mem_keys_put {m : OrderedMap α} {key k : Text} {value : α} :
    k ∈ (m.put key value).keys ↔ k = key ∨ k ∈ m.keys := by
  rw [keys_put]
  by_cases h : key ∈ m.keys
  · rw [if_pos h]
    exact ⟨.inr, fun hk => hk.elim (fun heq => heq ▸ h) id⟩
  · rw [if_neg h, List.mem_append, List.mem_singleton, or_comm]

theorem keys_erase (m : OrderedMap α) (key : Text) : (m.erase key).keys = m.keys.filter (· ≠ key) := by
  rw [keys, keys, List.filter_map]
  rfl

/-! ## Many writes -/

@[simp] theorem putAll_nil (m : OrderedMap α) : m.putAll [] = m := rfl

@[simp] theorem putAll_cons (m : OrderedMap α) (e : Text × α) (es : List (Text × α)) :
    m.putAll (e :: es) = (m.put e.1 e.2).putAll es := rfl

/-- **The keys after many writes** are those of the map and of the writes, in the order of first
appearance. -/
theorem keys_putAll (m : OrderedMap α) (es : List (Text × α)) :
    (m.putAll es).keys = (m.keys ++ es.map Prod.fst).eraseDups := by
  induction es generalizing m with
  | nil => rw [putAll_nil, List.map_nil, List.append_nil, Entries.eraseDups_of_nodup m.nodup_keys]
  | cons e es ih =>
    rw [putAll_cons, ih, keys_put, List.map_cons]
    -- a key that is there already adds nothing, one that is not comes first among the new ones
    by_cases h : e.1 ∈ m.keys
    · have hremove : (e.1 :: es.map Prod.fst).removeAll m.keys =
          (es.map Prod.fst).removeAll m.keys := by
        rw [List.cons_removeAll, if_neg]
        simpa using h
      rw [if_pos h, List.eraseDups_append, List.eraseDups_append, hremove]
    · rw [if_neg h, List.append_assoc, List.singleton_append]

theorem keys_ofList (es : List (Text × α)) : (ofList es).keys = (es.map Prod.fst).eraseDups := by
  rw [ofList, keys_putAll, keys_empty, List.nil_append]

/-- **The values after many writes**: the last write to a key wins. -/
theorem get?_putAll (m : OrderedMap α) (es : List (Text × α)) (key : Text) :
    (m.putAll es).get? key = (es.reverse.lookup key).or (m.get? key) := by
  induction es generalizing m with
  | nil => rfl
  | cons e es ih =>
    rw [putAll_cons, ih, get?_put, List.reverse_cons, List.lookup_append, Option.or_assoc,
      Entries.lookup_cons]
    by_cases h : key = e.1
    · rw [if_pos h, if_pos h, Option.some_or]
    · rw [if_neg h, if_neg h, List.lookup_nil, Option.none_or]

theorem get?_update (m other : OrderedMap α) (key : Text) :
    (m.update other).get? key = (other.get? key).or (m.get? key) := by
  rw [update, get?_putAll, Entries.lookup_reverse other.nodup, get?]
  rfl

/-- The keys after an update are those of both. -/
theorem mem_keys_update {m other : OrderedMap α} {key : Text} :
    key ∈ (m.update other).keys ↔ key ∈ m.keys ∨ key ∈ other.keys := by
  rw [← isSome_get?_iff, ← isSome_get?_iff, ← isSome_get?_iff, get?_update, Option.isSome_or, Bool.or_eq_true,
    or_comm]

/-- **The keys after an update**: those that were there stay where they were, and new ones follow. -/
theorem keys_update (m other : OrderedMap α) :
    (m.update other).keys = m.keys ++ other.keys.filter fun key => key ∉ m.keys := by
  have hnodup : (other.keys.filter fun key => key ∉ m.keys).Nodup := other.nodup_keys.filter _
  have hremove : other.keys.removeAll m.keys = other.keys.filter fun key => key ∉ m.keys := by
    unfold List.removeAll
    refine List.filter_congr fun key _ => ?_
    simp
  rw [update, keys_putAll, List.eraseDups_append, Entries.eraseDups_of_nodup m.nodup_keys]
  show m.keys ++ (other.keys.removeAll m.keys).eraseDups = _
  rw [hremove, Entries.eraseDups_of_nodup hnodup]

theorem update_empty (m : OrderedMap α) : m.update .empty = m := rfl

/-- A write to what is written is a write behind it. -/
theorem update_put (m other : OrderedMap α) (key : Text) (value : α) :
    m.update (other.put key value) = (m.update other).put key value := by
  refine ext_get? ?_ fun k _ => ?_
  · -- the order of the keys depends on which of the two maps has the key already
    rw [keys_update, keys_put, keys_put, keys_update]
    by_cases hm : key ∈ m.keys
    all_goals by_cases hother : key ∈ other.keys
    all_goals simp [hm, hother]
  · rw [get?_update, get?_put, get?_put, get?_update]
    by_cases hk : k = key
    · rw [if_pos hk, if_pos hk, Option.some_or]
    · rw [if_neg hk, if_neg hk]

/-- Writes at distinct new keys are appended as they stand. -/
theorem entries_putAll_of_disjoint (m : OrderedMap α) (es : List (Text × α))
    (hnodup : (es.map Prod.fst).Nodup) (hnew : ∀ e ∈ es, e.1 ∉ m.keys) :
    (m.putAll es).entries = m.entries ++ es := by
  induction es generalizing m with
  | nil => simp
  | cons e es ih =>
    rw [List.map_cons, List.nodup_cons] at hnodup
    have hput : (m.put e.1 e.2).entries = m.entries ++ [e] :=
      Entries.put_of_not_mem e.2 (hnew e List.mem_cons_self)
    -- the keys of the rest stay new: this one is not among them
    have hnew' : ∀ f ∈ es, f.1 ∉ (m.put e.1 e.2).keys := by
      intro f hf hmem
      rcases mem_keys_put.mp hmem with heq | hmem
      · exact hnodup.1 (heq ▸ List.mem_map_of_mem hf)
      · exact hnew f (List.mem_cons_of_mem e hf) hmem
    rw [putAll_cons, ih _ hnodup.2 hnew', hput, List.append_assoc, List.singleton_append]

/-- Writing what is there changes nothing. -/
theorem put_eq_self {m : OrderedMap α} {key : Text} {value : α} (h : m.get? key = some value) : m.put key value = m := by
  have hmem : key ∈ m.keys := isSome_get?_iff.mp (by rw [h]; rfl)
  refine ext_get? (by rw [keys_put, if_pos hmem]) fun k _ => ?_
  rw [get?_put]
  split
  · subst k
    exact h.symm
  · rfl

/-- Many writes change nothing exactly if each of them wrote what was there. -/
theorem putAll_eq_self_iff {m : OrderedMap α} {es : List (Text × α)} (hnodup : (es.map Prod.fst).Nodup) :
    m.putAll es = m ↔ ∀ e ∈ es, m.get? e.1 = some e.2 := by
  constructor
  · intro h e he
    rw [← h, get?_putAll, Entries.lookup_reverse hnodup, Entries.lookup_of_mem hnodup he, Option.some_or]
  · intro h
    clear hnodup
    induction es with
    | nil => rfl
    | cons e es ih =>
      obtain ⟨he, hes⟩ := List.forall_mem_cons.mp h
      rw [putAll_cons, put_eq_self he, ih hes]

/-- **A map is what its own entries make** when they are written in order. -/
@[simp] theorem ofList_entries (m : OrderedMap α) : ofList m.entries = m := by
  refine OrderedMap.ext ?_
  rw [ofList, entries_putAll_of_disjoint empty m.entries m.nodup (by simp)]
  rfl

/-! ## Changed values -/

@[simp] theorem keys_mapValues (f : α → β) (m : OrderedMap α) : (m.mapValues f).keys = m.keys := by
  rw [keys, mapValues, List.map_map]
  rfl

@[simp] theorem get?_mapValues (f : α → β) (m : OrderedMap α) (key : Text) :
    (m.mapValues f).get? key = (m.get? key).map f :=
  Entries.lookup_map f m.entries key

theorem mapValues_mapValues (f : α → β) (g : β → γ) (m : OrderedMap α) :
    (m.mapValues f).mapValues g = m.mapValues (g ∘ f) := by
  refine OrderedMap.ext ?_
  simp only [mapValues, List.map_map]
  rfl

@[simp] theorem mapValues_empty (f : α → β) : (empty : OrderedMap α).mapValues f = empty := rfl

theorem mapValues_put (f : α → β) (m : OrderedMap α) (key : Text) (value : α) :
    (m.put key value).mapValues f = (m.mapValues f).put key (f value) :=
  OrderedMap.ext (Entries.put_map (fun _ _ h => h) f key value m.entries)

theorem mapValues_erase (f : α → β) (m : OrderedMap α) (key : Text) :
    (m.erase key).mapValues f = (m.mapValues f).erase key := by
  refine OrderedMap.ext ?_
  show (m.entries.filter fun e => e.1 ≠ key).map (fun e => (e.1, f e.2)) =
    (m.entries.map fun e => (e.1, f e.2)).filter fun e => e.1 ≠ key
  rw [List.filter_map]
  rfl

theorem mapValues_of_forall {f : α → α} {m : OrderedMap α} (h : ∀ e ∈ m.entries, f e.2 = e.2) :
    m.mapValues f = m := by
  refine OrderedMap.ext ?_
  calc m.entries.map (fun e => (e.1, f e.2))
      = m.entries.map id := List.map_congr_left fun e he => by rw [h e he]; rfl
    _ = m.entries := List.map_id m.entries

end OrderedMap

end LayeredConfig
