import LayeredConfig.Proofs.View

/-!
# The table of a view

What a view shows is the table of its keys with their texts. It is cut out of the namespace key by key
(**`View.toList_eq_filterMap`**), and a write behind the prefix is a write to the table (**`View.toList_put`**), unless
the key is empty: an empty key is behind the prefix, but the view does not show it.

So the view is coherent but for the empty key (**`View.coherent_iff`**): it contains exactly the keys that it
enumerates, and what is set through it is shown. An empty key can be set and is contained, and is not shown.
-/

namespace LayeredConfig

variable {k key : Text} {ns ns' own : Namespace} {value : Value} {raw : RawValue} {source : Option Text}

/-- The table of a whole namespace. -/
theorem Scope.toList_whole (ns : Namespace) :
    whole.toList ns = ns.snapshot.entries.map fun e => (e.1, some e.2.decoded) := by
  show ns.keys.map (fun key => (key, ns.text? key)) = _
  rw [← Namespace.snapshot_keys, OrderedMap.keys, List.map_map]
  refine List.map_congr_left fun e he => ?_
  have hget : ns.get? e.1 = some e.2 := by
    rw [← Namespace.snapshot_get?]
    exact OrderedMap.get?_eq_some_iff.mpr he
  show (e.1, (ns.get? e.1).map RawValue.decoded) = _
  rw [hget]
  rfl

namespace View

variable {v : View}

/-- The table of a view is that of a namespace of its own. -/
theorem Mirrors.toList (h : v.Mirrors ns own) :
    v.toList ns = own.snapshot.entries.map fun e => (e.1, some e.2.decoded) := by
  rw [← Scope.toList_whole]
  exact Scope.Behind.whole.toList h

/-- The rows of the table stand at the keys of the view. -/
theorem map_fst_toList (v : View) (ns : Namespace) : (v.toList ns).map Prod.fst = v.keys ns := by
  rw [toList, List.map_map]
  exact List.map_id _

/-- No key is enumerated twice. -/
theorem nodup_keys (v : View) (ns : Namespace) : (v.keys ns).Nodup := by
  have hm := v.mirrors_separate ns
  rw [hm.keys]
  exact (v.separate ns).entries.nodup_keys

/-- The row of the table that an entry of the namespace gives, if the view shows it. -/
def row? (v : View) (e : Text × RawValue) : Option (Text × Option Text) :=
  (v.key? e.1).map fun k => (k, some e.2.decoded)

/-- An entry that the view does not show has no row. -/
theorem row?_eq_none {e : Text × RawValue} (h : v.shows e.1 = false) : v.row? e = none := by
  rw [row?, key?_eq_none h]
  rfl

/-- An entry that the view shows has its row at the key of the view. -/
theorem row?_qualify (hk : k ≠ []) (raw : RawValue) : v.row? (v.qualify k, raw) = some (k, some raw.decoded) := by
  rw [row?, key?_eq_some_iff.mpr ⟨hk, rfl⟩]
  rfl

/-- **The table of a view** is what the namespace stores at the keys that the view shows, under the keys of the view. -/
theorem toList_eq_filterMap (v : View) (ns : Namespace) : v.toList ns = ns.snapshot.entries.filterMap v.row? := by
  have hm := v.mirrors_separate ns
  -- what the view hides has no row, and what it shows is in the separate namespace under its own key
  have hshown : ns.snapshot.entries.filterMap v.row? =
      (ns.snapshot.entries.filter fun e => v.shows e.1).filterMap v.row? := by
    rw [List.filterMap_filter]
    refine List.filterMap_congr fun e _ => ?_
    cases hkey : v.shows e.1 with
    | false => exact row?_eq_none hkey
    | true => rfl
  have hback : ∀ e ∈ (v.separate ns).snapshot.entries, v.row? (v.qualify e.1, e.2) = some (e.1, some e.2.decoded) := by
    intro e he
    have hmem : e.1 ∈ (v.separate ns).keys := by
      rw [← Namespace.snapshot_keys]
      exact List.mem_map_of_mem he
    exact row?_qualify (hm.keys_ne_nil e.1 hmem) e.2
  calc v.toList ns
      = (v.separate ns).snapshot.entries.filterMap fun e => some (e.1, some e.2.decoded) := by
        rw [hm.toList, List.filterMap_eq_map']
    _ = (v.separate ns).snapshot.entries.filterMap fun e => v.row? (v.qualify e.1, e.2) :=
      (List.filterMap_congr hback).symm
    _ = ns.snapshot.entries.filterMap v.row? := by
      rw [hshown, ← hm, List.filterMap_map]
      rfl

/-! ## Writes -/

/-- **A write behind the prefix** is one to the table. -/
theorem toList_put (v : View) (ns : Namespace) (hk : k ≠ []) (raw : RawValue) (source : Option Text) :
    v.toList (ns.put (v.qualify k) raw source) = Entries.put k (some raw.decoded) (v.toList ns) := by
  have hm := v.mirrors_separate ns
  rw [hm.toList, (hm.put hk raw source).1.toList, Namespace.snapshot_put]
  exact Entries.put_map (f := id) Function.injective_id (fun r => some (RawValue.decoded r)) k raw
    (v.separate ns).snapshot.entries

/-- A write to what the view does not show leaves the table as it is. -/
theorem toList_put_of_hidden (h : v.shows key = false) (ns : Namespace) (raw : RawValue) (source : Option Text) :
    v.toList (ns.put key raw source) = v.toList ns := by
  have hm := v.mirrors_separate ns
  have hm' : v.Mirrors (ns.put key raw source) (v.separate ns) := by
    rw [Mirrors, Namespace.snapshot_put]
    exact hm.trans (Entries.filter_put_of_neg h raw ns.snapshot.entries).symm
  rw [hm.toList, hm'.toList]

/-- The prefix and a dot alone are no key of the view. -/
theorem shows_head (v : View) : v.shows v.head = false := by
  rw [Bool.eq_false_iff, ne_eq, shows_iff]
  rintro ⟨k, hk, hhead⟩
  exact hk (List.append_right_eq_self.mp hhead.symm)

/-! ## Membership -/

/-- The view enumerates a key exactly if the namespace has it behind the prefix. -/
theorem mem_keys_iff (hk : k ≠ []) (ns : Namespace) : k ∈ v.keys ns ↔ v.qualify k ∈ ns.keys := by
  rw [View.keys, List.mem_filterMap]
  constructor
  · rintro ⟨key, hmem, hkey⟩
    obtain ⟨-, rfl⟩ := key?_eq_some_iff.mp hkey
    exact hmem
  · exact fun hmem => ⟨_, hmem, key?_eq_some_iff.mpr ⟨hk, rfl⟩⟩

/-- It never enumerates the empty key. -/
theorem nil_notMem_keys (v : View) (ns : Namespace) : [] ∉ v.keys ns := by
  intro hmem
  obtain ⟨key, -, hkey⟩ := List.mem_filterMap.mp hmem
  exact (key?_eq_some_iff.mp hkey).1 rfl

/-- It contains whatever the namespace has behind the prefix, the empty key as well. -/
theorem contains_iff (v : View) (ns : Namespace) (k : Text) :
    (Scope.view v).contains ns k = true ↔ v.qualify k ∈ ns.keys :=
  OrderedMap.isSome_get?_iff

/-- The view shows the text at the key, whichever way it is looked at. -/
structure Exhibits (v : View) (ns : Namespace) (k t : Text) : Prop where
  once : (v.keys ns).count k = 1
  counted : (Scope.view v).length ns = ((v.keys ns).erase k).length + 1
  text : (v.toList ns).lookup k = some (some t)
  nonempty : v.isEmpty ns = false

/-- A row of the table is seen from all sides. -/
theorem exhibits_of_lookup {t : Text} (h : (v.toList ns).lookup k = some (some t)) : v.Exhibits ns k t := by
  have hmem : k ∈ v.keys ns := by
    rw [← map_fst_toList]
    by_contra hnone
    cases h.symm.trans (Entries.lookup_eq_none.mpr hnone)
  have hpos : 0 < (v.keys ns).length := List.length_pos_of_mem hmem
  refine ⟨List.count_eq_one_of_mem (v.nodup_keys ns) hmem, ?_, h, ?_⟩
  · rw [List.length_erase_of_mem hmem]
    show (v.keys ns).length = _
    omega
  · exact List.isEmpty_eq_false_iff.mpr (List.ne_nil_of_mem hmem)

/-- The view contains the key if it enumerates it and not otherwise, and a value that is set there is shown. -/
structure Coherent (v : View) (ns : Namespace) (k : Text) : Prop where
  membership : (Scope.view v).contains ns k = true ↔ k ∈ v.keys ns
  writes : ∀ value source ns', (Scope.view v).set ns k value source = .ok ns' →
    ∃ t, value.decode = .ok (some t) ∧ v.Exhibits ns' k t

/-- With a key that is not empty a view is coherent. -/
theorem coherent_of_ne_nil (hk : k ≠ []) (v : View) (ns : Namespace) : v.Coherent ns k := by
  refine ⟨(v.contains_iff ns k).trans (mem_keys_iff hk ns).symm, fun value source ns' hset => ?_⟩
  obtain ⟨-, raw, hraw, rfl⟩ := Namespace.set_eq_ok hset
  obtain rfl := RawValue.ofValue?_eq_some_iff.mp hraw
  refine ⟨raw.decoded, RawValue.decode_toValue raw, exhibits_of_lookup ?_⟩
  show (v.toList (ns.put (v.qualify k) raw source)).lookup k = _
  rw [toList_put v ns hk, Entries.lookup_put, if_pos rfl]

/-- What is set at the empty key is contained, but the table stays as it is. -/
theorem set_nil_eq_ok (h : (Scope.view v).set ns [] value source = .ok ns') :
    v.toList ns' = v.toList ns ∧ (Scope.view v).contains ns' [] = true := by
  obtain ⟨-, raw, -, rfl⟩ := Namespace.set_eq_ok h
  have hhead : v.qualify [] = v.head := List.append_nil v.head
  refine ⟨?_, (v.contains_iff _ []).mpr ?_⟩
  · show v.toList (ns.put (v.qualify []) raw source) = _
    rw [hhead, toList_put_of_hidden v.shows_head]
  · exact OrderedMap.mem_keys_put.mpr (.inl rfl)

/-- **A view is coherent** but for the empty key, which it can contain and never shows. -/
theorem coherent_iff (v : View) (ns : Namespace) (k : Text) :
    (v.Coherent ns k ↔ k ≠ []) ∧
      ((Scope.view v).contains ns [] = true ↔ v.head ∈ ns.keys) ∧ [] ∉ v.keys ns ∧
      ∀ value source ns', (Scope.view v).set ns [] value source = .ok ns' →
        v.toList ns' = v.toList ns ∧ (Scope.view v).contains ns' [] = true := by
  refine ⟨⟨?_, fun hk => coherent_of_ne_nil hk v ns⟩, ?_, v.nil_notMem_keys ns, fun _ _ _ => set_nil_eq_ok⟩
  · rintro hcoherent rfl
    -- any value that is accepted can be set at the empty key
    have hset : (Scope.view v).set ns [] (RawValue.text []).toValue none =
        .ok (ns.put (v.qualify []) (.text []) none) :=
      ns.set_toValue (v.qualify_ne_nil []) (.text []) none
    obtain ⟨t, -, hshown⟩ := hcoherent.writes _ _ _ hset
    have hmem : [] ∈ v.keys _ := List.count_pos_iff.mp (by rw [hshown.once]; exact Nat.one_pos)
    exact v.nil_notMem_keys _ hmem
  · rw [contains_iff, qualify, List.append_nil]

/-! A namespace in which an empty key was set through a view. -/

namespace Unnamed

def view : View := ⟨"src"⟩

def held : Namespace :=
  ⟨.ofList [("src.", ⟨.text "x", none⟩)], []⟩

end Unnamed

open Unnamed in
/-- **The empty key** is set and contained, and not shown. -/
theorem not_coherent :
    (Scope.view view).set .empty [] (.text "x") none = .ok held ∧
      ¬ ((Scope.view view).contains held [] = true ↔ [] ∈ view.keys held) ∧ ∀ t, ¬ view.Exhibits held [] t := by
  have hcontains : (Scope.view view).contains held [] = true := by decide +kernel
  have hempty : view.isEmpty held = true := by decide +kernel
  refine ⟨rfl, fun hiff => view.nil_notMem_keys held (hiff.mp hcontains), fun t hshown => ?_⟩
  cases hempty.symm.trans hshown.nonempty

end View

end LayeredConfig
