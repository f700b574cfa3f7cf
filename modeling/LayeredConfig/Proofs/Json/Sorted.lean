import LayeredConfig.Proofs.Json.Written
import LayeredConfig.Proofs.Text.Order
import Mathlib.Data.List.Nodup

/-!
# Members in the order of their names

A map of texts and lists of texts is written as an object with its members sorted, and this is how it is read back
(**`Json.read_write`**). A map is sorted in one way only, so what is written tells what the map holds at each key and
nothing else (`OrderedMap.sorted_eq_iff`).
-/

namespace LayeredConfig

/-! ## Sorted maps -/

namespace OrderedMap

variable {α β : Type}

/-- The map with its keys in order. -/
def sorted (m : OrderedMap α) : OrderedMap α where
  entries := Json.sortMembers m.entries
  nodup := ((Json.sortMembers_perm m.entries).map Prod.fst).nodup_iff.mpr m.nodup

theorem nodup_entries (m : OrderedMap α) : m.entries.Nodup :=
  List.Nodup.of_map Prod.fst m.nodup

/-- What is the same at each key has the same entries in some order. -/
theorem perm_entries_iff {m m' : OrderedMap α} :
    m.entries.Perm m'.entries ↔ ∀ key, m.get? key = m'.get? key := by
  rw [List.perm_ext_iff_of_nodup m.nodup_entries m'.nodup_entries]
  constructor
  · intro h key
    refine Option.ext fun value => ?_
    rw [get?_eq_some_iff, get?_eq_some_iff, h]
  · rintro h ⟨key, value⟩
    rw [← get?_eq_some_iff, ← get?_eq_some_iff, h]

/-- Keys are distinct, so there is one way to sort them. -/
theorem sorted_eq_iff {m m' : OrderedMap α} : m.sorted = m'.sorted ↔ ∀ key, m.get? key = m'.get? key := by
  rw [← perm_entries_iff]
  constructor
  · intro h
    have hentries : Json.sortMembers m.entries = Json.sortMembers m'.entries := congrArg entries h
    exact (Json.sortMembers_perm m.entries).symm.trans (hentries ▸ Json.sortMembers_perm m'.entries)
  · -- two sorted lists with the same entries are one list, if order and equality of keys go together
    intro h
    have hle (m : OrderedMap α) : (Json.sortMembers m.entries).Pairwise fun a b => a.1.le b.1 = true :=
      @List.pairwise_mergeSort _ (fun a b : Text × α => a.1.le b.1) (fun _ _ _ => Text.le_trans)
        (fun a b => Bool.or_eq_true_iff.mpr (Text.le_total a.1 b.1)) m.entries
    have hperm : (Json.sortMembers m.entries).Perm (Json.sortMembers m'.entries) :=
      (Json.sortMembers_perm m.entries).trans (h.trans (Json.sortMembers_perm m'.entries).symm)
    refine OrderedMap.ext (hperm.eq_of_pairwise (fun a b ha hb hab hba => ?_) (hle m) (hle m'))
    -- two entries of one map with the same key
    have hkey : a.1 = b.1 := Text.le_antisymm hab hba
    have ha' : m.get? a.1 = some a.2 := get?_eq_some_iff.mpr ((Json.sortMembers_perm _).mem_iff.mp ha)
    have hb' : m.get? b.1 = some b.2 :=
      get?_eq_some_iff.mpr (h.mem_iff.mpr ((Json.sortMembers_perm _).mem_iff.mp hb))
    have hvalue : some a.2 = some b.2 := by rw [← ha', ← hb', hkey]
    exact Prod.ext hkey (Option.some.inj hvalue)

/-- Sorting moves no value to another key. -/
theorem get?_sorted (m : OrderedMap α) (key : Text) : m.sorted.get? key = m.get? key :=
  perm_entries_iff.mp (Json.sortMembers_perm m.entries) key

/-- Sorting by keys does not look at the values. -/
theorem sorted_mapValues (m : OrderedMap α) (f : α → β) : (m.mapValues f).sorted = m.sorted.mapValues f :=
  OrderedMap.ext (@List.map_mergeSort _ _ (fun a b : Text × α => a.1.le b.1) (fun a b : Text × β => a.1.le b.1)
    (fun e => (e.1, f e.2)) m.entries fun _ _ _ _ => rfl).symm

theorem mapValues_injective {f : α → β} (hf : Function.Injective f) :
    Function.Injective (mapValues f) := by
  intro m m' h
  have hentry : Function.Injective fun e : Text × α => (e.1, f e.2) := by
    intro e e' he
    obtain ⟨hkey, hvalue⟩ := Prod.mk.inj he
    exact Prod.ext hkey (hf hvalue)
  exact OrderedMap.ext (List.map_injective_iff.mpr hentry (congrArg entries h))

end OrderedMap

/-! ## Maps as objects -/

namespace Json

/-- The map as an object. -/
def ofTextsMap (m : OrderedMap (Text ⊕ List Text)) : Json :=
  ofMap (m.mapValues ofTexts)

variable {layout : JsonLayout}

/-- An object is written with its members in order. -/
theorem write_ofTextsMap (layout : JsonLayout) (m : OrderedMap (Text ⊕ List Text)) :
    write layout (ofTextsMap m) = objectText layout m.sorted.entries := by
  -- members are sorted after their values are written, which comes to the same
  have hsort : sortMembers (m.entries.map fun e => (e.1, write layout (ofTexts e.2))) =
      (sortMembers m.entries).map fun e => (e.1, write layout (ofTexts e.2)) :=
    congrArg OrderedMap.entries (m.sorted_mapValues fun v => write layout (ofTexts v))
  have hmembers : writeMembers layout (m.mapValues ofTexts).entries =
      m.entries.map fun e => (e.1, write layout (ofTexts e.2)) := by
    rw [writeMembers_eq, OrderedMap.mapValues, List.map_map]
    rfl
  rw [ofTextsMap, ofMap, write, writeObject, hmembers, hsort, List.map_map, objectText]
  rfl

/-- **What was written is read** with its members in order. -/
theorem read_write (hlayout : layout.Legible) (m : OrderedMap (Text ⊕ List Text)) :
    read (write layout (ofTextsMap m)) = .ok (ofTextsMap m.sorted) := by
  rw [write_ofTextsMap]
  exact read_objectText hlayout m.sorted

/-- The object tells the map, with the order of its keys. -/
theorem ofTextsMap_injective : Function.Injective ofTextsMap := by
  intro m m' h
  have hentries : m.mapValues ofTexts = m'.mapValues ofTexts := OrderedMap.ext (Json.object.inj h)
  exact OrderedMap.mapValues_injective ofTexts_injective hentries

end Json

end LayeredConfig
