import LayeredConfig.Text.CodePoint

/-!
# Ordered maps

A map from texts that remembers in which order its keys came. Writing to a key that is there replaces its
value and keeps its position; a new key goes to the end. Each key occurs once, and this is part of the type.

* `put`, `erase`: the two changes of one key.
* `get?`, `keys`, `entries`: what the map holds.
* `ofList`, `update`: many writes in order.
-/

namespace LayeredConfig

variable {α β : Type}

namespace Entries

/-- Replaces the value at `key`, or appends the entry. -/
def put (key : Text) (value : α) : List (Text × α) → List (Text × α)
  | [] => [(key, value)]
  | (k, v) :: rest => if k = key then (key, value) :: rest else (k, v) :: put key value rest

/-- A key that `put` leaves in the list was there or is the one written. -/
theorem mem_keys_put {key k : Text} {value : α} {entries : List (Text × α)}
    (h : k ∈ (put key value entries).map Prod.fst) : k = key ∨ k ∈ entries.map Prod.fst := by
  induction entries with
  | nil => simpa [put] using h
  | cons e rest ih =>
    obtain ⟨j, v⟩ := e
    by_cases hj : j = key
    · simp_all [put]
    · simp only [put, hj, if_false, List.map_cons, List.mem_cons] at h ⊢
      rcases h with h | h
      · exact .inr (.inl h)
      · rcases ih h with h | h
        · exact .inl h
        · exact .inr (.inr h)

theorem nodup_put {key : Text} {value : α} {entries : List (Text × α)}
    (h : (entries.map Prod.fst).Nodup) : ((put key value entries).map Prod.fst).Nodup := by
  induction entries with
  | nil => simp [put]
  | cons e rest ih =>
    obtain ⟨j, v⟩ := e
    by_cases hj : j = key
    · simpa [put, hj] using h
    · simp only [put, hj, if_false, List.map_cons, List.nodup_cons] at h ⊢
      refine ⟨fun hm => ?_, ih h.2⟩
      rcases mem_keys_put hm with hm | hm
      · exact hj hm
      · exact h.1 hm

end Entries

/-- A map from texts in the order in which the keys came. -/
@[ext] structure OrderedMap (α : Type) where
  /-- The keys with their values, in order. -/
  entries : List (Text × α)
  /-- Each key occurs once. -/
  nodup : (entries.map Prod.fst).Nodup

namespace OrderedMap

def empty : OrderedMap α := ⟨[], by simp⟩

instance : EmptyCollection (OrderedMap α) := ⟨empty⟩

instance : Inhabited (OrderedMap α) := ⟨empty⟩

instance [DecidableEq α] : DecidableEq (OrderedMap α) := fun a b =>
  if h : a.entries = b.entries then .isTrue (OrderedMap.ext h)
  else .isFalse fun e => h (congrArg entries e)

def keys (m : OrderedMap α) : List Text :=
  m.entries.map Prod.fst

def size (m : OrderedMap α) : Nat :=
  m.entries.length

def get? (m : OrderedMap α) (key : Text) : Option α :=
  m.entries.lookup key

def contains (m : OrderedMap α) (key : Text) : Bool :=
  (m.get? key).isSome

/-- Writes a value: in place at a key that is there, at the end otherwise. -/
def put (m : OrderedMap α) (key : Text) (value : α) : OrderedMap α where
  entries := Entries.put key value m.entries
  nodup := Entries.nodup_put m.nodup

def erase (m : OrderedMap α) (key : Text) : OrderedMap α where
  entries := m.entries.filter fun e => e.1 ≠ key
  nodup := (m.nodup.sublist (List.filter_sublist.map Prod.fst))

/-- Writes entries in order. -/
def putAll (m : OrderedMap α) (entries : List (Text × α)) : OrderedMap α :=
  entries.foldl (fun m e => m.put e.1 e.2) m

/-- The map of entries written in order. -/
def ofList (entries : List (Text × α)) : OrderedMap α :=
  putAll empty entries

def update (m other : OrderedMap α) : OrderedMap α :=
  m.putAll other.entries

def mapValues (f : α → β) (m : OrderedMap α) : OrderedMap β where
  entries := m.entries.map fun e => (e.1, f e.2)
  nodup := by
    have : (Prod.fst ∘ fun e : Text × α => (e.1, f e.2)) = Prod.fst := rfl
    rw [List.map_map, this]
    exact m.nodup

end OrderedMap

end LayeredConfig
