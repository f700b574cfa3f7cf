import LayeredConfig.Proofs.OrderedMap
import Mathlib.Data.List.Induction

/-!
# Histories of ordered maps

What an ordered map holds is told by the writes that were made to it (`History`), and so is the order of its keys:
by where in the history each key was born, that is by the write that last turned it from absent to present. Neither
notion looks at a map, only at the list of writes.

* **`mem_keys_replay`** — a key is there exactly if it was put and not dropped since.
* **`existsUnique_bornAt`** — a key that is present was born once.
* **`pairwise_keys_replay`** — the keys stand in the order in which they were born. So a key that is put again
  keeps its position, and one that is dropped and put again goes to the end.
-/

namespace LayeredConfig

/-- One change of an ordered map. -/
inductive Write (α : Type)
  | put (key : Text) (value : α)
  | drop (key : Text)

/-- The writes to an ordered map, the earliest first. -/
abbrev History (α : Type) := List (Write α)

variable {α : Type}

namespace OrderedMap

def write (m : OrderedMap α) : Write α → OrderedMap α
  | .put key value => m.put key value
  | .drop key => m.erase key

/-- The map after the writes of a history. -/
def replay (m : OrderedMap α) (h : History α) : OrderedMap α :=
  h.foldl write m

theorem replay_append (m : OrderedMap α) (h h' : History α) : m.replay (h ++ h') = (m.replay h).replay h' :=
  List.foldl_append

@[simp] theorem replay_concat (m : OrderedMap α) (h : History α) (w : Write α) :
    m.replay (h ++ [w]) = (m.replay h).write w := by
  rw [replay_append]
  rfl

end OrderedMap

namespace History

/-- The key was put, and not dropped since. -/
def Present (h : History α) (key : Text) : Prop :=
  ∃ before value after, h = before ++ .put key value :: after ∧ .drop key ∉ after

/-- The write at position `i` turned the key from absent to present, and nothing dropped it since. -/
def BornAt (h : History α) (key : Text) (i : Nat) : Prop :=
  (∃ value, h[i]? = some (.put key value)) ∧ ¬ Present (h.take i) key ∧ .drop key ∉ h.drop (i + 1)

variable {h : History α} {key k : Text} {value : α} {w : Write α} {i j : Nat}

/-! ## One more write -/

theorem not_present_nil : ¬ Present ([] : History α) key := by
  rintro ⟨before, value, after, h, -⟩
  simp at h

/-- After one more write, a key is present if that puts it, or if it was present and is not dropped. -/
theorem present_concat : Present (h ++ [w]) key ↔ (∃ value, w = .put key value) ∨ (Present h key ∧ w ≠ .drop key) := by
  constructor
  · rintro ⟨before, value, after, heq, hkept⟩
    -- the put is the new write, or the new write is the last one after it
    rcases List.eq_nil_or_concat after with rfl | ⟨after, w', rfl⟩
    · obtain ⟨-, hw⟩ := List.append_inj' heq rfl
      exact .inl ⟨value, List.singleton_inj.mp hw⟩
    · rw [List.concat_eq_append, ← List.cons_append, ← List.append_assoc] at heq
      obtain ⟨hh, hw⟩ := List.append_inj' heq rfl
      obtain rfl := List.singleton_inj.mp hw
      simp only [List.concat_eq_append, List.mem_append, List.mem_singleton, not_or] at hkept
      exact .inr ⟨⟨before, value, after, hh, hkept.1⟩, fun hdrop => hkept.2 hdrop.symm⟩
  · rintro (⟨value, rfl⟩ | ⟨⟨before, value, after, rfl, hkept⟩, hw⟩)
    · exact ⟨h, value, [], rfl, by simp⟩
    · refine ⟨before, value, after ++ [w], by simp, ?_⟩
      simp only [List.mem_append, List.mem_singleton, not_or]
      exact ⟨hkept, fun hdrop => hw hdrop.symm⟩

theorem BornAt.lt_length (hborn : BornAt h key i) : i < h.length := by
  obtain ⟨⟨value, hput⟩, -⟩ := hborn
  exact (List.getElem?_eq_some_iff.mp hput).1

theorem BornAt.present (hborn : BornAt h key i) : Present h key := by
  have hlt := hborn.lt_length
  obtain ⟨⟨value, hput⟩, -, hkept⟩ := hborn
  -- the put splits the history, and what is behind it does not drop the key
  have hsplit : h = h.take i ++ .put key value :: h.drop (i + 1) := by
    rw [(List.getElem?_eq_some_iff.mp hput).2.symm, ← List.drop_eq_getElem_cons hlt, List.take_append_drop]
  exact ⟨_, value, _, hsplit, hkept⟩

/-- A later write leaves the births of before, but for the one of a key that it drops. -/
theorem bornAt_concat_of_lt (hi : i < h.length) : BornAt (h ++ [w]) key i ↔ BornAt h key i ∧ w ≠ .drop key := by
  have htake : (h ++ [w]).take i = h.take i := List.take_append_of_le_length (by omega)
  have hdrop : (h ++ [w]).drop (i + 1) = h.drop (i + 1) ++ [w] := List.drop_append_of_le_length (by omega)
  unfold BornAt
  rw [List.getElem?_append_left hi, htake, hdrop]
  simp only [List.mem_append, List.mem_singleton, not_or, ne_eq, eq_comm (a := w), and_assoc]

/-- The last write is a birth if it puts a key that was absent. -/
theorem bornAt_concat_length : BornAt (h ++ [w]) key h.length ↔ (∃ value, w = .put key value) ∧ ¬ Present h key := by
  unfold BornAt
  simp

/-- Births are those of before and that of the new write. -/
theorem bornAt_concat : BornAt (h ++ [w]) key i ↔
    (BornAt h key i ∧ w ≠ .drop key) ∨ (i = h.length ∧ (∃ value, w = .put key value) ∧ ¬ Present h key) := by
  -- a position within the history, the one of the new write, or one behind it
  rcases Nat.lt_trichotomy i h.length with hi | rfl | hi
  · rw [bornAt_concat_of_lt hi, or_iff_left]
    omega
  · rw [bornAt_concat_length]
    have hnot : ¬ BornAt h key h.length := fun hborn => by simpa using hborn.lt_length
    simp [hnot]
  · have hnot : ¬ BornAt (h ++ [w]) key i := fun hborn => by
      have := hborn.lt_length
      simp at this
      omega
    have hnot' : ¬ BornAt h key i := fun hborn => by
      have := hborn.lt_length
      omega
    simp only [hnot, hnot', false_and, false_or, false_iff, not_and]
    omega

/-! ## Births -/

/-- A key that is present was born. -/
theorem exists_bornAt : ∀ {h : History α}, Present h key → ∃ i, BornAt h key i := by
  intro h
  induction h using List.reverseRecOn with
  | nil => exact fun hpresent => absurd hpresent not_present_nil
  | append_singleton h w ih =>
    intro hpresent
    by_cases hbefore : Present h key ∧ w ≠ .drop key
    · -- a birth of before counts as long as the write does not drop the key
      obtain ⟨i, hi⟩ := ih hbefore.1
      exact ⟨i, bornAt_concat.mpr (.inl ⟨hi, hbefore.2⟩)⟩
    · -- the key was absent before, so it is born now
      obtain ⟨value, rfl⟩ := (present_concat.mp hpresent).resolve_right hbefore
      have habsent : ¬ Present h key := fun hp => hbefore ⟨hp, by simp⟩
      exact ⟨h.length, bornAt_concat.mpr (.inr ⟨rfl, ⟨value, rfl⟩, habsent⟩)⟩

/-- No key was born twice: to be born again it would have to be absent. -/
theorem BornAt.unique (hi : BornAt h key i) (hj : BornAt h key j) : i = j := by
  induction h using List.reverseRecOn with
  | nil => exact absurd hi.lt_length (by simp)
  | append_singleton h w ih =>
    rcases bornAt_concat.mp hi with ⟨hi, -⟩ | ⟨rfl, -, habsent⟩
    · rcases bornAt_concat.mp hj with ⟨hj, -⟩ | ⟨rfl, -, habsent⟩
      · exact ih hi hj
      · exact absurd hi.present habsent
    · rcases bornAt_concat.mp hj with ⟨hj, -⟩ | ⟨rfl, -, -⟩
      · exact absurd hj.present habsent
      · rfl

/-- **A key that is present was born once.** -/
theorem existsUnique_bornAt (hpresent : Present h key) : ∃! i, BornAt h key i := by
  obtain ⟨i, hi⟩ := exists_bornAt hpresent
  exact ⟨i, hi, fun j hj => hj.unique hi⟩

/-! ## The keys of a map -/

/-- **A key is there** exactly if it was put and not dropped since. -/
theorem mem_keys_replay (h : History α) : key ∈ (OrderedMap.empty.replay h).keys ↔ Present h key := by
  induction h using List.reverseRecOn with
  | nil => simpa [OrderedMap.replay] using not_present_nil
  | append_singleton h w ih =>
    rw [OrderedMap.replay_concat, present_concat, ← ih]
    cases w with
    | put k value =>
      rw [OrderedMap.write, OrderedMap.mem_keys_put]
      simp [eq_comm (a := key)]
    | drop k =>
      rw [OrderedMap.write, OrderedMap.keys_erase, List.mem_filter]
      simp [eq_comm (a := key)]

/-- **The keys stand in the order in which they were born.** -/
theorem pairwise_keys_replay (h : History α) :
    (OrderedMap.empty.replay h).keys.Pairwise fun key k => ∀ i j, BornAt h key i → BornAt h k j → i < j := by
  induction h using List.reverseRecOn with
  | nil => exact List.Pairwise.nil
  | append_singleton h w ih =>
    rw [OrderedMap.replay_concat]
    -- keys that were there before the write were born before it
    have hkept : (OrderedMap.empty.replay h).keys.Pairwise fun key k =>
        ∀ i j, BornAt (h ++ [w]) key i → BornAt (h ++ [w]) k j → i < j := by
      refine ih.imp_of_mem fun {key k} hkey hk hlt i j hi hj => ?_
      rcases bornAt_concat.mp hi with ⟨hi, -⟩ | ⟨-, -, habsent⟩
      · rcases bornAt_concat.mp hj with ⟨hj, -⟩ | ⟨-, -, habsent⟩
        · exact hlt i j hi hj
        · exact absurd ((mem_keys_replay h).mp hk) habsent
      · exact absurd ((mem_keys_replay h).mp hkey) habsent
    cases w with
    | drop k =>
      rw [OrderedMap.write, OrderedMap.keys_erase]
      exact hkept.filter _
    | put k value =>
      rw [OrderedMap.write, OrderedMap.keys_put]
      split
      · -- a key that is put again keeps its position, and a new one goes behind all others
        exact hkept
      · rename_i hnew
        refine List.pairwise_append.mpr ⟨hkept, List.pairwise_singleton _ _, ?_⟩
        rintro key hkey k' hk' i j hi hj
        obtain rfl := List.mem_singleton.mp hk'
        have habsent : ¬ Present h k' := fun hp => hnew ((mem_keys_replay h).mpr hp)
        -- the new key is born by the last write, every other one before it
        rcases bornAt_concat.mp hj with ⟨hj, -⟩ | ⟨rfl, -, -⟩
        · exact absurd hj.present habsent
        · rcases bornAt_concat.mp hi with ⟨hi, -⟩ | ⟨-, -, hnone⟩
          · exact hi.lt_length
          · exact absurd ((mem_keys_replay h).mp hkey) hnone

end History

end LayeredConfig
