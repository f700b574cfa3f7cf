import LayeredConfig.Load
import LayeredConfig.Proofs.Text.Order

/-!
# The order in which supplementary sources are applied

Candidates are ordered by their names, and those with equal names by their whole identifiers (`Before`). The
order separates any two identifiers, so the sources that are applied depend on which candidates there are and
not on how they are listed:

* **`order_perm`**, **`order_sorted`** — the candidates in a known format, each as often as it is listed, in order.
* **`order_congr`** — two listings with the same candidates in known formats are applied alike.
* **`eq_filter_order_iff`** — what a load applies, as a permutation that is in order.
-/

namespace LayeredConfig.Supplementary

/-- `a` is applied before `b`, or is the same: by name first, then by the whole identifier. -/
def Before (a b : Text) : Prop :=
  nameOf a < nameOf b ∨ (nameOf a = nameOf b ∧ a ≤ b)

/-- The order that candidates are sorted by is that of names, then of identifiers. -/
theorem le_iff_before {a b : Text} : le a b = true ↔ Before a b := by
  rw [le, Before]
  by_cases h : nameOf a = nameOf b
  · have hlt : ¬ nameOf a < nameOf b := fun hlt => (Text.lt_iff.mp hlt).2 h
    rw [if_pos h, Text.le_iff]
    exact ⟨fun hle => .inr ⟨h, hle⟩, fun hor => hor.elim (fun hlt' => absurd hlt' hlt) And.right⟩
  · rw [if_neg h]
    exact ⟨fun hle => .inl (Text.lt_iff.mpr ⟨hle, h⟩),
      fun hor => hor.elim (fun hlt => (Text.lt_iff.mp hlt).1) fun heq => absurd heq.1 h⟩

/-- The order is transitive, as sorting needs. -/
theorem le_trans {a b c : Text} (hab : le a b = true) (hbc : le b c = true) : le a c = true := by
  unfold le at hab hbc ⊢
  -- the names may change from `a` to `b` and from `b` to `c`
  by_cases h₁ : nameOf a = nameOf b
  · rw [if_pos h₁] at hab
    rw [h₁]
    by_cases h₂ : nameOf b = nameOf c
    · rw [if_pos h₂] at hbc ⊢
      exact Text.le_trans hab hbc
    · rw [if_neg h₂] at hbc ⊢
      exact hbc
  · rw [if_neg h₁] at hab
    by_cases h₂ : nameOf b = nameOf c
    · rw [← h₂, if_neg h₁]
      exact hab
    · rw [if_neg h₂] at hbc
      -- back to the first name they cannot go, since names are linearly ordered
      have hne : nameOf a ≠ nameOf c := fun h => h₁ (Text.le_antisymm hab (h ▸ hbc))
      rw [if_neg hne]
      exact Text.le_trans hab hbc

/-- The order is total, as sorting needs too. -/
theorem le_total (a b : Text) : (le a b || le b a) = true := by
  rw [Bool.or_eq_true]
  unfold le
  by_cases h : nameOf a = nameOf b
  · rw [if_pos h, if_pos h.symm]
    exact Text.le_total a b
  · rw [if_neg h, if_neg fun h' => h h'.symm]
    exact Text.le_total (nameOf a) (nameOf b)

/-- Identifiers that are each before the other are equal, so the order leaves no choice. -/
theorem le_antisymm {a b : Text} (hab : le a b = true) (hba : le b a = true) : a = b := by
  unfold le at hab hba
  by_cases h : nameOf a = nameOf b
  · rw [if_pos h] at hab
    rw [if_pos h.symm] at hba
    exact Text.le_antisymm hab hba
  · rw [if_neg h] at hab
    rw [if_neg fun h' => h h'.symm] at hba
    exact absurd (Text.le_antisymm hab hba) h

/-- **Nothing is lost or added** among the candidates in a known format. -/
theorem order_perm (candidates : List Text) : (order candidates).Perm (candidates.filter isSupported) :=
  List.mergeSort_perm _ _

/-- **The candidates are applied in order.** -/
theorem order_sorted (candidates : List Text) : (order candidates).Pairwise Before := by
  have h : (order candidates).Pairwise fun a b => le a b = true :=
    @List.pairwise_mergeSort Text le (fun _ _ _ => le_trans) le_total _
  exact h.imp le_iff_before.mp

/-- Two lists in order with the same members are equal. -/
theorem eq_of_perm {l k : List Text} (hl : l.Pairwise Before) (hk : k.Pairwise Before) (h : l.Perm k) :
    l = k :=
  h.eq_of_pairwise
    (fun _ _ _ _ hab hba => le_antisymm (le_iff_before.mpr hab) (le_iff_before.mpr hba)) hl hk

/-- **How the candidates are listed does not matter**, nor do those in no known format. -/
theorem order_congr {candidates candidates' : List Text}
    (h : (candidates.filter isSupported).Perm (candidates'.filter isSupported)) :
    order candidates = order candidates' :=
  eq_of_perm (order_sorted candidates) (order_sorted candidates')
    ((order_perm candidates).trans (h.trans (order_perm candidates').symm))

/-- What is applied, told without sorting: the candidates in a known format but for the location, in order. -/
theorem eq_filter_order_iff {applied candidates : List Text} {location : Text} :
    applied = (order candidates).filter (· ≠ location) ↔
      applied.Perm (candidates.filter fun c => isSupported c && c ≠ location) ∧ applied.Pairwise Before := by
  have hperm : ((order candidates).filter (· ≠ location)).Perm
      (candidates.filter fun c => isSupported c && c ≠ location) := by
    have hfiltered := (order_perm candidates).filter (· ≠ location)
    rw [List.filter_filter] at hfiltered
    simpa only [Bool.and_comm] using hfiltered
  have hsorted : ((order candidates).filter (· ≠ location)).Pairwise Before :=
    (order_sorted candidates).sublist List.filter_sublist
  constructor
  · rintro rfl
    exact ⟨hperm, hsorted⟩
  · rintro ⟨hperm', hsorted'⟩
    exact eq_of_perm hsorted' hsorted (hperm'.trans hperm.symm)

end LayeredConfig.Supplementary
