import LayeredConfig.Text.CodePoint

/-!
# The order of texts

Texts are ordered by their code points, a proper initial part first. The order is linear, and `Text.le` decides
it, so sorting by it has one result only: `Text.le_trans`, `Text.le_total` and `Text.le_antisymm` are what
sorting asks for.
-/

namespace LayeredConfig

namespace CodePoint

instance : Std.IsLinearOrder CodePoint where
  le_refl a := Nat.le_refl a.toNat
  le_trans _ _ _ hab hbc := Nat.le_trans hab hbc
  le_antisymm _ _ hab hba := CodePoint.ext (Nat.le_antisymm hab hba)
  le_total a b := Nat.le_total a.toNat b.toNat

instance : Std.LawfulOrderLT CodePoint where
  lt_iff a b := by
    show a.toNat < b.toNat ↔ a.toNat ≤ b.toNat ∧ ¬ b.toNat ≤ a.toNat
    omega

end CodePoint

namespace Text

theorem le_iff {t u : Text} : t.le u = true ↔ t ≤ u := decide_eq_true_iff

theorem le_trans {t u v : Text} (htu : t.le u = true) (huv : u.le v = true) : t.le v = true :=
  le_iff.mpr (List.le_trans (le_iff.mp htu) (le_iff.mp huv))

theorem le_total (t u : Text) : t.le u = true ∨ u.le t = true :=
  (List.le_total t u).imp le_iff.mpr le_iff.mpr

theorem le_antisymm {t u : Text} (htu : t.le u = true) (hut : u.le t = true) : t = u :=
  Std.IsPartialOrder.le_antisymm t u (le_iff.mp htu) (le_iff.mp hut)

/-- One text stands before another one exactly if it comes first and is not the same. -/
theorem lt_iff {t u : Text} : t < u ↔ t.le u = true ∧ t ≠ u := by
  constructor
  · intro h
    refine ⟨le_iff.mpr (List.le_of_lt h), fun heq => ?_⟩
    subst heq
    exact List.lt_irrefl t h
  · rintro ⟨hle, hne⟩
    -- a text that came first both ways would be the same
    rcases le_total u t with hut | -
    · exact absurd (le_antisymm hle hut) hne
    · exact Std.not_le.mp fun hut => hne (le_antisymm hle (le_iff.mpr hut))

end Text

end LayeredConfig
