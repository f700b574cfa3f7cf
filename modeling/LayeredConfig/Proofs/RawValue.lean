import LayeredConfig.RawValue

/-!
# Raw values as values

A raw value is accepted again when it is offered as a value (`ofValue?_toValue`), nothing else is accepted
(`ofValue?_eq_some_iff`), and it is presented by the same text either way (`decode_toValue`).
-/

namespace LayeredConfig

/-- Texts offered as values are taken as these texts. -/
theorem Value.mapM_text? (items : List Text) : (items.map Value.text).mapM Value.text? = some items := by
  induction items with
  | nil => rfl
  | cons t rest ih =>
    rw [List.map_cons, List.mapM_cons, ih]
    rfl

/-- Only texts are taken as texts. -/
theorem Value.eq_map_text_of_mapM {items : List Value} {texts : List Text} (h : items.mapM Value.text? = some texts) :
    items = texts.map Value.text := by
  induction items generalizing texts with
  | nil =>
    cases h
    rfl
  | cons v rest ih =>
    simp only [List.mapM_cons, Option.bind_eq_bind, Option.bind_eq_some_iff, Option.pure_def, Option.some.injEq] at h
    obtain ⟨t, ht, ts, hts, rfl⟩ := h
    -- of all kinds of values only a text answers with one
    have hv : v = Value.text t := by
      rcases v with (_ | _ | _ | _ | _ | _ | _ | _) | _ | _ | _ | _ <;> cases ht
      rfl
    rw [List.map_cons, ← hv, ← ih hts]

namespace RawValue

@[simp] theorem ofValue?_toValue (v : RawValue) : ofValue? v.toValue = some v := by
  cases v with
  | text t => rfl
  | list head tail => rw [toValue, ofValue?, Value.mapM_text?]

/-- **What is accepted** are raw values as values, and nothing else. -/
theorem ofValue?_eq_some_iff {v : Value} {raw : RawValue} : ofValue? v = some raw ↔ v = raw.toValue := by
  constructor
  · intro h
    rw [ofValue?.eq_def] at h
    split at h
    · cases h
      rfl
    · rename_i items
      cases htexts : items.mapM Value.text? with
      | none =>
        rw [htexts] at h
        cases h
      | some texts =>
        rw [Value.eq_map_text_of_mapM htexts]
        -- an empty list is refused, so the list has a first text
        cases texts with
        | nil =>
          rw [htexts] at h
          cases h
        | cons head tail =>
          rw [htexts] at h
          cases h
          rfl
    · cases h
  · rintro rfl
    exact ofValue?_toValue raw

@[simp] theorem isRaw_toValue (v : RawValue) : v.toValue.isRaw = true := by
  rw [Value.isRaw, ofValue?_toValue]
  rfl

@[simp] theorem decode_toValue (v : RawValue) : v.toValue.decode = .ok (some v.decoded) := by
  cases v with
  | text t => rfl
  | list head tail =>
    rw [toValue, Value.decode, Value.mapM_text?]
    rfl

@[simp] theorem decoded_text (t : Text) : (text t).decoded = t := rfl

end RawValue

end LayeredConfig
