import LayeredConfig.Properties.Reader
import LayeredConfig.Proofs.Properties.Line

/-!
# Spellings: escaped texts as sequences of units

An escaped text is a sequence of *units*: a code point that stands for itself, a backslash with the code
point after it, or a backslash, `u` and four hexadecimal digits. `Spells bare raw t` says that `raw` is such a
sequence and that its units stand for the code points of `t`; which code points may stand for themselves
(`bare`) depends on where the text is written.

Each stage of reading an entry is then a statement about units:

* **`unescape_append_of_spells`**, **`unescape_of_spells`** — unescaping gives what the units stand for.
* **`continues_of_spells`** — a sequence of complete units does not ask for continuation: its last backslash,
  if it ends in one, is the second half of a unit.
* **`splitKey_of_spells`** — a key goes up to the first blank or separator that is a unit of its own.
* **`trimEnd_concat`** — trimming takes the last code point or stops. It stops at a unit that is no blank
  (`trimEnd_concat_bare`) and at an escaped blank (`trimEnd_concat_escape`).
-/

namespace LayeredConfig.Properties

/-- `raw` is a sequence of units that stand for the code points of `t`; those that stand for themselves all
satisfy `bare`. -/
inductive Spells (bare : CodePoint → Prop) : Text → Text → Prop where
  | nil : Spells bare [] []
  /-- A code point that stands for itself. -/
  | plain {c : CodePoint} {raw t : Text} (hc : bare c) (hrest : Spells bare raw t) :
      Spells bare (c :: raw) (c :: t)
  /-- A backslash and a code point other than `u`. -/
  | escape {c : CodePoint} {raw t : Text} (hc : c ≠ 'u') (hrest : Spells bare raw t) :
      Spells bare (CodePoint.ofChar '\\' :: c :: raw) (escaped c :: t)
  /-- A backslash, `u` and four hexadecimal digits. -/
  | unicode {h₁ h₂ h₃ h₄ x : CodePoint} {raw t : Text} (hx : CodePoint.ofHex? h₁ h₂ h₃ h₄ = some x)
      (hrest : Spells bare raw t) :
      Spells bare (CodePoint.ofChar '\\' :: CodePoint.ofChar 'u' :: h₁ :: h₂ :: h₃ :: h₄ :: raw) (x :: t)

/-- What may stand for itself in a value: anything but the backslash. -/
def ValueBare (c : CodePoint) : Prop := c ≠ '\\'

/-- What may stand for itself in a key: anything but the backslash, blanks and separators. -/
def KeyBare (c : CodePoint) : Prop := c ≠ '\\' ∧ isSeparator c = false ∧ isBlank c = false

namespace Spells

variable {bare : CodePoint → Prop} {raw raw' t t' : Text}

/-- Units behind units spell text behind text. -/
theorem append (h : Spells bare raw t) (h' : Spells bare raw' t') :
    Spells bare (raw ++ raw') (t ++ t') := by
  induction h with
  | nil => exact h'
  | plain hc _ ih => exact .plain hc ih
  | escape hc _ ih => exact .escape hc ih
  | unicode hx _ ih => exact .unicode hx ih

/-- What may stand for itself in more places spells the same. -/
theorem mono {bare' : CodePoint → Prop} (himp : ∀ c, bare c → bare' c) (h : Spells bare raw t) :
    Spells bare' raw t := by
  induction h with
  | nil => exact .nil
  | plain hc _ ih => exact .plain (himp _ hc) ih
  | escape hc _ ih => exact .escape hc ih
  | unicode hx _ ih => exact .unicode hx ih

/-- In a value, what spells a key spells the same text. -/
theorem valueBare (h : Spells KeyBare raw t) : Spells ValueBare raw t :=
  h.mono fun _ hc => hc.1

end Spells

/-! ## Unescaping -/

theorem map_cons_map_append (answer : Except Text Text) (c : CodePoint) (t : Text) :
    (answer.map (t ++ ·)).map (c :: ·) = answer.map (c :: t ++ ·) := by
  cases answer with
  | error digits => rfl
  | ok u => rfl

/-- **Complete units are unescaped by themselves**, whatever follows them. -/
theorem unescape_append_of_spells {raw t : Text} (h : Spells ValueBare raw t) (rest : Text) :
    unescape (raw ++ rest) = (unescape rest).map (t ++ ·) := by
  induction h with
  | nil =>
    rw [List.nil_append]
    cases unescape rest with
    | error digits => rfl
    | ok u => rfl
  | @plain c raw t hc _ ih =>
    rw [List.cons_append, unescape.eq_def]
    simp only [if_neg hc, ih, map_cons_map_append]
  | @escape c raw t hc _ ih =>
    rw [List.cons_append, List.cons_append, unescape.eq_def]
    simp only [if_true, if_neg hc, ih, map_cons_map_append]
  | @unicode h₁ h₂ h₃ h₄ x raw t hx _ ih =>
    show unescape (CodePoint.ofChar '\\' :: CodePoint.ofChar 'u' :: h₁ :: h₂ :: h₃ :: h₄ :: (raw ++ rest)) = _
    rw [unescape.eq_def]
    simp only [if_true, hx, ih, map_cons_map_append]

/-- **Unescaping gives what the units stand for.** -/
theorem unescape_of_spells {raw t : Text} (h : Spells ValueBare raw t) : unescape raw = .ok t := by
  have happend := unescape_append_of_spells h []
  rw [List.append_nil, unescape] at happend
  rw [happend, Except.map, List.append_nil]

/-! ## No continuation -/

/-- A hexadecimal digit stands for itself wherever it is written. -/
theorem keyBare_of_hexValue? {c : CodePoint} {n : Nat} (h : c.hexValue? = some n) : KeyBare c := by
  have hne (d : Char) (hd : (CodePoint.ofChar d).hexValue? = none) : c ≠ CodePoint.ofChar d := by
    intro heq
    rw [heq, hd] at h
    cases h
  refine ⟨hne _ rfl, ?_, ?_⟩
  · simp only [isSeparator, hne '=' rfl, hne ':' rfl, decide_false, Bool.or_self]
  · simp only [isBlank, hne ' ' rfl, hne '\t' rfl, hne '\x0C' rfl, decide_false, Bool.or_self]

/-- The four digits of an escape stand for themselves. -/
theorem keyBare_of_ofHex? {h₁ h₂ h₃ h₄ x : CodePoint}
    (hx : CodePoint.ofHex? h₁ h₂ h₃ h₄ = some x) :
    KeyBare h₁ ∧ KeyBare h₂ ∧ KeyBare h₃ ∧ KeyBare h₄ := by
  simp only [CodePoint.ofHex?, Option.bind_eq_bind, Option.bind_eq_some_iff] at hx
  obtain ⟨a, ha, b, hb, c, hc, d, hd, -⟩ := hx
  exact ⟨keyBare_of_hexValue? ha, keyBare_of_hexValue? hb, keyBare_of_hexValue? hc,
    keyBare_of_hexValue? hd⟩

/-- **A sequence of complete units does not ask for continuation.** -/
theorem continues_of_spells {raw t : Text} (h : Spells ValueBare raw t) : continues raw = false := by
  induction h with
  | nil => rfl
  | plain hc _ ih => rw [continues_cons hc, ih]
  | escape _ _ ih => rw [continues_cons_escape, ih]
  | unicode hx _ ih =>
    -- an escaped `u` and four code points that are no backslashes
    obtain ⟨h₁, h₂, h₃, h₄⟩ := keyBare_of_ofHex? hx
    rw [continues_cons_escape, continues_cons h₁.1, continues_cons h₂.1, continues_cons h₃.1,
      continues_cons h₄.1, ih]

/-! ## The end of a key -/

/-- A code point that may stand for itself in a key belongs to the key. -/
theorem splitKey_cons {c : CodePoint} (hc : KeyBare c) (rest : Text) :
    splitKey (c :: rest) = (c :: (splitKey rest).1, (splitKey rest).2) := by
  rw [splitKey.eq_def]
  simp only [if_neg hc.1, hc.2.1, hc.2.2, Bool.or_self, Bool.false_eq_true, if_false]

/-- A backslash and whatever it escapes belong to the key. -/
theorem splitKey_escape (c : CodePoint) (rest : Text) :
    splitKey (CodePoint.ofChar '\\' :: c :: rest) =
      (CodePoint.ofChar '\\' :: c :: (splitKey rest).1, (splitKey rest).2) := by
  rw [splitKey.eq_def]
  simp only [if_true]

/-- A text that ends a key: nothing, or a separator or a blank with what follows. -/
def EndsKey (rest : Text) : Prop :=
  rest = [] ∨ ∃ c tail, rest = c :: tail ∧ c ≠ '\\' ∧ (isSeparator c || isBlank c) = true

/-- Nothing before the end of a key is in it. -/
theorem splitKey_of_endsKey {rest : Text} (h : EndsKey rest) : splitKey rest = ([], rest) := by
  rcases h with rfl | ⟨c, tail, rfl, hc, hend⟩
  · rw [splitKey]
  · rw [splitKey.eq_def]
    simp only [if_neg hc, hend, if_true]

/-- **A key goes up to the first blank or separator that is a unit of its own.** -/
theorem splitKey_of_spells {raw t rest : Text} (h : Spells KeyBare raw t) (hrest : EndsKey rest) :
    splitKey (raw ++ rest) = (raw, rest) := by
  induction h with
  | nil => exact splitKey_of_endsKey hrest
  | plain hc _ ih => rw [List.cons_append, splitKey_cons hc, ih]
  | escape _ _ ih => rw [List.cons_append, List.cons_append, splitKey_escape, ih]
  | unicode hx _ ih =>
    -- to the splitter this is an escaped `u` and four code points that stand for themselves
    obtain ⟨h₁, h₂, h₃, h₄⟩ := keyBare_of_ofHex? hx
    simp only [List.cons_append]
    rw [splitKey_escape, splitKey_cons h₁, splitKey_cons h₂, splitKey_cons h₃, splitKey_cons h₄, ih]

/-! ## Blanks at the end -/

@[simp] theorem trimEnd_nil : trimEnd [] = [] := rfl

/-- The last code point goes if it is a blank that no backslash escapes; else nothing goes. -/
theorem trimEnd_concat (raw : Text) (c : CodePoint) :
    trimEnd (raw ++ [c]) = if isBlank c && !continues raw then trimEnd raw else raw ++ [c] := by
  unfold trimEnd
  rw [List.reverse_append, List.reverse_singleton, List.singleton_append, trimReversed, ← continues]
  split
  · rfl
  · rw [List.reverse_cons, List.reverse_reverse]

/-- Trimming stops at what is no blank. -/
theorem trimEnd_concat_bare (raw : Text) {c : CodePoint} (h : isBlank c = false) :
    trimEnd (raw ++ [c]) = raw ++ [c] := by
  rw [trimEnd_concat, h, Bool.false_and, if_neg Bool.false_ne_true]

/-- Trimming stops at an escape, even at that of a blank. -/
theorem trimEnd_concat_escape {raw : Text} (h : continues raw = false) (c : CodePoint) :
    trimEnd (raw ++ [CodePoint.ofChar '\\', c]) = raw ++ [CodePoint.ofChar '\\', c] := by
  -- the backslash of the escape makes the run of backslashes before `c` odd
  have hodd : continues (raw ++ [CodePoint.ofChar '\\']) = true := by
    rw [continues_concat, if_pos rfl, h, Bool.not_false]
  rw [List.append_cons, trimEnd_concat, hodd, Bool.not_true, Bool.and_false, if_neg Bool.false_ne_true]

end LayeredConfig.Properties
