import LayeredConfig.Proofs.Properties.RoundTrip
import Mathlib.Data.List.Forall2

/-!
# Rendered entries

A logical line is written unit by unit. A code point stands for itself or is escaped in one of several ways
(`Renders`), key and value are separated by a mark or by blanks alone, and blanks follow the value as they like.
`RenderedEntry units entry` says that `units` are those of such a line.

Rendered texts are spellings, so what is known of these holds for each part of a line. What is left are the places
where parts meet, and all of them are settled by what a part starts with or ends in:

* **`head_flatten_of_renders`** — a rendered text starts with a backslash, or with a code point that stands for
  itself there.
* **`Separator.dropSeparator_eq`** — behind a key, the separator goes and the value stays.
* **`RenderedValue.trim`** — blanks around a value go, and its own ones stay.
* **`readEntry_rendered`** — the line is read as its entry.
-/

namespace LayeredConfig.Properties

/-! ## Units -/

/-- The letters that name controls after a backslash. -/
def controlNames : List (CodePoint × CodePoint) :=
  [('t', '\t'), ('n', '\n'), ('r', '\r'), ('f', '\x0C')]

/-- A unit and the code point that it stands for. -/
inductive Renders (bare : CodePoint → Prop) : Text → CodePoint → Prop where
  | self {c : CodePoint} (hc : bare c) : Renders bare [c] c
  | escape {c : CodePoint} (hname : c ∉ Text.ofString "tnrfu") (hline : c ≠ '\n' ∧ c ≠ '\r') :
      Renders bare [CodePoint.ofChar '\\', c] c
  | control {letter c : CodePoint} (h : (letter, c) ∈ controlNames) :
      Renders bare [CodePoint.ofChar '\\', letter] c
  | unicode {d₁ d₂ d₃ d₄ c : CodePoint} {n₁ n₂ n₃ n₄ : Nat} (h₁ : d₁.hexValue? = some n₁)
      (h₂ : d₂.hexValue? = some n₂) (h₃ : d₃.hexValue? = some n₃) (h₄ : d₄.hexValue? = some n₄)
      (hc : c.toNat = ((n₁ * 16 + n₂) * 16 + n₃) * 16 + n₄) :
      Renders bare [CodePoint.ofChar '\\', CodePoint.ofChar 'u', d₁, d₂, d₃, d₄] c

/-- What is written as itself in a key. -/
def KeyPlain (c : CodePoint) : Prop := KeyBare c ∧ c ≠ '\n' ∧ c ≠ '\r'

/-- What is written as itself in a value. -/
def ValuePlain (c : CodePoint) : Prop := ValueBare c ∧ c ≠ '\n' ∧ c ≠ '\r'

instance : DecidablePred KeyPlain := fun c =>
  inferInstanceAs (Decidable ((c ≠ '\\' ∧ isSeparator c = false ∧ isBlank c = false) ∧ c ≠ '\n' ∧ c ≠ '\r'))

instance : DecidablePred ValuePlain := fun c =>
  inferInstanceAs (Decidable (c ≠ '\\' ∧ c ≠ '\n' ∧ c ≠ '\r'))

/-- A unit that is a blank, and not an escaped one. -/
def BlankUnit (u : Text) : Prop := ∃ c, isBlank c = true ∧ u = [c]

instance : DecidablePred BlankUnit
  | [] => .isFalse fun ⟨_, _, h⟩ => by cases h
  | [c] => decidable_of_iff (isBlank c = true) ⟨fun h => ⟨c, h, rfl⟩, fun ⟨_, h, hc⟩ => by cases hc; exact h⟩
  | _ :: _ :: _ => .isFalse fun ⟨_, _, h⟩ => by cases h

/-- The units of a key. -/
structure RenderedKey (units : List Text) (key : Text) : Prop where
  renders : List.Forall₂ (Renders KeyPlain) units key
  /-- The line of the entry is no comment. -/
  first : ∀ u ∈ units.head?, u ≠ [CodePoint.ofChar '#'] ∧ u ≠ [CodePoint.ofChar '!']

/-- The units of a value, whose own blanks at both ends are escaped. -/
structure RenderedValue (units : List Text) (value : Text) : Prop where
  renders : List.Forall₂ (Renders ValuePlain) units value
  first : ∀ u ∈ units.head?, ¬ BlankUnit u
  last : ∀ u ∈ units.getLast?, ¬ BlankUnit u

/-- The units between a key and a value with the given units. -/
inductive Separator (value : List Text) : List Text → Prop where
  | mark {before after : List Text} {m : CodePoint} (hbefore : ∀ u ∈ before, BlankUnit u)
      (hm : m = '=' ∨ m = ':') (hafter : ∀ u ∈ after, BlankUnit u) :
      Separator value (before ++ [m] :: after)
  | blanks {blanks : List Text} (hne : blanks ≠ []) (hblanks : ∀ u ∈ blanks, BlankUnit u)
      (hfirst : ∀ u ∈ value.head?, u ≠ [CodePoint.ofChar '='] ∧ u ≠ [CodePoint.ofChar ':']) : Separator value blanks

/-- The units of a logical line and its entry. -/
inductive RenderedEntry : List Text → Text × Text → Prop where
  | mk {key value : Text} {keyUnits separator valueUnits trailing : List Text}
      (hkey : RenderedKey keyUnits key) (hne : key ≠ []) (hseparator : Separator valueUnits separator)
      (hvalue : RenderedValue valueUnits value) (htrailing : ∀ u ∈ trailing, BlankUnit u) :
      RenderedEntry (keyUnits ++ (separator ++ (valueUnits ++ trailing))) (key, value)

/-! ## What every unit is -/

/-- A text without line ends that complete units make. -/
def Complete (t : Text) : Prop := IsLine t ∧ ∃ s, Spells ValueBare t s

theorem complete_nil : Complete [] := ⟨isLine_nil, [], .nil⟩

/-- Complete texts stay complete behind each other. -/
theorem Complete.append {t u : Text} (ht : Complete t) (hu : Complete u) : Complete (t ++ u) := by
  obtain ⟨htline, s, hs⟩ := ht
  obtain ⟨huline, s', hs'⟩ := hu
  exact ⟨isLine_append.mpr ⟨htline, huline⟩, s ++ s', hs.append hs'⟩

theorem complete_flatten {units : List Text} (h : ∀ u ∈ units, Complete u) : Complete units.flatten := by
  induction units with
  | nil => exact complete_nil
  | cons u units ih =>
    obtain ⟨hu, hunits⟩ := List.forall_mem_cons.mp h
    rw [List.flatten_cons]
    exact hu.append (ih hunits)

/-- A complete text does not ask for more. -/
theorem Complete.continues_eq {t : Text} (h : Complete t) : continues t = false := by
  obtain ⟨-, s, hs⟩ := h
  exact continues_of_spells hs

/-- A hexadecimal digit ends no line. -/
theorem isLine_of_hexValue? {c : CodePoint} {n : Nat} (h : c.hexValue? = some n) : c ≠ '\n' ∧ c ≠ '\r' := by
  constructor
  · rintro rfl
    cases h
  · rintro rfl
    cases h

/-- A letter after a backslash is read as the control that it names. -/
theorem escaped_of_controlNames :
    ∀ p ∈ controlNames, p.1 ≠ 'u' ∧ escaped p.1 = p.2 ∧ p.1 ≠ '\n' ∧ p.1 ≠ '\r' := by
  decide

/-- Four digits give the code point of their number. -/
theorem ofHex?_of_hexValue? {d₁ d₂ d₃ d₄ c : CodePoint} {n₁ n₂ n₃ n₄ : Nat}
    (h₁ : d₁.hexValue? = some n₁) (h₂ : d₂.hexValue? = some n₂) (h₃ : d₃.hexValue? = some n₃)
    (h₄ : d₄.hexValue? = some n₄) (hc : c.toNat = ((n₁ * 16 + n₂) * 16 + n₃) * 16 + n₄) :
    CodePoint.ofHex? d₁ d₂ d₃ d₄ = some c := by
  unfold CodePoint.ofHex?
  simp only [h₁, h₂, h₃, h₄, Option.bind_eq_bind, Option.bind_some, ← hc]
  rw [CodePoint.ofNat?, dif_pos c.isLt]

namespace Renders

variable {bare : CodePoint → Prop} {u : Text} {c : CodePoint}

/-- A unit is one step of an escaped text. -/
theorem spells (h : Renders bare u c) : Spells bare u [c] := by
  cases h with
  | self hc => exact .plain hc .nil
  | escape hname hline =>
    have hne (d : CodePoint) (hd : d ∈ Text.ofString "tnrfu") : c ≠ d := fun heq => hname (heq ▸ hd)
    have hescaped : escaped c = c := by
      simp only [escaped, hne 't' (by decide), hne 'n' (by decide), hne 'r' (by decide), hne 'f' (by decide),
        if_false]
    have h := @Spells.escape bare c [] [] (hne 'u' (by decide)) .nil
    rwa [hescaped] at h
  | @control letter _ hnamed =>
    obtain ⟨hu, hescaped, -⟩ := escaped_of_controlNames _ hnamed
    have h := @Spells.escape bare letter [] [] hu .nil
    rwa [hescaped] at h
  | unicode h₁ h₂ h₃ h₄ hc => exact .unicode (ofHex?_of_hexValue? h₁ h₂ h₃ h₄ hc) .nil

/-- A unit is complete by itself. -/
theorem complete (hbare : ∀ c, bare c → ValuePlain c) (h : Renders bare u c) : Complete u := by
  refine ⟨?_, [c], h.spells.mono fun c hc => (hbare c hc).1⟩
  have hslash : CodePoint.ofChar '\\' ≠ '\n' ∧ CodePoint.ofChar '\\' ≠ '\r' := by decide
  cases h with
  | self hc => exact isLine_cons.mpr ⟨(hbare c hc).2, isLine_nil⟩
  | escape _ hline => exact isLine_cons.mpr ⟨hslash, isLine_cons.mpr ⟨hline, isLine_nil⟩⟩
  | @control letter _ hnamed =>
    obtain ⟨-, -, hline⟩ := escaped_of_controlNames _ hnamed
    exact isLine_cons.mpr ⟨hslash, isLine_cons.mpr ⟨hline, isLine_nil⟩⟩
  | unicode h₁ h₂ h₃ h₄ _ =>
    have hdigits := isLine_cons.mpr ⟨isLine_of_hexValue? h₁, isLine_cons.mpr ⟨isLine_of_hexValue? h₂,
      isLine_cons.mpr ⟨isLine_of_hexValue? h₃, isLine_cons.mpr ⟨isLine_of_hexValue? h₄, isLine_nil⟩⟩⟩⟩
    exact isLine_cons.mpr ⟨hslash, isLine_cons.mpr ⟨by decide, hdigits⟩⟩

/-- What a unit starts with. -/
theorem cases_head (h : Renders bare u c) : (u = [c] ∧ bare c) ∨ ∃ tail, u = CodePoint.ofChar '\\' :: tail := by
  cases h with
  | self hc => exact .inl ⟨rfl, hc⟩
  | escape => exact .inr ⟨_, rfl⟩
  | control => exact .inr ⟨_, rfl⟩
  | unicode => exact .inr ⟨_, rfl⟩

/-- Nothing is trimmed from a text that ends in a unit that is no blank. -/
theorem trimEnd_concat (h : Renders bare u c) (hblank : ¬ BlankUnit u) {raw : Text} (hraw : continues raw = false) :
    trimEnd (raw ++ u) = raw ++ u := by
  cases h with
  | self hc =>
    have hc : isBlank c = false := by
      cases heq : isBlank c with
      | false => rfl
      | true => exact absurd ⟨c, heq, rfl⟩ hblank
    exact trimEnd_concat_bare raw hc
  | escape => exact trimEnd_concat_escape hraw c
  | @control letter => exact trimEnd_concat_escape hraw letter
  | @unicode d₁ d₂ d₃ d₄ _ _ _ _ n₄ _ _ _ h₄ =>
    have hd₄ := (keyBare_of_hexValue? h₄).2.2
    have htrim := trimEnd_concat_bare (raw ++ [CodePoint.ofChar '\\', CodePoint.ofChar 'u', d₁, d₂, d₃]) hd₄
    simpa using htrim

end Renders

section units

variable {units : List Text} {t : Text} {bare : CodePoint → Prop}

/-- Each unit of a written text is one of a code point. -/
theorem exists_renders_of_mem (h : List.Forall₂ (Renders bare) units t) {u : Text} (hu : u ∈ units) :
    ∃ c, Renders bare u c := by
  induction h with
  | nil => cases hu
  | cons hhead _ ih =>
    rcases List.mem_cons.mp hu with rfl | hu
    · exact ⟨_, hhead⟩
    · exact ih hu

/-- What written units start with: the backslash of an escape, or a first unit that stands for itself. -/
theorem head_flatten_of_renders (h : List.Forall₂ (Renders bare) units t) {c : CodePoint}
    (hc : c ∈ units.flatten.head?) : c = '\\' ∨ ([c] ∈ units.head? ∧ bare c) := by
  cases h with
  | nil => cases hc
  | cons hu _ =>
    rcases hu.cases_head with ⟨rfl, hbare⟩ | ⟨tail, rfl⟩
    · obtain rfl := Option.some.inj hc
      exact .inr ⟨rfl, hbare⟩
    · exact .inl (Option.some.inj hc).symm

/-- Written down one after the other, the units spell the text. -/
theorem spells_flatten (h : List.Forall₂ (Renders bare) units t) : Spells bare units.flatten t := by
  induction h with
  | nil => exact .nil
  | cons hhead _ ih => exact hhead.spells.append ih

end units

/-- A blank is a complete unit. -/
theorem BlankUnit.complete {u : Text} (h : BlankUnit u) : Complete u := by
  obtain ⟨c, hc, rfl⟩ := h
  have hline : IsLine [c] := isLine_cons.mpr ⟨⟨blank_ne hc rfl, blank_ne hc rfl⟩, isLine_nil⟩
  exact ⟨hline, [c], .plain (blank_ne hc rfl) .nil⟩

theorem isBlanks_flatten {units : List Text} (h : ∀ u ∈ units, BlankUnit u) : IsBlanks units.flatten := by
  intro c hc
  obtain ⟨u, hu, hcu⟩ := List.mem_flatten.mp hc
  obtain ⟨d, hd, rfl⟩ := h u hu
  rw [List.mem_singleton.mp hcu]
  exact hd

/-! ## The entry of a logical line -/

/-- A blank goes if no backslash escapes it. -/
theorem trimEnd_concat_blank {raw : Text} {c : CodePoint} (hraw : continues raw = false) (hc : isBlank c = true) :
    trimEnd (raw ++ [c]) = trimEnd raw := by
  rw [trimEnd_concat, hc, hraw, Bool.not_false, Bool.and_true, if_pos rfl]

/-- Blanks behind complete units are trimmed, and nothing else is. -/
theorem trimEnd_append_of_isBlanks {blanks : Text} (h : IsBlanks blanks) :
    ∀ {raw : Text}, continues raw = false → trimEnd (raw ++ blanks) = trimEnd raw := by
  induction blanks with
  | nil => exact fun _ => by rw [List.append_nil]
  | cons c blanks ih =>
    intro raw hraw
    obtain ⟨hc, hblanks⟩ := List.forall_mem_cons.mp h
    have hnext : continues (raw ++ [c]) = false := continues_concat_of_ne raw (blank_ne hc rfl)
    rw [List.append_cons, ih hblanks hnext, trimEnd_concat_blank hraw hc]

section entry

variable {units : List Text} {key value : Text}

theorem RenderedKey.complete (h : RenderedKey units key) : ∀ u ∈ units, Complete u := by
  intro u hu
  obtain ⟨c, hc⟩ := exists_renders_of_mem h.renders hu
  exact hc.complete fun c hc => ⟨hc.1.1, hc.2⟩

theorem RenderedValue.complete (h : RenderedValue units value) : ∀ u ∈ units, Complete u := by
  intro u hu
  obtain ⟨c, hc⟩ := exists_renders_of_mem h.renders hu
  exact hc.complete fun c hc => hc

/-- A written value starts with no blank. -/
theorem RenderedValue.head_flatten (h : RenderedValue units value) :
    ∀ c ∈ units.flatten.head?, isBlank c = false := by
  intro c hc
  rcases head_flatten_of_renders h.renders hc with rfl | ⟨hfirst, -⟩
  · rfl
  · cases hblank : isBlank c with
    | false => rfl
    | true => exact absurd ⟨c, hblank, rfl⟩ (h.first [c] hfirst)

/-- A written value ends in no blank that is trimmed. -/
theorem RenderedValue.trimEnd_flatten (h : RenderedValue units value) :
    trimEnd units.flatten = units.flatten := by
  rcases List.eq_nil_or_concat' units with rfl | ⟨init, u, rfl⟩
  · rfl
  · obtain ⟨c, hc⟩ := exists_renders_of_mem h.renders (List.mem_concat_self)
    have hinit : Complete init.flatten :=
      complete_flatten fun v hv => h.complete v (List.mem_append_left _ hv)
    rw [List.flatten_append, List.flatten_singleton]
    exact hc.trimEnd_concat (h.last u List.getLast?_concat) hinit.continues_eq

/-- What is left of a value and blanks once both ends are trimmed. -/
theorem RenderedValue.trim (h : RenderedValue units value) {blanks : Text} (hblanks : IsBlanks blanks) :
    trimEnd ((units.flatten ++ blanks).dropWhile isBlank) = units.flatten := by
  by_cases hempty : units.flatten = []
  · rw [hempty, List.nil_append, dropWhile_of_isBlanks hblanks, trimEnd_nil]
  · have hhead : ∀ c ∈ (units.flatten ++ blanks).head?, isBlank c = false := by
      rw [List.head?_append_of_ne_nil _ hempty]
      exact h.head_flatten
    have hraw : continues units.flatten = false := (complete_flatten h.complete).continues_eq
    rw [dropWhile_of_head? hhead, trimEnd_append_of_isBlanks hblanks hraw, h.trimEnd_flatten]

theorem Separator.complete {separator : List Text} (h : Separator units separator) :
    ∀ u ∈ separator, Complete u := by
  cases h with
  | blanks _ hblanks => exact fun u hu => (hblanks u hu).complete
  | @mark before after m hbefore hm hafter =>
    intro u hu
    rcases List.mem_append.mp hu with hu | hu
    · exact (hbefore u hu).complete
    · rcases List.mem_cons.mp hu with rfl | hu
      · refine ⟨isLine_cons.mpr ⟨?_, isLine_nil⟩, [m], .plain ?_ .nil⟩
        · rcases hm with rfl | rfl
          all_goals decide
        · rcases hm with rfl | rfl
          all_goals unfold ValueBare
          all_goals decide
      · exact (hafter u hu).complete

/-- A separator ends the key before it. -/
theorem Separator.endsKey {separator : List Text} (h : Separator units separator) (rest : Text) :
    EndsKey (separator.flatten ++ rest) := by
  have hblank {u : Text} {more : List Text} (hu : BlankUnit u) : EndsKey ((u :: more).flatten ++ rest) := by
    obtain ⟨c, hc, rfl⟩ := hu
    exact .inr ⟨c, more.flatten ++ rest, rfl, blank_ne hc rfl, by rw [hc, Bool.or_true]⟩
  cases h with
  | @blanks _ hne hblanks _ =>
    obtain ⟨u, more, rfl⟩ := List.exists_cons_of_ne_nil hne
    exact hblank (hblanks u List.mem_cons_self)
  -- the mark ends the key, or the first of the blanks before it does
  | @mark before after m hbefore hm hafter =>
    cases before with
    | nil =>
      refine .inr ⟨m, after.flatten ++ rest, rfl, ?_⟩
      rcases hm with rfl | rfl
      all_goals decide
    | cons u more => exact hblank (hbefore u List.mem_cons_self)

/-- The separator goes, and of what follows only the blanks at its start. -/
theorem Separator.dropSeparator_eq {separator : List Text} (h : Separator units separator)
    (hvalue : RenderedValue units value) {blanks : Text} (hblanks : IsBlanks blanks) :
    dropSeparator (separator.flatten ++ (units.flatten ++ blanks)) =
      (units.flatten ++ blanks).dropWhile isBlank := by
  cases h with
  | @mark before after m hbefore hm hafter =>
    have hm : isBlank m = false ∧ isSeparator m = true := by
      rcases hm with rfl | rfl
      all_goals decide
    rw [List.flatten_append, List.append_assoc, dropSeparator,
      dropWhile_append_of_isBlanks (isBlanks_flatten hbefore)]
    simp only [List.flatten_cons, List.cons_append, List.dropWhile_cons, hm.1, hm.2,
      Bool.false_eq_true, if_false, if_true]
    exact dropWhile_append_of_isBlanks (isBlanks_flatten hafter) _
  | @blanks _ hne hseparator hfirst =>
    rw [dropSeparator, dropWhile_append_of_isBlanks (isBlanks_flatten hseparator)]
    by_cases hempty : units.flatten = []
    · rw [hempty, List.nil_append, dropWhile_of_isBlanks hblanks]
    · obtain ⟨c, rest, hcons⟩ := List.exists_cons_of_ne_nil hempty
      have hc : c ∈ units.flatten.head? := by rw [hcons, List.head?_cons, Option.mem_some_iff]
      have hblank : isBlank c = false := hvalue.head_flatten c hc
      -- blanks alone separate: the value does not start with a mark that stands for itself
      have hmark : isSeparator c = false := by
        rcases head_flatten_of_renders hvalue.renders hc with rfl | ⟨hhead, -⟩
        · rfl
        · obtain ⟨heq, hcolon⟩ := hfirst [c] hhead
          have heq : c ≠ '=' := fun h => heq (congrArg (fun d => [d]) h)
          have hcolon : c ≠ ':' := fun h => hcolon (congrArg (fun d => [d]) h)
          simp only [isSeparator, heq, hcolon, decide_false, Bool.or_self]
      simp only [hcons, List.cons_append, List.dropWhile_cons, hblank, hmark, Bool.false_eq_true, if_false]

/-- **The entry of a logical line.** -/
theorem readEntry_rendered {units : List Text} {entry : Text × Text} (h : RenderedEntry units entry)
    (number : Nat) : readEntry ⟨number, units.flatten⟩ = .ok entry := by
  obtain ⟨hkey, hne, hseparator, hvalue, htrailing⟩ := h
  rename_i key value keyUnits separator valueUnits trailing
  have hspells : Spells KeyBare keyUnits.flatten key := (spells_flatten hkey.renders).mono fun c hc => hc.1
  have hblanks : IsBlanks trailing.flatten := isBlanks_flatten htrailing
  have hsplit : splitEntry (keyUnits.flatten ++ (separator.flatten ++ (valueUnits.flatten ++ trailing.flatten))) =
      (keyUnits.flatten, (valueUnits.flatten ++ trailing.flatten).dropWhile isBlank) := by
    rw [splitEntry, splitKey_of_spells hspells (hseparator.endsKey _)]
    show (_, dropSeparator _) = _
    rw [hseparator.dropSeparator_eq hvalue hblanks]
  -- cut and trimmed, both parts are spelled by their units
  have hunescapeKey : unescape keyUnits.flatten = .ok key := unescape_of_spells hspells.valueBare
  have hunescapeValue : unescape valueUnits.flatten = .ok value :=
    unescape_of_spells ((spells_flatten hvalue.renders).mono fun c hc => hc.1)
  obtain ⟨c, rest, rfl⟩ := List.exists_cons_of_ne_nil hne
  simp only [List.flatten_append]
  unfold readEntry
  simp only [hsplit, hunescapeKey, hvalue.trim hblanks, hunescapeValue]

/-- All units of a logical line are complete. -/
theorem RenderedEntry.complete {units : List Text} {entry : Text × Text} (h : RenderedEntry units entry) :
    ∀ u ∈ units, Complete u := by
  obtain ⟨hkey, -, hseparator, hvalue, htrailing⟩ := h
  simp only [List.forall_mem_append]
  exact ⟨hkey.complete, hseparator.complete, hvalue.complete, fun u hu => (htrailing u hu).complete⟩

/-- A logical line starts with its key: with no blank, and not like a comment. -/
theorem RenderedEntry.head_flatten {units : List Text} {entry : Text × Text} (h : RenderedEntry units entry) :
    ∃ c rest, units.flatten = c :: rest ∧ isBlank c = false ∧ isSkipped [c] = false := by
  obtain ⟨⟨hrenders, hfirst⟩, hne, -, -, -⟩ := h
  cases hrenders with
  | nil => exact absurd rfl hne
  | @cons u c units key hu _ =>
    rcases hu.cases_head with ⟨rfl, hplain⟩ | ⟨tail, rfl⟩
    · obtain ⟨hhash, hbang⟩ := hfirst [c] rfl
      have hhash : c ≠ '#' := fun h => hhash (congrArg (fun d => [d]) h)
      have hbang : c ≠ '!' := fun h => hbang (congrArg (fun d => [d]) h)
      refine ⟨c, _, rfl, hplain.1.2.2, ?_⟩
      simp only [isSkipped, hhash, hbang, decide_false, Bool.or_self]
    · exact ⟨'\\', _, rfl, rfl, rfl⟩

end entry

end LayeredConfig.Properties
