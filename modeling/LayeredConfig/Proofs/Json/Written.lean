import LayeredConfig.Json.Reader
import LayeredConfig.Proofs.Fingerprint
import Mathlib.Data.List.Basic
import Mathlib.Tactic.SplitIfs

/-!
# Written JSON reads back

An object whose members are texts and lists of texts is read as it was written, with its members in the order of their
names (**`read_objectText`**). Each part is read whatever follows it: a code point within a string
(`readUnits_escape`), a string, the items of a list, the members of an object. The blanks behind a comma or a colon do
not count, so this holds of each legible layout.
-/

namespace LayeredConfig

namespace Json

/-- A mark of punctuation with blanks behind it. -/
def Mark (m : CodePoint) (t : Text) : Prop :=
  ∃ blanks : Text, t = m :: blanks ∧ ∀ b ∈ blanks, Cursor.isBlank b = true

/-- A text, or a list of texts, which may be empty. -/
def ofTexts : Text ⊕ List Text → Json
  | .inl t => .text t
  | .inr ts => .list (ts.map .text)

/-- The texts in it. -/
def textsOf : Text ⊕ List Text → List Text
  | .inl t => [t]
  | .inr ts => ts

theorem ofTexts_injective : Function.Injective ofTexts := by
  have htext : Function.Injective Json.text := fun _ _ h => Json.text.inj h
  intro v w h
  -- a text is no list; texts and lists of texts are told by their own constructors
  rcases v with t | ts <;> rcases w with u | us
  · exact congrArg Sum.inl (Json.text.inj h)
  · cases h
  · cases h
  · exact congrArg Sum.inr (List.map_injective_iff.mpr htext (Json.list.inj h))

end Json

/-- A comma stands between items and a colon after names. -/
structure JsonLayout.Legible (layout : JsonLayout) : Prop where
  item : Json.Mark (.ofChar ',') layout.item
  name : Json.Mark (.ofChar ':') layout.name

theorem JsonLayout.legible_compact : JsonLayout.compact.Legible :=
  ⟨⟨[], rfl, by simp⟩, ⟨[], rfl, by simp⟩⟩

theorem JsonLayout.legible_spaced : JsonLayout.spaced.Legible :=
  ⟨⟨[' '], rfl, by decide⟩, ⟨[' '], rfl, by decide⟩⟩

namespace Json

variable {start position n : Nat} {t rest : Text} {x letter : CodePoint} {c : Cursor} {layout : JsonLayout}

/-! ## Strings -/

/-- A string ends at its closing quote. -/
theorem readUnits_quote :
    readUnits start position (CodePoint.ofChar '"' :: rest) = .ok ([], ⟨position + 1, rest⟩) := by
  rw [readUnits.eq_def]
  rfl

/-- A backslash and a letter. -/
theorem readUnits_letter (hu : letter ≠ 'u') (hx : escaped? letter = some x) :
    readUnits start position (CodePoint.ofChar '\\' :: letter :: rest) =
      consText x (readUnits start (position + 2) rest) := by
  have hquote : CodePoint.ofChar '\\' ≠ '"' := by decide
  rw [readUnits.eq_def]
  simp only [hquote, hu, hx, if_true, if_false]

theorem escapeBefore_of_low (hx : x.isHighSurrogate = false) (rest t : Text) : escapeBefore x rest t = x :: t := by
  cases t with
  | nil => rfl
  | cons d t => simp [escapeBefore, hx]

/-- A backslash and a number, which is joined with nothing as it is no high surrogate. -/
theorem readUnits_unicode {d₁ d₂ d₃ d₄ : CodePoint} (hx : CodePoint.ofHex? d₁ d₂ d₃ d₄ = some x)
    (hlow : x.isHighSurrogate = false) (hrest : rest ≠ []) :
    readUnits start position (CodePoint.ofChar '\\' :: CodePoint.ofChar 'u' :: d₁ :: d₂ :: d₃ :: d₄ :: rest) =
      consText x (readUnits start (position + 6) rest) := by
  have hquote : CodePoint.ofChar '\\' ≠ '"' := by decide
  have hempty : rest.isEmpty = false := List.isEmpty_eq_false_iff.mpr hrest
  rw [readUnits.eq_def]
  simp only [hquote, hx, hempty, if_true, if_false, Bool.false_eq_true, escapeBefore_of_low hlow, consText]

/-- What stands for itself. -/
theorem readUnits_self (hquote : x ≠ '"') (hslash : x ≠ '\\') (hcontrol : ¬ x.toNat < 0x20) :
    readUnits start position (x :: rest) = consText x (readUnits start (position + 1) rest) := by
  rw [readUnits.eq_def]
  simp only [hquote, hslash, hcontrol, if_false]

/-- The four digits of a control character name it. -/
theorem ofHex?_hex {k : Nat} (h : k < 0x20) :
    ∃ d₁ d₂ d₃ d₄, Text.hex 4 k = [d₁, d₂, d₃, d₄] ∧ CodePoint.ofHex? d₁ d₂ d₃ d₄ = CodePoint.ofNat? k := by
  have hall : ∀ k < 0x20, (Text.hex 4 k).length = 4 ∧
      ((Text.hex 4 k)[0]?.bind fun d₁ => (Text.hex 4 k)[1]?.bind fun d₂ => (Text.hex 4 k)[2]?.bind fun d₃ =>
        (Text.hex 4 k)[3]?.bind fun d₄ => CodePoint.ofHex? d₁ d₂ d₃ d₄) = CodePoint.ofNat? k := by
    decide
  -- the digits are four, so the look-ups by position are these four
  obtain ⟨hlength, hread⟩ := hall k h
  match hdigits : Text.hex 4 k, hlength with
  | [d₁, d₂, d₃, d₄], _ =>
    rw [hdigits] at hread
    exact ⟨d₁, d₂, d₃, d₄, rfl, hread⟩

/-- A code point is written as a backslash and a letter, as a backslash and its number, or as itself. -/
theorem escape_cases (x : CodePoint) :
    (∃ letter : CodePoint, escape x = [CodePoint.ofChar '\\', letter] ∧ letter ≠ 'u' ∧ escaped? letter = some x) ∨
      (x.toNat < 0x20 ∧ escape x = "\\u" ++ Text.hex 4 x.toNat) ∨
      (escape x = [x] ∧ x ≠ '"' ∧ x ≠ '\\' ∧ ¬ x.toNat < 0x20) := by
  rw [escape]
  split_ifs with h₁ h₂ h₃ h₄ h₅ h₆ h₇ h₈
  · exact .inl ⟨'"', rfl, by decide, by rw [h₁]; decide⟩
  · exact .inl ⟨'\\', rfl, by decide, by rw [h₂]; decide⟩
  · exact .inl ⟨'n', rfl, by decide, by rw [h₃]; decide⟩
  · exact .inl ⟨'r', rfl, by decide, by rw [h₄]; decide⟩
  · exact .inl ⟨'t', rfl, by decide, by rw [h₅]; decide⟩
  · exact .inl ⟨'f', rfl, by decide, by rw [h₆]; decide⟩
  · exact .inl ⟨'b', rfl, by decide, by rw [h₇]; decide⟩
  · -- the seven letters are done; a control is left, or what stands for itself
    exact .inr (.inl ⟨h₈, rfl⟩)
  · exact .inr (.inr ⟨rfl, h₁, h₂, h₈⟩)

/-- What is written for a code point is read as the code point, if something follows it. -/
theorem readUnits_escape (start position : Nat) (x : CodePoint) (hrest : rest ≠ []) :
    ∃ next, readUnits start position (escape x ++ rest) = consText x (readUnits start next rest) := by
  rcases escape_cases x with ⟨letter, hescape, hu, hx⟩ | ⟨hcontrol, hescape⟩ | ⟨hescape, hquote, hslash, hcontrol⟩
  · rw [hescape]
    exact ⟨_, readUnits_letter hu hx⟩
  · obtain ⟨d₁, d₂, d₃, d₄, hdigits, hread⟩ := ofHex?_hex hcontrol
    have hx : CodePoint.ofHex? d₁ d₂ d₃ d₄ = some x := by
      rw [hread, CodePoint.ofNat?, dif_pos x.isLt]
    have hlow : x.isHighSurrogate = false := by
      simp only [CodePoint.isHighSurrogate, Bool.and_eq_false_iff, decide_eq_false_iff_not]
      omega
    rw [hescape, hdigits]
    exact ⟨_, readUnits_unicode hx hlow hrest⟩
  · rw [hescape]
    exact ⟨_, readUnits_self hquote hslash hcontrol⟩

/-- Every text is read up to its closing quote, a text with surrogates as well. -/
theorem readUnits_flatMap_escape (start position : Nat) (t rest : Text) :
    ∃ next, readUnits start position (t.flatMap escape ++ CodePoint.ofChar '"' :: rest) =
      .ok (t, ⟨next, rest⟩) := by
  induction t generalizing position with
  | nil => exact ⟨position + 1, readUnits_quote⟩
  | cons x t ih =>
    have hrest : t.flatMap escape ++ CodePoint.ofChar '"' :: rest ≠ [] := by simp
    obtain ⟨next, hescape⟩ := readUnits_escape start position x hrest
    obtain ⟨last, ht⟩ := ih next
    refine ⟨last, ?_⟩
    rw [List.flatMap_cons, List.append_assoc, hescape, ht]
    rfl

/-- A string is read, whatever follows its closing quote. -/
theorem readString_writeText (h : c.rest = t.flatMap escape ++ CodePoint.ofChar '"' :: rest) :
    ∃ next, readString c = .ok (t, ⟨next, rest⟩) := by
  rw [readString, h]
  exact readUnits_flatMap_escape (c.position - 1) c.position t rest

/-! ## Punctuation -/

namespace Cursor

variable {y m : CodePoint} {blanks : Text}

theorem eat?_of_eq (h : c.rest = x :: rest) : c.eat? x = some ⟨c.position + 1, rest⟩ := by
  rw [eat?, h]
  exact if_pos rfl

theorem eat?_of_ne (h : c.rest = x :: rest) (hne : x ≠ y) : c.eat? y = none := by
  rw [eat?, h]
  exact if_neg hne

/-- Blanks are skipped up to what is none. -/
theorem skipBlanks_of_append (h : c.rest = blanks ++ x :: rest) (hblanks : ∀ b ∈ blanks, isBlank b = true)
    (hx : isBlank x = false) : c.skipBlanks.rest = x :: rest := by
  have htake : c.rest.takeWhile isBlank = blanks := by
    rw [h, List.takeWhile_append_of_pos hblanks, List.takeWhile_cons_of_neg (by simp [hx]), List.append_nil]
  show c.rest.drop _ = x :: rest
  rw [htake, h, List.drop_left]

theorem skipBlanks_of_cons (h : c.rest = x :: rest) (hx : isBlank x = false) : c.skipBlanks.rest = x :: rest :=
  @skipBlanks_of_append _ x c [] h (by simp) hx

/-- A mark is passed over with the blanks on both sides of it. -/
theorem eat?_mark (ht : Mark m t) (hm : isBlank m = false) (h : c.rest = t ++ x :: rest) (hx : isBlank x = false) :
    ∃ after : Cursor, c.skipBlanks.eat? m = some after ∧ after.skipBlanks.rest = x :: rest ∧
      ∀ y, m ≠ y → c.skipBlanks.eat? y = none := by
  obtain ⟨blanks, rfl, hblanks⟩ := ht
  have hskip : c.skipBlanks.rest = m :: (blanks ++ x :: rest) := skipBlanks_of_cons h hm
  exact ⟨_, eat?_of_eq hskip, skipBlanks_of_append rfl hblanks hx, fun y hne => eat?_of_ne hskip hne⟩

end Cursor

/-! ## Values -/

theorem writeText_eq (t : Text) : writeText t = CodePoint.ofChar '"' :: (t.flatMap escape ++ [CodePoint.ofChar '"']) :=
  rfl

/-- A text is read as a value. -/
theorem readValue_text (h : c.rest = writeText t ++ rest) (n : Nat) :
    ∃ next, readValue (n + 1) c = .ok (.text t, ⟨next, rest⟩) := by
  rw [writeText_eq, List.cons_append, List.append_assoc, List.singleton_append] at h
  obtain ⟨next, hread⟩ := @readString_writeText t rest ⟨c.position + 1, _⟩ rfl
  refine ⟨next, ?_⟩
  rw [readValue]
  simp only [Cursor.eat?_of_eq h, hread]
  rfl

/-- What is joined begins as its first part does. -/
theorem join_map_eq_cons {α : Type} {f : α → Text} (hf : ∀ a, ∃ tail, f a = x :: tail) (separator : Text) (a : α)
    (as : List α) (after : Text) : ∃ tail, Text.join separator ((a :: as).map f) ++ after = x :: tail := by
  obtain ⟨tail, ha⟩ := hf a
  cases as with
  | nil => exact ⟨tail ++ after, by rw [List.map_singleton, Text.join, ha, List.cons_append]⟩
  | cons b bs =>
    rw [List.map_cons, List.map_cons, Text.join, ha, List.append_assoc, List.append_assoc, List.cons_append]
    exact ⟨_, rfl⟩

theorem writeText_eq_cons (t : Text) : ∃ tail, writeText t = CodePoint.ofChar '"' :: tail :=
  ⟨_, writeText_eq t⟩

/-- Items are read up to the end of their list; each one takes one unit of fuel, and reading the last one another. -/
theorem readItems_texts (hlayout : layout.Legible) {ts : List Text} :
    ∀ {t : Text} {n : Nat} {c : Cursor}, ts.length + 1 < n →
      c.rest = Text.join layout.item ((t :: ts).map writeText) ++ CodePoint.ofChar ']' :: rest →
        ∃ next, readItems n c = .ok ((t :: ts).map .text, ⟨next, rest⟩) := by
  induction ts with
  | nil =>
    intro t n c hn h
    -- the last item: what follows it is the bracket
    obtain ⟨n, rfl⟩ : ∃ k, n = k + 2 := ⟨n - 2, by simp at hn; omega⟩
    obtain ⟨next, hvalue⟩ := readValue_text h n
    have hend : (Cursor.skipBlanks ⟨next, CodePoint.ofChar ']' :: rest⟩).rest = CodePoint.ofChar ']' :: rest :=
      Cursor.skipBlanks_of_cons rfl (by decide)
    rw [readItems, hvalue]
    simp only [bind, Except.bind, Cursor.eat?_of_eq hend]
    exact ⟨_, rfl⟩
  | cons u ts ih =>
    intro t n c hn h
    obtain ⟨n, rfl⟩ : ∃ k, n = k + 2 := ⟨n - 2, by simp at hn; omega⟩
    obtain ⟨tail, htail⟩ := join_map_eq_cons writeText_eq_cons layout.item u ts (CodePoint.ofChar ']' :: rest)
    -- one item, the mark behind it, and the quote with which the next item begins
    have hsplit : c.rest = writeText t ++ (layout.item ++ CodePoint.ofChar '"' :: tail) := by
      rw [h, ← htail, List.map_cons, List.map_cons, Text.join, List.append_assoc, List.append_assoc]
    obtain ⟨next, hvalue⟩ := readValue_text hsplit n
    obtain ⟨after, hcomma, hafter, hother⟩ :=
      @Cursor.eat?_mark _ tail '"' ⟨next, _⟩ _ hlayout.item (by decide) rfl (by decide)
    obtain ⟨last, hitems⟩ := @ih u (n + 1) _ (by simp at hn; omega) (hafter.trans htail.symm)
    refine ⟨last, ?_⟩
    rw [readItems, hvalue]
    simp only [bind, Except.bind, hother ']' (by decide), hcomma, hitems]
    rfl

/-- Each text takes two quotes at least, so the length of what is written bounds the number of items. -/
theorem length_join_writeText (separator : Text) (ts : List Text) :
    2 * ts.length ≤ (Text.join separator (ts.map writeText)).length := by
  induction ts with
  | nil => simp
  | cons t ts ih =>
    have ht : 2 ≤ (writeText t).length := by simp [writeText_eq]
    cases ts with
    | nil => simpa [Text.join] using ht
    | cons u ts =>
      simp only [List.map_cons, Text.join, List.length_append, List.length_cons] at ih ⊢
      omega

/-- Behind an opening bracket there is an end, or there are items. -/
theorem readValue_bracket (h : c.rest = CodePoint.ofChar '[' :: rest) :
    readValue (n + 1) c =
      match (Cursor.skipBlanks ⟨c.position + 1, rest⟩).eat? ']' with
      | some c => .ok (.list [], c)
      | none =>
        (readItems n (Cursor.skipBlanks ⟨c.position + 1, rest⟩)).map fun (items, c) => (.list items, c) := by
  have hquote : c.eat? '"' = none := Cursor.eat?_of_ne h (by decide)
  have hbrace : c.eat? '{' = none := Cursor.eat?_of_ne h (by decide)
  rw [readValue]
  cases hclose : (Cursor.skipBlanks ⟨c.position + 1, rest⟩).eat? ']' with
  | some c' => simp only [hquote, hbrace, Cursor.eat?_of_eq h, hclose]
  | none => simp only [hquote, hbrace, Cursor.eat?_of_eq h, hclose]

/-- A list of texts is read as a value. -/
theorem readValue_list (hlayout : layout.Legible) {ts : List Text}
    (h : c.rest = CodePoint.ofChar '[' :: (Text.join layout.item (ts.map writeText) ++ CodePoint.ofChar ']' :: rest))
    (hn : ts.length < n) :
    ∃ next, readValue (n + 1) c = .ok (.list (ts.map .text), ⟨next, rest⟩) := by
  rw [readValue_bracket h]
  cases ts with
  | nil =>
    have hclose : (Cursor.skipBlanks ⟨c.position + 1, CodePoint.ofChar ']' :: rest⟩).rest =
        CodePoint.ofChar ']' :: rest :=
      Cursor.skipBlanks_of_cons rfl (by decide)
    rw [List.map_nil, Text.join, List.nil_append, Cursor.eat?_of_eq hclose]
    exact ⟨_, rfl⟩
  | cons t ts =>
    obtain ⟨tail, htail⟩ := join_map_eq_cons writeText_eq_cons layout.item t ts (CodePoint.ofChar ']' :: rest)
    -- an item begins with a quote, so the list is not at its end
    have hfirst : (Cursor.skipBlanks ⟨c.position + 1, CodePoint.ofChar '"' :: tail⟩).rest =
        CodePoint.ofChar '"' :: tail :=
      Cursor.skipBlanks_of_cons rfl (by decide)
    rw [htail, Cursor.eat?_of_ne hfirst (by decide)]
    obtain ⟨next, hitems⟩ := readItems_texts hlayout (by simpa using hn) (hfirst.trans htail.symm)
    refine ⟨next, ?_⟩
    simp only [hitems]
    rfl

theorem write_ofTexts_list (layout : JsonLayout) (ts : List Text) :
    write layout (ofTexts (.inr ts)) =
      CodePoint.ofChar '[' :: (Text.join layout.item (ts.map writeText) ++ [CodePoint.ofChar ']']) := by
  have hitems : writeItems layout (ts.map .text) = ts.map writeText := by
    rw [writeItems_eq, List.map_map]
    rfl
  rw [ofTexts, write, hitems]
  rfl

/-- A text or a list of texts is read, whatever follows. -/
theorem readValue_ofTexts (hlayout : layout.Legible) {v : Text ⊕ List Text}
    (h : c.rest = write layout (ofTexts v) ++ rest) (hn : (write layout (ofTexts v)).length < n) :
    ∃ next, readValue n c = .ok (ofTexts v, ⟨next, rest⟩) := by
  obtain ⟨n, rfl⟩ : ∃ k, n = k + 1 := ⟨n - 1, by omega⟩
  rcases v with t | ts
  · rw [ofTexts, write] at h
    exact readValue_text h n
  · rw [write_ofTexts_list] at h hn
    rw [List.cons_append, List.append_assoc, List.singleton_append] at h
    -- the fuel exceeds the length of the list, which exceeds the number of its items
    have hlength := length_join_writeText layout.item ts
    refine readValue_list hlayout h ?_
    simp only [List.length_cons, List.length_append, List.length_nil] at hn
    omega

/-- A value begins with a quote or a bracket. -/
theorem write_ofTexts_eq_cons (layout : JsonLayout) (v : Text ⊕ List Text) :
    ∃ x tail, write layout (ofTexts v) = x :: tail ∧ Cursor.isBlank x = false := by
  rcases v with t | ts
  · exact ⟨'"', _, rfl, by decide⟩
  · exact ⟨'[', _, write_ofTexts_list layout ts, by decide⟩

/-! ## Members -/

/-- A member of an object as it is written. -/
def writeMember (layout : JsonLayout) (e : Text × (Text ⊕ List Text)) : Text :=
  writeText e.1 ++ layout.name ++ write layout (ofTexts e.2)

theorem writeMember_eq_cons (layout : JsonLayout) (e : Text × (Text ⊕ List Text)) :
    ∃ tail, writeMember layout e = CodePoint.ofChar '"' :: tail :=
  ⟨_, rfl⟩

/-- The parts of a member that is written: its name, the colon, and its value. -/
theorem exists_parts (hlayout : layout.Legible) {e : Text × (Text ⊕ List Text)} (hn : (writeMember layout e).length < n)
    (h : c.rest = writeMember layout e ++ rest) :
    ∃ (c₁ c₂ c₃ : Cursor) (next : Nat), c.eat? '"' = some c₁ ∧ readString c₁ = .ok (e.1, c₂) ∧
      c₂.skipBlanks.eat? ':' = some c₃ ∧ readValue n c₃.skipBlanks = .ok (ofTexts e.2, ⟨next, rest⟩) := by
  obtain ⟨x, tail, hx, hblank⟩ := write_ofTexts_eq_cons layout e.2
  -- the member spelled out: its name in quotes, the colon, and the first code point of its value
  have hquote : c.rest = CodePoint.ofChar '"' ::
      (e.1.flatMap escape ++ CodePoint.ofChar '"' :: (layout.name ++ x :: (tail ++ rest))) := by
    rw [h, writeMember, writeText_eq, hx]
    simp only [List.append_assoc, List.cons_append, List.nil_append]
  obtain ⟨next, hstring⟩ := @readString_writeText e.1 _ ⟨c.position + 1, _⟩ rfl
  obtain ⟨after, hcolon, hafter, -⟩ := @Cursor.eat?_mark _ _ x ⟨next, _⟩ _ hlayout.name (by decide) rfl hblank
  have hvalue : after.skipBlanks.rest = write layout (ofTexts e.2) ++ rest := by
    rw [hafter, hx, List.cons_append]
  have hlength : (write layout (ofTexts e.2)).length < n := by
    simp only [writeMember, List.length_append] at hn
    omega
  obtain ⟨last, hread⟩ := readValue_ofTexts hlayout hvalue hlength
  exact ⟨_, _, after, last, Cursor.eat?_of_eq hquote, hstring, hcolon, hread⟩

/-- Members are read up to the end of their object. The fuel is enough if it exceeds the length of what is written. -/
theorem readMembers_texts (hlayout : layout.Legible) {es : List (Text × (Text ⊕ List Text))} :
    ∀ {e : Text × (Text ⊕ List Text)} {n : Nat} {c : Cursor},
      (Text.join layout.item ((e :: es).map (writeMember layout))).length < n →
      c.rest = Text.join layout.item ((e :: es).map (writeMember layout)) ++ CodePoint.ofChar '}' :: rest →
        ∃ next, readMembers (n + 1) c = .ok ((e :: es).map fun e => (e.1, ofTexts e.2), ⟨next, rest⟩) := by
  induction es with
  | nil =>
    intro e n c hn h
    obtain ⟨c₁, c₂, c₃, next, hquote, hname, hcolon, hvalue⟩ := exists_parts hlayout hn h
    have hend : (Cursor.skipBlanks ⟨next, CodePoint.ofChar '}' :: rest⟩).rest = CodePoint.ofChar '}' :: rest :=
      Cursor.skipBlanks_of_cons rfl (by decide)
    rw [readMembers]
    simp only [hquote, hname, hcolon, hvalue, Cursor.eat?_of_eq hend, bind, Except.bind]
    exact ⟨_, rfl⟩
  | cons e' es ih =>
    intro e n c hn h
    obtain ⟨tail, htail⟩ := join_map_eq_cons (writeMember_eq_cons layout) layout.item e' es (CodePoint.ofChar '}' :: rest)
    have hsplit : c.rest = writeMember layout e ++ (layout.item ++ CodePoint.ofChar '"' :: tail) := by
      rw [h, ← htail, List.map_cons, List.map_cons, Text.join, List.append_assoc, List.append_assoc]
    -- the fuel for all members is enough for the first one, and for the others with one unit less
    have hlength : (writeMember layout e).length +
        (Text.join layout.item ((e' :: es).map (writeMember layout))).length < n := by
      rw [List.map_cons, List.map_cons, Text.join, List.length_append, List.length_append] at hn
      rw [List.map_cons]
      omega
    have hfirst : (writeMember layout e).length < n := by omega
    obtain ⟨c₁, c₂, c₃, next, hquote, hname, hcolon, hvalue⟩ := exists_parts hlayout hfirst hsplit
    obtain ⟨after, hcomma, hafter, hother⟩ :=
      @Cursor.eat?_mark _ tail '"' ⟨next, _⟩ _ hlayout.item (by decide) rfl (by decide)
    obtain ⟨n, rfl⟩ : ∃ k, n = k + 1 := ⟨n - 1, by omega⟩
    have hshort : (Text.join layout.item ((e' :: es).map (writeMember layout))).length < n := by
      have hmember : 2 ≤ (writeMember layout e).length := by
        simp only [writeMember, writeText_eq, List.length_append, List.length_cons]
        omega
      omega
    obtain ⟨last, hmembers⟩ := ih hshort (hafter.trans htail.symm)
    refine ⟨last, ?_⟩
    rw [readMembers]
    simp only [hquote, hname, hcolon, hvalue, hother '}' (by decide), hcomma, hmembers, bind, Except.bind]
    rfl

/-! ## Objects -/

/-- Behind an opening brace there is an end, or there are members. -/
theorem readValue_brace (h : c.rest = CodePoint.ofChar '{' :: rest) :
    readValue (n + 1) c =
      match (Cursor.skipBlanks ⟨c.position + 1, rest⟩).eat? '}' with
      | some c => .ok (.object [], c)
      | none =>
        (readMembers n (Cursor.skipBlanks ⟨c.position + 1, rest⟩)).map
          fun (members, c) => (ofMap (.ofList members), c) := by
  have hquote : c.eat? '"' = none := Cursor.eat?_of_ne h (by decide)
  rw [readValue]
  cases hclose : (Cursor.skipBlanks ⟨c.position + 1, rest⟩).eat? '}' with
  | some c' => simp only [hquote, Cursor.eat?_of_eq h, hclose]
  | none => simp only [hquote, Cursor.eat?_of_eq h, hclose]

/-- What an object with these members is written as. -/
def objectText (layout : JsonLayout) (es : List (Text × (Text ⊕ List Text))) : Text :=
  CodePoint.ofChar '{' :: (Text.join layout.item (es.map (writeMember layout)) ++ [CodePoint.ofChar '}'])

/-- An object is read as the map whose members it has. -/
theorem readValue_objectText (hlayout : layout.Legible) {m : OrderedMap (Text ⊕ List Text)}
    (h : c.rest = objectText layout m.entries ++ rest) (hn : (objectText layout m.entries).length < n) :
    ∃ next, readValue n c = .ok (ofMap (m.mapValues ofTexts), ⟨next, rest⟩) := by
  rw [objectText] at h hn
  rw [List.cons_append, List.append_assoc, List.singleton_append] at h
  simp only [List.length_cons, List.length_append] at hn
  obtain ⟨n, rfl⟩ : ∃ k, n = k + 2 := ⟨n - 2, by omega⟩
  rw [readValue_brace h]
  cases hentries : m.entries with
  | nil =>
    obtain rfl : m = .empty := OrderedMap.ext hentries
    have hclose : (Cursor.skipBlanks ⟨c.position + 1, CodePoint.ofChar '}' :: rest⟩).rest =
        CodePoint.ofChar '}' :: rest :=
      Cursor.skipBlanks_of_cons rfl (by decide)
    rw [List.map_nil, Text.join, List.nil_append, Cursor.eat?_of_eq hclose]
    exact ⟨_, rfl⟩
  | cons e es =>
    rw [hentries] at hn
    obtain ⟨tail, htail⟩ := join_map_eq_cons (writeMember_eq_cons layout) layout.item e es (CodePoint.ofChar '}' :: rest)
    have hfirst : (Cursor.skipBlanks ⟨c.position + 1, CodePoint.ofChar '"' :: tail⟩).rest =
        CodePoint.ofChar '"' :: tail :=
      Cursor.skipBlanks_of_cons rfl (by decide)
    rw [htail, Cursor.eat?_of_ne hfirst (by decide)]
    have hshort : (Text.join layout.item ((e :: es).map (writeMember layout))).length < n := by omega
    obtain ⟨next, hmembers⟩ := readMembers_texts hlayout hshort (hfirst.trans htail.symm)
    -- the members have distinct names, so no member replaces another
    have hmap : OrderedMap.ofList ((e :: es).map fun e => (e.1, ofTexts e.2)) = m.mapValues ofTexts := by
      rw [← hentries]
      exact (m.mapValues ofTexts).ofList_entries
    refine ⟨next, ?_⟩
    simp only [hmembers]
    show Except.ok (ofMap (.ofList _), _) = _
    rw [hmap]

/-- **What was written is read**, as the same map. -/
theorem read_objectText (hlayout : layout.Legible) (m : OrderedMap (Text ⊕ List Text)) :
    read (objectText layout m.entries) = .ok (ofMap (m.mapValues ofTexts)) := by
  have hstart : (Cursor.skipBlanks ⟨0, objectText layout m.entries⟩).rest = objectText layout m.entries ++ [] := by
    rw [List.append_nil]
    exact Cursor.skipBlanks_of_cons rfl (by decide)
  have hfuel : (objectText layout m.entries).length < 2 * (objectText layout m.entries).length + 2 := by omega
  obtain ⟨next, hvalue⟩ := readValue_objectText hlayout hstart hfuel
  -- no byte order mark, and nothing behind the object
  have hmark : (objectText layout m.entries).head? ≠ some '\uFEFF' := by
    rw [objectText, List.head?_cons]
    decide
  rw [read, if_neg hmark, hvalue]
  rfl

end Json

end LayeredConfig
