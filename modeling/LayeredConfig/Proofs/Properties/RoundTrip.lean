import LayeredConfig.Properties.Writer
import LayeredConfig.Proofs.OrderedMap
import LayeredConfig.Proofs.Properties.Spelling
import LayeredConfig.Proofs.RawValue

/-!
# Reading back what was written

The writer escapes by position and by role: other code points in a key than in a value, and in a value the
blanks at its ends only. The reader knows nothing of this. They meet at `Spells`: what the writer writes is a
sequence of units (`spells_escapeKey`, `spells_escapeValueFrom`), none of which holds a line end, and what the reader
does with such a sequence is known. The rest is about the places where a unit could be mistaken:

* **`isLine_writeEntry`**, **`continues_writeEntry`** — an entry is one physical line, and the next one does
  not continue it.
* **`readEntry_writeEntry`** — the line of an entry is read as this entry.
* **`read_writeLines`** — the text of comments and entries is read as the map of the entries.
* **`read_dump`** — the same for entries of any values that have a text.
-/

namespace LayeredConfig.Properties

/-! ## One code point

The writer turns a code point into one unit: itself, or a backslash and one code point. -/

/-- A backslash and `d` stand for `c`, and do so on one line. -/
structure IsEscape (c d : CodePoint) : Prop where
  ne_u : d ≠ 'u'
  escaped_eq : escaped d = c
  isLine : IsLine [d]

/-- A code point is escaped everywhere, or it is neither the backslash nor a control that ends a line or
counts as a blank. -/
theorem controlEscape?_cases (c : CodePoint) :
    (∃ d, controlEscape? c = some [CodePoint.ofChar '\\', d] ∧ IsEscape c d) ∨
      (controlEscape? c = none ∧ c ≠ '\\' ∧ IsLine [c] ∧ c ≠ '\t' ∧ c ≠ '\x0C') := by
  by_cases h₁ : c = '\\'
  · subst h₁
    exact .inl ⟨'\\', rfl, by decide, by decide, by decide⟩
  by_cases h₂ : c = '\t'
  · subst h₂
    exact .inl ⟨'t', rfl, by decide, by decide, by decide⟩
  by_cases h₃ : c = '\n'
  · subst h₃
    exact .inl ⟨'n', rfl, by decide, by decide, by decide⟩
  by_cases h₄ : c = '\r'
  · subst h₄
    exact .inl ⟨'r', rfl, by decide, by decide, by decide⟩
  by_cases h₅ : c = '\x0C'
  · subst h₅
    exact .inl ⟨'f', rfl, by decide, by decide, by decide⟩
  -- none of the five
  refine .inr ⟨?_, h₁, isLine_cons.mpr ⟨⟨h₃, h₄⟩, isLine_nil⟩, h₂, h₅⟩
  rw [controlEscape?, if_neg h₁, if_neg h₂, if_neg h₃, if_neg h₄, if_neg h₅]

/-- The marks of a key stand for themselves behind a backslash. -/
theorem isEscape_self {c : CodePoint} (h : isKeyMark c = true) : IsEscape c c := by
  simp only [isKeyMark, Bool.or_eq_true, decide_eq_true_eq] at h
  rcases h with (((rfl | rfl) | rfl) | rfl) | rfl
  all_goals exact ⟨by decide, by decide, by decide⟩

/-- One code point of a key: behind a backslash, or by itself, and then it is nothing that a reader of keys
takes for something else. -/
theorem escapeInKey_cases (c : CodePoint) :
    (∃ d, escapeInKey c = [CodePoint.ofChar '\\', d] ∧ IsEscape c d) ∨
      (escapeInKey c = [c] ∧ KeyBare c ∧ IsLine [c] ∧ isSkipped [c] = false) := by
  rcases controlEscape?_cases c with ⟨d, hd, hesc⟩ | ⟨hnone, hne, hline, htab, hff⟩
  · exact .inl ⟨d, by rw [escapeInKey, hd], hesc⟩
  · cases hmark : isKeyMark c with
    | true => exact .inl ⟨c, by simp only [escapeInKey, hnone, hmark, if_true], isEscape_self hmark⟩
    | false =>
      refine .inr ⟨by simp only [escapeInKey, hnone, hmark, Bool.false_eq_true, if_false], ?_⟩
      simp only [isKeyMark, Bool.or_eq_false_iff, decide_eq_false_iff_not] at hmark
      obtain ⟨⟨⟨⟨hsp, heq⟩, hcol⟩, hhash⟩, hbang⟩ := hmark
      refine ⟨⟨hne, ?_, ?_⟩, hline, ?_⟩
      · simp only [isSeparator, heq, hcol, decide_false, Bool.or_self]
      · simp only [isBlank, hsp, htab, hff, decide_false, Bool.or_self]
      · simp only [isSkipped, hhash, hbang, decide_false, Bool.or_self]

/-- One code point of a value: behind a backslash, or by itself, and then it is no blank where one would be
dropped. -/
theorem escapeInValue_cases (first last : Bool) (c : CodePoint) :
    (∃ d, escapeInValue first last c = [CodePoint.ofChar '\\', d] ∧ IsEscape c d) ∨
      (escapeInValue first last c = [c] ∧ ValueBare c ∧ IsLine [c] ∧
        ((first || last) = true → isBlank c = false)) := by
  rcases controlEscape?_cases c with ⟨d, hd, hesc⟩ | ⟨hnone, hne, hline, htab, hff⟩
  · exact .inl ⟨d, by rw [escapeInValue, hd], hesc⟩
  · -- without a letter of its own it is escaped only where a reader would drop it or skip the line
    by_cases hsp : (decide (c = CodePoint.ofChar ' ') && (first || last)) = true
    · refine .inl ⟨c, by simp only [escapeInValue, hnone, hsp, if_true], isEscape_self ?_⟩
      have hc : c = ' ' := by simpa using (Bool.and_eq_true_iff.mp hsp).1
      rw [hc]
      rfl
    by_cases hmark :
        ((decide (c = CodePoint.ofChar '#') || decide (c = CodePoint.ofChar '!')) && first) = true
    · refine .inl ⟨c, by simp only [escapeInValue, hnone, hsp, hmark, if_true, Bool.false_eq_true,
        if_false], isEscape_self ?_⟩
      have hc : c = '#' ∨ c = '!' := by simpa using (Bool.and_eq_true_iff.mp hmark).1
      rcases hc with rfl | rfl
      all_goals rfl
    · refine .inr ⟨by simp only [escapeInValue, hnone, hsp, hmark, Bool.false_eq_true, if_false],
        hne, hline, fun hends => ?_⟩
      have hc : c ≠ ' ' := by simpa [hends] using hsp
      simp only [isBlank, hc, htab, hff, decide_false, Bool.or_self]

/-! ## Keys and values -/

/-- An escape is one unit. -/
theorem IsEscape.spells {bare : CodePoint → Prop} {c d : CodePoint} (h : IsEscape c d) :
    Spells bare [CodePoint.ofChar '\\', d] [c] := by
  have := @Spells.escape bare d [] [] h.ne_u .nil
  rwa [h.escaped_eq] at this

theorem IsEscape.isLine_escape {c d : CodePoint} (h : IsEscape c d) :
    IsLine [CodePoint.ofChar '\\', d] :=
  isLine_cons.mpr ⟨by decide, h.isLine⟩

/-- In a key each code point is written as one unit, without a line end. -/
theorem spells_escapeInKey (c : CodePoint) :
    Spells KeyBare (escapeInKey c) [c] ∧ IsLine (escapeInKey c) := by
  rcases escapeInKey_cases c with ⟨d, hd, hesc⟩ | ⟨heq, hbare, hline, -⟩
  · rw [hd]
    exact ⟨hesc.spells, hesc.isLine_escape⟩
  · rw [heq]
    exact ⟨.plain hbare .nil, hline⟩

/-- In a value each code point is written as one unit, wherever it stands. -/
theorem spells_escapeInValue (first last : Bool) (c : CodePoint) :
    Spells ValueBare (escapeInValue first last c) [c] ∧ IsLine (escapeInValue first last c) := by
  rcases escapeInValue_cases first last c with ⟨d, hd, hesc⟩ | ⟨heq, hbare, hline, -⟩
  · rw [hd]
    exact ⟨hesc.spells, hesc.isLine_escape⟩
  · rw [heq]
    exact ⟨.plain hbare .nil, hline⟩

/-- **A written key spells the key.** -/
theorem spells_escapeKey (key : Text) : Spells KeyBare (escapeKey key) key := by
  induction key with
  | nil => exact .nil
  | cons c rest ih => exact (spells_escapeInKey c).1.append ih

theorem isLine_escapeKey (key : Text) : IsLine (escapeKey key) := by
  induction key with
  | nil => exact isLine_nil
  | cons c rest ih => exact isLine_append.mpr ⟨(spells_escapeInKey c).2, ih⟩

/-- **A written value spells the value**, wherever its rest starts. -/
theorem spells_escapeValueFrom (value : Text) :
    ∀ first, Spells ValueBare (escapeValueFrom first value) value := by
  induction value with
  | nil => exact fun _ => .nil
  | cons c rest ih => exact fun first => (spells_escapeInValue first _ c).1.append (ih false)

theorem isLine_escapeValueFrom (value : Text) :
    ∀ first, IsLine (escapeValueFrom first value) := by
  induction value with
  | nil => exact fun _ => isLine_nil
  | cons c rest ih =>
    exact fun first => isLine_append.mpr ⟨(spells_escapeInValue first _ c).2, ih false⟩

/-- A written value starts with no blank that a reader drops. -/
theorem dropWhile_escapeValue (value : Text) :
    (escapeValue value).dropWhile isBlank = escapeValue value := by
  cases value with
  | nil => rfl
  | cons c rest =>
    rw [escapeValue, escapeValueFrom]
    rcases escapeInValue_cases true rest.isEmpty c with ⟨d, hd, -⟩ | ⟨heq, -, -, hblank⟩
    · rw [hd]
      rfl
    · rw [heq, List.singleton_append, List.dropWhile_cons, hblank (Bool.true_or _), if_neg (by decide)]

/-- A written value ends in no blank that a reader drops, whatever complete units stand before it. -/
theorem trimEnd_escapeValueFrom (value : Text) :
    ∀ (first : Bool) (before : Text), continues before = false → value ≠ [] →
      trimEnd (before ++ escapeValueFrom first value) = before ++ escapeValueFrom first value := by
  induction value with
  | nil => exact fun _ _ _ hne => absurd rfl hne
  | cons c rest ih =>
    intro first before hbefore _
    cases rest with
    | nil =>
      -- the last code point: a blank is escaped here, and no backslash before it spoils the escape
      have hone : escapeValueFrom first [c] = escapeInValue first true c := List.append_nil _
      rw [hone]
      rcases escapeInValue_cases first true c with ⟨d, hd, -⟩ | ⟨heq, -, -, hblank⟩
      · rw [hd, trimEnd_concat_escape hbefore]
      · rw [heq, trimEnd_concat_bare before (hblank (Bool.or_true _))]
    | cons c' rest' =>
      -- any other one: its unit joins what is written already
      have hunit := continues_of_spells (spells_escapeInValue first (c' :: rest').isEmpty c).1
      have := ih false (before ++ escapeInValue first (c' :: rest').isEmpty c)
        (by rw [continues_append hbefore, hunit]) (List.cons_ne_nil c' rest')
      rw [escapeValueFrom, ← List.append_assoc]
      exact this

theorem trimEnd_escapeValue (value : Text) : trimEnd (escapeValue value) = escapeValue value := by
  by_cases h : value = []
  · rw [h]
    rfl
  · exact trimEnd_escapeValueFrom value true [] rfl h

/-! ## Entries -/

/-- What a written key starts with: no blank and no mark of a comment. -/
theorem escapeKey_eq_cons {key : Text} (h : key ≠ []) :
    ∃ c tail, escapeKey key = c :: tail ∧ isBlank c = false ∧ ∀ rest, isSkipped (c :: rest) = false := by
  obtain ⟨c, rest, rfl⟩ := List.exists_cons_of_ne_nil h
  rcases escapeInKey_cases c with ⟨d, hd, -⟩ | ⟨heq, hbare, -, hskip⟩
  · exact ⟨'\\', d :: escapeKey rest, by rw [escapeKey, List.flatMap_cons, hd]; rfl, rfl, fun _ => rfl⟩
  · exact ⟨c, escapeKey rest, by rw [escapeKey, List.flatMap_cons, heq]; rfl, hbare.2.2, fun _ => hskip⟩

/-- The line of an entry, cut at its equals sign. -/
theorem writeEntry_eq (key value : Text) :
    writeEntry (key, value) = escapeKey key ++ (CodePoint.ofChar '=' :: escapeValue value) := by
  rw [writeEntry, List.append_assoc]
  rfl

/-- **An entry is one physical line.** -/
theorem isLine_writeEntry (key value : Text) : IsLine (writeEntry (key, value)) := by
  rw [writeEntry_eq]
  exact isLine_append.mpr ⟨isLine_escapeKey key,
    isLine_cons.mpr ⟨by decide, isLine_escapeValueFrom value true⟩⟩

/-- **The line after an entry does not continue it**, even if the value ends in backslashes. -/
theorem continues_writeEntry (key value : Text) : continues (writeEntry (key, value)) = false := by
  rw [writeEntry_eq]
  have hvalue : Spells ValueBare (CodePoint.ofChar '=' :: escapeValue value) (CodePoint.ofChar '=' :: value) :=
    .plain (by unfold ValueBare; decide) (spells_escapeValueFrom value true)
  exact continues_of_spells ((spells_escapeKey key).valueBare.append hvalue)

/-- The line of an entry starts with its key, so it is neither blank nor a comment. -/
theorem writeEntry_starts {key : Text} (h : key ≠ []) (value : Text) :
    (writeEntry (key, value)).dropWhile isBlank = writeEntry (key, value) ∧
      isSkipped (writeEntry (key, value)) = false := by
  obtain ⟨c, tail, hkey, hblank, hskip⟩ := escapeKey_eq_cons h
  rw [writeEntry_eq, hkey, List.cons_append]
  refine ⟨?_, hskip _⟩
  rw [List.dropWhile_cons, hblank, if_neg (by decide)]

/-- The line of an entry falls apart where it was put together. -/
theorem splitEntry_writeEntry (key value : Text) :
    splitEntry (writeEntry (key, value)) = (escapeKey key, escapeValue value) := by
  -- the equals sign ends the key, and behind it no blank is dropped
  have hends : EndsKey (CodePoint.ofChar '=' :: escapeValue value) :=
    .inr ⟨'=', escapeValue value, rfl, by decide, rfl⟩
  have hdrop : dropSeparator (CodePoint.ofChar '=' :: escapeValue value) = escapeValue value := by
    have hblank : (CodePoint.ofChar '=' :: escapeValue value).dropWhile isBlank =
        CodePoint.ofChar '=' :: escapeValue value := rfl
    rw [dropSeparator, hblank]
    show (escapeValue value).dropWhile isBlank = escapeValue value
    exact dropWhile_escapeValue value
  rw [splitEntry, writeEntry_eq, splitKey_of_spells (spells_escapeKey key) hends]
  simp only [hdrop]

/-- **The line of an entry is read as this entry.** -/
theorem readEntry_writeEntry {key : Text} (h : key ≠ []) (value : Text) (number : Nat) :
    readEntry ⟨number, writeEntry (key, value)⟩ = .ok (key, value) := by
  obtain ⟨c, rest, rfl⟩ := List.exists_cons_of_ne_nil h
  have hkey := unescape_of_spells (spells_escapeKey (c :: rest)).valueBare
  have hvalue := unescape_of_spells (spells_escapeValueFrom value true)
  rw [← escapeValue] at hvalue
  rw [readEntry]
  simp only [splitEntry_writeEntry, hkey, trimEnd_escapeValue, hvalue]

/-! ## Whole texts -/

/-- Lines of entries are read in order, after any map read so far and at any line number. -/
theorem readLines_writeEntry {entries : List (Text × Text)} (h : ∀ e ∈ entries, e.1 ≠ []) :
    ∀ (m : OrderedMap Text) (number : Nat),
      readLines m (logicalLines none number (entries.map writeEntry ++ [[]])) =
        .ok (m.putAll entries) := by
  induction entries with
  -- the empty line at the end gives nothing
  | nil => exact fun _ _ => rfl
  | cons e rest ih =>
    obtain ⟨key, value⟩ := e
    intro m number
    have hkey : key ≠ [] := h (key, value) List.mem_cons_self
    obtain ⟨hblank, hskip⟩ := writeEntry_starts hkey value
    rw [List.map_cons, List.cons_append,
      logicalLines_whole hblank hskip (continues_writeEntry key value), readLines,
      readEntry_writeEntry hkey value number]
    exact ih (fun e he => h e (List.mem_cons_of_mem _ he)) (m.put key value) (number + 1)

/-- A comment is skipped. -/
theorem isSkipped_writeComment (comment : Text) :
    isSkipped ((writeComment comment).dropWhile isBlank) = true := rfl

theorem isLine_writeComment {comment : Text} (h : IsLine comment) : IsLine (writeComment comment) :=
  isLine_append.mpr ⟨by decide, h⟩

/-- **The text of comments and entries is read as the map of the entries.** -/
theorem read_writeLines {entries : List (Text × Text)} {header : List Text}
    (hkeys : ∀ e ∈ entries, e.1 ≠ []) (hheader : ∀ comment ∈ header, IsLine comment) :
    read (writeLines entries header) = .ok (OrderedMap.ofList entries) := by
  have hlines : ∀ t ∈ header.map writeComment ++ entries.map writeEntry, IsLine t := by
    intro t ht
    rcases List.mem_append.mp ht with ht | ht
    · obtain ⟨comment, hcomment, rfl⟩ := List.mem_map.mp ht
      exact isLine_writeComment (hheader comment hcomment)
    · obtain ⟨⟨key, value⟩, -, rfl⟩ := List.mem_map.mp ht
      exact isLine_writeEntry key value
  have hskip : ∀ t ∈ header.map writeComment, isSkipped (t.dropWhile isBlank) = true := by
    intro t ht
    obtain ⟨comment, -, rfl⟩ := List.mem_map.mp ht
    exact isSkipped_writeComment comment
  rw [read, linesOf, writeLines, physicalLines_join hlines]
  cases hempty : (header.map writeComment ++ entries.map writeEntry).isEmpty with
  | true =>
    -- neither comments nor entries: the text is one line feed
    obtain ⟨-, hentries⟩ := List.append_eq_nil_iff.mp (List.isEmpty_iff.mp hempty)
    rw [List.map_eq_nil_iff.mp hentries]
    rfl
  | false =>
    rw [if_neg (by decide), List.append_assoc, logicalLines_skip_append hskip]
    exact readLines_writeEntry hkeys .empty _

/-- **Reading back a written map.** -/
theorem read_write {m : OrderedMap Text} {header : List Text} (hkeys : ∀ key ∈ m.keys, key ≠ [])
    (hheader : ∀ comment ∈ header, IsLine comment) : read (write m header) = .ok m := by
  rw [write, read_writeLines (fun e he => hkeys e.1 (List.mem_map_of_mem he)) hheader,
    OrderedMap.ofList_entries]

/-! ## Entries of any values -/

/-- What can be written at a key: no value, a text, or texts. -/
inductive Presentable : Value → Prop where
  | null : Presentable .null
  | text (t : Text) : Presentable (.text t)
  | list (items : List Text) : Presentable (.list (items.map Value.text))

/-- What can be written has a text, or counts as the empty one. -/
theorem Presentable.decode {v : Value} (h : Presentable v) : ∃ shown, v.decode = .ok shown := by
  cases h with
  | null => exact ⟨none, rfl⟩
  | text t => exact ⟨some t, rfl⟩
  | list items => exact ⟨some (Text.join "," items), by rw [Value.decode, Value.mapM_text?]⟩

/-- Entries whose values have texts are presented by these; no value counts as the empty text. -/
theorem presentAll_eq {present : Value → Text} {entries : List (Text × Value)}
    (h : ∀ e ∈ entries, ∃ shown, e.2.decode = .ok shown ∧ present e.2 = shown.getD []) :
    presentAll entries = .ok (entries.map fun e => (e.1, present e.2)) := by
  induction entries with
  | nil => rfl
  | cons e rest ih =>
    obtain ⟨key, v⟩ := e
    obtain ⟨shown, hdecode, hpresent⟩ := h (key, v) List.mem_cons_self
    have ih := ih fun e he => h e (List.mem_cons_of_mem _ he)
    rw [presentAll] at ih ⊢
    simp only [List.mapM_cons, hdecode, ih, hpresent, List.map_cons]
    rfl

/-- A map whose values have texts is written as the map of these texts. -/
theorem dump_eq_write {present : Value → Text} {m : OrderedMap Value}
    (h : ∀ e ∈ m.entries, ∃ shown, e.2.decode = .ok shown ∧ present e.2 = shown.getD [])
    (header : List Text) : dump m header = .ok (write (m.mapValues present) header) := by
  rw [dump, presentAll_eq h]
  rfl

/-- The text under which a value is written. -/
def presented (v : Value) : Text :=
  match v.decode with
  | .ok shown => shown.getD []
  | .error _ => []

/-- **The round trip.** A map with keys that are not empty and values that have a text is written, under comments
on one line each, as a text that is read as a map with the same keys in the same order; at each key stands the
text of the value there, or the empty text where there is no value. -/
theorem read_dump (entries : OrderedMap Value) (header : List Text)
    (hkeys : ∀ key ∈ entries.keys, key ≠ []) (hvalues : ∀ e ∈ entries.entries, Presentable e.2)
    (hheader : ∀ comment ∈ header, IsLine comment) :
    ∃ t m, dump entries header = .ok t ∧ read t = .ok m ∧ m.keys = entries.keys ∧
      ∀ key v, entries.get? key = some v →
        ∃ shown, v.decode = .ok shown ∧ m.get? key = some (shown.getD []) := by
  have hpresent : ∀ e ∈ entries.entries,
      ∃ shown, e.2.decode = .ok shown ∧ presented e.2 = shown.getD [] := by
    intro e he
    obtain ⟨shown, hdecode⟩ := (hvalues e he).decode
    exact ⟨shown, hdecode, by rw [presented, hdecode]⟩
  refine ⟨_, entries.mapValues presented, dump_eq_write hpresent header, ?_,
    OrderedMap.keys_mapValues presented entries, fun key v hget => ?_⟩
  · exact read_write (by rwa [OrderedMap.keys_mapValues]) hheader
  · obtain ⟨shown, hdecode, hshown⟩ := hpresent _ (OrderedMap.get?_eq_some_iff.mp hget)
    exact ⟨shown, hdecode, by rw [OrderedMap.get?_mapValues, hget, Option.map_some, hshown]⟩

/-- Keys and values made of what the format is made of: a key of a comment mark, a separator and a blank, a value
that ends in a backslash, an item with a line end and one that is a blank, no value at all, and a comment that
ends in a backslash. -/
theorem read_dump_of_marks :
    ∃ t m, dump ⟨[("#= ", .text " \\"), ("\\u", .list [.text "\r\n", .text " "]), (":", .null)], by decide⟩
        ["\\"] = .ok t ∧
      read t = .ok m ∧ m.keys = (["#= ", "\\u", ":"] : List Text) ∧
      m.get? "\\u" = some (Text.ofString "\r\n, ") := by
  obtain ⟨t, m, hdump, hread, hkeys, hget⟩ := read_dump
    ⟨[("#= ", .text " \\"), ("\\u", .list [.text "\r\n", .text " "]), (":", .null)], by decide⟩ ["\\"]
    (by decide)
    (by
      intro e he
      simp only [List.mem_cons, List.not_mem_nil, or_false] at he
      rcases he with rfl | rfl | rfl
      · exact .text _
      · exact .list ["\r\n", " "]
      · exact .null)
    (by decide)
  obtain ⟨shown, hdecode, hshown⟩ := hget "\\u" _ rfl
  refine ⟨t, m, hdump, hread, hkeys, ?_⟩
  rw [hshown, ← Except.ok.inj hdecode]
  rfl

end LayeredConfig.Properties
