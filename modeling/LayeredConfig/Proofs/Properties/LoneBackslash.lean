import LayeredConfig.Proofs.Properties.Spelling
import Mathlib.Data.List.Induction

/-!
# No backslash stands alone

Unescaping drops a backslash that has nothing behind it. It never meets one. A physical line that ends in such a
backslash asks for more, and joining takes the backslash away, at the end of the text as anywhere else; and a logical
line is cut between units only. One fact is carried through all of this: a text does not ask for more, which is to say
that it ends in an even number of backslashes (`continues_eq_false_iff`).

* **`continues_of_mem_logicalLines`** — a logical line does not ask for more, however many lines it is joined from.
* **`continues_splitKey`**, **`continues_dropSeparator`**, **`continues_trimEnd`** — nor do its key and its value.
* **`reads_or_remains`** — unescaping reads units to the end, or up to a malformed escape, or until nothing but a
  backslash is left; the last does not happen to a text that does not ask for more.
* **`no_lone_backslash`** — so what a logical line is read as is told by units alone.
-/

namespace LayeredConfig.Properties

/-! ## Backslashes at the end -/

/-- The number of backslashes at the end of a text. -/
def backslashesAtEnd (t : Text) : Nat :=
  (t.reverse.takeWhile (· = CodePoint.ofChar '\\')).length

/-- The reader counts by parity what is counted here by number. -/
theorem startsWithOddBackslashes_eq (t : Text) :
    startsWithOddBackslashes t = decide ((t.takeWhile (· = CodePoint.ofChar '\\')).length % 2 = 1) := by
  induction t with
  | nil => rfl
  | cons c rest ih =>
    rw [startsWithOddBackslashes, List.takeWhile_cons]
    by_cases hc : c = CodePoint.ofChar '\\'
    · rw [if_pos hc, if_pos (decide_eq_true hc), List.length_cons, ih, ← decide_not]
      refine decide_eq_decide.mpr ?_
      omega
    · rw [if_neg hc, if_neg (by simpa using hc)]
      rfl

/-- A text does not ask for more exactly if the backslashes at its end are even in number. -/
theorem continues_eq_false_iff {t : Text} : continues t = false ↔ backslashesAtEnd t % 2 = 0 := by
  unfold continues backslashesAtEnd
  rw [startsWithOddBackslashes_eq, decide_eq_false_iff_not]
  omega

/-! ## Logical lines -/

/-- **Logical lines do not ask for more**, if the line that has begun does not: its last backslash is gone. -/
theorem continues_of_mem_logicalLines (lines : List Text) :
    ∀ (pending : Option LogicalLine) (n : Nat), (∀ begun ∈ pending, continues begun.text = false) →
      ∀ line ∈ logicalLines pending n lines, continues line.text = false := by
  induction lines with
  | nil =>
    -- at the end of the text, the line that has begun is whole
    intro pending n hpending line hline
    exact hpending line (Option.mem_toList.mp hline)
  | cons physical lines ih =>
    intro pending n hpending
    have hnone := ih none (n + 1) (by simp)
    cases pending with
    | none =>
      rw [logicalLines]
      split
      · -- a comment may end as it likes
        exact hnone
      · split
        · rename_i hcont
          apply ih
          rintro _ ⟨⟩
          exact continues_dropLast hcont
        · rename_i hcont
          exact List.forall_mem_cons.mpr ⟨eq_false_of_ne_true hcont, hnone⟩
    | some begun =>
      -- a piece is added to complete escapes, so it decides by itself
      have happend := continues_append (hpending begun rfl)
      rw [logicalLines]
      split
      · rename_i hcont
        apply ih
        rintro _ ⟨⟩
        show continues (begun.text ++ _) = false
        rw [happend, continues_dropLast hcont]
      · rename_i hcont
        refine List.forall_mem_cons.mpr ⟨?_, hnone⟩
        show continues (begun.text ++ _) = false
        rw [happend, eq_false_of_ne_true hcont]

/-! ## What is cut from a logical line -/

/-- **A key is cut off between units**: neither it nor what follows asks for more. -/
theorem continues_splitKey {line : Text} (h : continues line = false) :
    continues (splitKey line).1 = false ∧ continues (splitKey line).2 = false := by
  fun_induction splitKey line with
  | case1 => exact ⟨rfl, rfl⟩
  | case2 =>
    -- a backslash alone would ask for more
    cases h
  | case3 d tail key after hsplit ih =>
    -- whatever a backslash escapes goes with it, a separator as well
    rw [continues_cons_escape] at h
    rw [hsplit] at ih
    rw [continues_cons_escape]
    exact ih h
  | case4 => exact ⟨rfl, h⟩
  | case5 c rest hc _ key after hsplit ih =>
    rw [continues_cons hc] at h
    rw [hsplit] at ih
    rw [continues_cons hc]
    exact ih h

/-- Neither a separator nor the blanks around it are backslashes. -/
theorem continues_dropSeparator (t : Text) : continues (dropSeparator t) = continues t := by
  rw [dropSeparator, ← continues_dropWhile t]
  cases t.dropWhile isBlank with
  | nil => rfl
  | cons c rest =>
    show continues (if isSeparator c = true then rest.dropWhile isBlank else c :: rest) = _
    split
    · rename_i hc
      have hne : c ≠ '\\' := by
        rintro rfl
        exact absurd hc (by decide)
      rw [continues_dropWhile, continues_cons hne]
    · rfl

/-- **Trimming stops between units**: a blank goes only where no backslash escapes it. -/
theorem continues_trimEnd {t : Text} (h : continues t = false) : continues (trimEnd t) = false := by
  induction t using List.reverseRecOn with
  | nil => exact h
  | append_singleton t c ih =>
    rw [trimEnd_concat]
    split
    · rename_i hblank
      have hescaped : continues t = false := by simpa using (Bool.and_eq_true_iff.mp hblank).2
      exact ih hescaped
    · exact h

/-- Both parts of a logical line are cut between units. -/
theorem continues_splitEntry {line : Text} (h : continues line = false) :
    continues (splitEntry line).1 = false ∧ continues (trimEnd (splitEntry line).2) = false := by
  obtain ⟨hkey, hrest⟩ := continues_splitKey h
  refine ⟨hkey, continues_trimEnd ?_⟩
  show continues (dropSeparator (splitKey line).2) = false
  rw [continues_dropSeparator, hrest]

/-! ## Reading by units -/

/-- What stands where four hexadecimal digits should: too little, or something else among it. -/
def Malformed (digits : Text) : Prop :=
  digits.length ≠ 4 ∨ ∃ d ∈ digits, d.hexValue? = none

/-- An escaped text is read from left to right by units: all of it, or up to a malformed escape. -/
inductive Reads (raw : Text) : Except Text Text → Prop where
  | whole {t : Text} (h : Spells ValueBare raw t) : Reads raw (.ok t)
  | malformed {before t rest : Text}
      (hraw : raw = before ++ (CodePoint.ofChar '\\' :: CodePoint.ofChar 'u' :: rest))
      (hbefore : Spells ValueBare before t) (hrest : Malformed (rest.take 4)) : Reads raw (.error (rest.take 4))

/-- Unescaping `raw` comes to `rest`: all before it are complete units (see `unescape_append_of_spells`). -/
def Remains (raw rest : Text) : Prop :=
  ∃ before t, raw = before ++ rest ∧ Spells ValueBare before t

/-- A hexadecimal digit is below 16. -/
theorem hexValue?_lt {c : CodePoint} {n : Nat} (h : c.hexValue? = some n) : n < 16 := by
  unfold CodePoint.hexValue? at h
  split_ifs at h
  all_goals
    obtain rfl := Option.some.inj h
    omega

/-- Four code points name one exactly if they are all digits. -/
theorem ofHex?_eq_none_iff {a b c d : CodePoint} :
    CodePoint.ofHex? a b c d = none ↔ Malformed [a, b, c, d] := by
  constructor
  · -- four digits name a code point: their number is below `0x10000`
    intro hnone
    by_contra hwell
    simp only [Malformed, not_or, not_exists, not_and, List.forall_mem_cons, ← ne_eq,
      Option.ne_none_iff_exists'] at hwell
    obtain ⟨-, ⟨a', ha⟩, ⟨b', hb⟩, ⟨c', hc⟩, ⟨d', hd⟩, -⟩ := hwell
    have ha' := hexValue?_lt ha
    have hb' := hexValue?_lt hb
    have hc' := hexValue?_lt hc
    have hd' := hexValue?_lt hd
    have hlt : ((a' * 16 + b') * 16 + c') * 16 + d' < 0x110000 := by omega
    simp only [CodePoint.ofHex?, ha, hb, hc, hd, Option.bind_eq_bind, Option.bind_some, CodePoint.ofNat?,
      dif_pos hlt] at hnone
    cases hnone
  · rintro (hlength | ⟨e, he, hnone⟩)
    · exact absurd rfl hlength
    · simp only [List.mem_cons, List.not_mem_nil, or_false] at he
      unfold CodePoint.ofHex?
      rcases he with rfl | rfl | rfl | rfl
      all_goals simp [hnone]

/-- A malformed escape is an error with what stands in the place of the digits. -/
theorem unescape_malformed {rest : Text} (h : Malformed (rest.take 4)) :
    unescape (CodePoint.ofChar '\\' :: CodePoint.ofChar 'u' :: rest) = .error (rest.take 4) := by
  -- the text ends too early, or four code points are there and one of them is no digit
  rcases rest with _ | ⟨a, _ | ⟨b, _ | ⟨c, _ | ⟨d, rest⟩⟩⟩⟩
  · rfl
  · rfl
  · rfl
  · rfl
  · have hnone : CodePoint.ofHex? a b c d = none := ofHex?_eq_none_iff.mpr h
    rw [unescape.eq_def]
    simp only [if_true, hnone]
    rfl

/-- **There is one reading**, and it is what unescaping gives. -/
theorem Reads.unescape_eq {raw : Text} {answer : Except Text Text} (h : Reads raw answer) :
    unescape raw = answer := by
  cases h with
  | whole h => exact unescape_of_spells h
  | malformed hraw hbefore hrest =>
    rw [hraw, unescape_append_of_spells hbefore, unescape_malformed hrest]
    rfl

section unit

variable {unit raw rest : Text} {x : CodePoint}

/-- A unit before what is read is read as well. -/
theorem Reads.append_unit (hunit : Spells ValueBare unit [x]) {answer : Except Text Text} (h : Reads raw answer) :
    Reads (unit ++ raw) (answer.map (x :: ·)) := by
  cases h with
  | whole h => exact .whole (hunit.append h)
  | malformed hraw hbefore hrest => exact .malformed (by rw [hraw, List.append_assoc]) (hunit.append hbefore) hrest

/-- A unit before what is left does not help. -/
theorem Remains.append_unit (hunit : Spells ValueBare unit [x]) (h : Remains raw rest) :
    Remains (unit ++ raw) rest := by
  obtain ⟨before, t, hraw, hbefore⟩ := h
  exact ⟨unit ++ before, _, by rw [hraw, List.append_assoc], hunit.append hbefore⟩

end unit

/-- **What unescaping meets**: units to the end of the text, or a malformed escape behind units, or a backslash that
is all that is left. -/
theorem reads_or_remains (raw : Text) :
    Reads raw (unescape raw) ∨ Remains raw [CodePoint.ofChar '\\'] := by
  have hstep {unit raw : Text} {x : CodePoint} (hunit : Spells ValueBare unit [x])
      (h : Reads raw (unescape raw) ∨ Remains raw [CodePoint.ofChar '\\']) :
      Reads (unit ++ raw) ((unescape raw).map (x :: ·)) ∨ Remains (unit ++ raw) [CodePoint.ofChar '\\'] :=
    h.imp (.append_unit hunit) (.append_unit hunit)
  fun_induction unescape raw with
  | case1 => exact .inl (.whole .nil)
  | case2 => exact .inr ⟨[], [], rfl, .nil⟩
  | case3 h₁ h₂ h₃ h₄ rest x hx ih => exact hstep (.unicode hx .nil) ih
  | case4 h₁ h₂ h₃ h₄ rest hx =>
    have hmalformed : Malformed [h₁, h₂, h₃, h₄] := ofHex?_eq_none_iff.mp hx
    exact .inl (@Reads.malformed _ [] [] (h₁ :: h₂ :: h₃ :: h₄ :: rest) rfl .nil hmalformed)
  | case5 short hshort =>
    -- fewer than four code points are left
    have hlength : short.length < 4 := by
      rcases short with _ | ⟨a, _ | ⟨b, _ | ⟨c, _ | ⟨d, rest⟩⟩⟩⟩
      case cons.cons.cons.cons => exact (hshort a b c d rest rfl).elim
      all_goals simp
    have htake : short.take 4 = short := List.take_of_length_le (by omega)
    have hreads := @Reads.malformed _ [] [] short rfl .nil (.inl (by rw [htake]; omega))
    rw [htake] at hreads
    exact .inl hreads
  | case6 d rest hd ih => exact hstep (.escape hd .nil) ih
  | case7 c rest hc ih => exact hstep (.plain hc .nil) ih

/-- Where a backslash does stand alone, nothing comes of it. -/
example : unescape "a\\" = .ok "a" := by decide

/-- With a backslash alone behind units, a text asks for more. -/
theorem Remains.continues_eq {raw : Text} (h : Remains raw [CodePoint.ofChar '\\']) : continues raw = true := by
  obtain ⟨before, t, rfl, hbefore⟩ := h
  rw [continues_append (continues_of_spells hbefore)]
  rfl

/-- A text that does not ask for more never comes down to a backslash alone. -/
theorem not_remains {raw : Text} (h : continues raw = false) : ¬ Remains raw [CodePoint.ofChar '\\'] := by
  intro hremains
  rw [hremains.continues_eq] at h
  cases h

/-- A text that does not ask for more is read by units. -/
theorem reads_unescape {raw : Text} (h : continues raw = false) : Reads raw (unescape raw) :=
  (reads_or_remains raw).resolve_right (not_remains h)

/-! ## Entries -/

/-- What a logical line is read as, told by what its key and its value are read as. -/
inductive ReadsEntry (line : LogicalLine) : Except ReadError (Text × Text) → Prop where
  | malformedKey {digits : Text} (hkey : Reads (splitEntry line.text).1 (.error digits)) :
      ReadsEntry line (.error ⟨.malformedEscape digits, line.number⟩)
  | missingKey (hkey : Reads (splitEntry line.text).1 (.ok [])) :
      ReadsEntry line (.error ⟨.missingKey, line.number⟩)
  | malformedValue {key digits : Text} (hkey : Reads (splitEntry line.text).1 (.ok key)) (hne : key ≠ [])
      (hvalue : Reads (trimEnd (splitEntry line.text).2) (.error digits)) :
      ReadsEntry line (.error ⟨.malformedEscape digits, line.number⟩)
  | entry {key value : Text} (hkey : Reads (splitEntry line.text).1 (.ok key)) (hne : key ≠ [])
      (hvalue : Reads (trimEnd (splitEntry line.text).2) (.ok value)) : ReadsEntry line (.ok (key, value))

/-- What is told by units is what the reader answers. -/
theorem ReadsEntry.readEntry_eq {line : LogicalLine} {answer : Except ReadError (Text × Text)}
    (h : ReadsEntry line answer) : readEntry line = answer := by
  unfold readEntry
  cases h with
  | malformedKey hkey => simp only [hkey.unescape_eq]
  | missingKey hkey => simp only [hkey.unescape_eq]
  | malformedValue hkey hne hvalue =>
    obtain ⟨c, rest, rfl⟩ := List.exists_cons_of_ne_nil hne
    simp only [hkey.unescape_eq, hvalue.unescape_eq]
  | entry hkey hne hvalue =>
    obtain ⟨c, rest, rfl⟩ := List.exists_cons_of_ne_nil hne
    simp only [hkey.unescape_eq, hvalue.unescape_eq]

/-- A line that does not ask for more is read by units. -/
theorem exists_readsEntry {line : LogicalLine} (h : continues line.text = false) :
    ∃ answer, ReadsEntry line answer := by
  obtain ⟨hkey, hvalue⟩ := continues_splitEntry h
  have hkey := reads_unescape hkey
  have hvalue := reads_unescape hvalue
  cases hrawKey : unescape (splitEntry line.text).1 with
  | error digits =>
    rw [hrawKey] at hkey
    exact ⟨_, .malformedKey hkey⟩
  | ok key =>
    rw [hrawKey] at hkey
    cases key with
    | nil => exact ⟨_, .missingKey hkey⟩
    | cons c rest =>
      cases hrawValue : unescape (trimEnd (splitEntry line.text).2) with
      | error digits =>
        rw [hrawValue] at hvalue
        exact ⟨_, .malformedValue hkey (List.cons_ne_nil c rest) hvalue⟩
      | ok value =>
        rw [hrawValue] at hvalue
        exact ⟨_, .entry hkey (List.cons_ne_nil c rest) hvalue⟩

/-- **No backslash stands alone.** Every logical line of a text ends in an even number of backslashes, and so do the
key and the trimmed value that are cut from it. Both are read by units, and never is a backslash all that is left to
read; so what the line is read as is told by units alone. -/
theorem no_lone_backslash {t : Text} {line : LogicalLine} (h : line ∈ linesOf t) :
    backslashesAtEnd line.text % 2 = 0 ∧
      (∀ raw ∈ [(splitEntry line.text).1, trimEnd (splitEntry line.text).2],
        backslashesAtEnd raw % 2 = 0 ∧ Reads raw (unescape raw) ∧ ¬ Remains raw [CodePoint.ofChar '\\']) ∧
      ∀ answer, readEntry line = answer ↔ ReadsEntry line answer := by
  have hline : continues line.text = false :=
    continues_of_mem_logicalLines (physicalLines t) none 1 (by simp) line h
  obtain ⟨hkey, hvalue⟩ := continues_splitEntry hline
  refine ⟨continues_eq_false_iff.mp hline, ?_, fun answer => ⟨?_, ReadsEntry.readEntry_eq⟩⟩
  · intro raw hraw
    have hraw : continues raw = false := by
      simp only [List.mem_cons, List.not_mem_nil, or_false] at hraw
      rcases hraw with rfl | rfl
      · exact hkey
      · exact hvalue
    exact ⟨continues_eq_false_iff.mp hraw, reads_unescape hraw, not_remains hraw⟩
  · rintro rfl
    obtain ⟨answer, hanswer⟩ := exists_readsEntry hline
    rwa [hanswer.readEntry_eq]

/-- Three physical lines, each with a backslash too many, and the last one at the end of the text: its blanks go up to
the escaped one, and the backslash that escapes it is taken for a digit. -/
theorem no_lone_backslash_cut :
    ⟨1, "k\\\\\\\\=v\\u00e\\   "⟩ ∈ linesOf "k\\\\\\\n \\\\\\\n=v\\u00e\\   \\" ∧
      Reads "k\\\\\\\\" (.ok "k\\\\") ∧ ¬ Remains "v\\u00e\\ " [CodePoint.ofChar '\\'] ∧
      ReadsEntry ⟨1, "k\\\\\\\\=v\\u00e\\   "⟩ (.error ⟨.malformedEscape "00e\\", 1⟩) := by
  have hline : ⟨1, "k\\\\\\\\=v\\u00e\\   "⟩ ∈ linesOf "k\\\\\\\n \\\\\\\n=v\\u00e\\   \\" := by
    decide +kernel
  obtain ⟨-, hparts, hentry⟩ := no_lone_backslash hline
  obtain ⟨-, hkey, -⟩ := hparts "k\\\\\\\\" (by decide +kernel)
  obtain ⟨-, -, hvalue⟩ := hparts "v\\u00e\\ " (by decide +kernel)
  have hunescape : unescape "k\\\\\\\\" = .ok "k\\\\" := by decide +kernel
  have hrefused : readEntry ⟨1, "k\\\\\\\\=v\\u00e\\   "⟩ = .error ⟨.malformedEscape "00e\\", 1⟩ := by
    decide +kernel
  exact ⟨hline, hunescape ▸ hkey, hvalue, (hentry _).mp hrefused⟩

end LayeredConfig.Properties
