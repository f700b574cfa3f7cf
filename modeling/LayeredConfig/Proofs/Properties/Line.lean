import LayeredConfig.Properties.Line

/-!
# Lines of a properties text: how texts fall into lines

What reading does with lines is settled here once, without looking at keys and values.

* **`continues_concat`** — one more code point changes the parity of the backslashes at the end of a line,
  or makes it even.
* **`continues_append`** — behind a line that does not continue, what is added decides by itself.
* **`physicalLines_append`** — a text without line ends, a line feed and a rest are one physical line and
  those of the rest. `physicalLines_join` is the same for many lines, and `physicalLines_prepend` for the first
  part of a line.
* **`logicalLines_skip`** / **`logicalLines_whole`** — a physical line that starts a logical line either gives
  none, or is one by itself.
* **`map_text_logicalLines`** — the numbers of lines have no part in what the lines are.
-/

namespace LayeredConfig.Properties

/-! ## Backslashes at the end -/

/-- A code point at the end of a line. A backslash changes the parity of the run of backslashes; any other
code point ends the run. -/
theorem continues_concat (line : Text) (c : CodePoint) :
    continues (line ++ [c]) = if c = '\\' then !continues line else false := by
  rw [continues, List.reverse_append, List.reverse_singleton, List.singleton_append,
    startsWithOddBackslashes]
  rfl

@[simp] theorem continues_nil : continues [] = false := rfl

/-- A line that ends in anything but a backslash does not continue. -/
theorem continues_concat_of_ne (line : Text) {c : CodePoint} (h : c ≠ '\\') :
    continues (line ++ [c]) = false := by
  rw [continues_concat, if_neg h]

/-- A line that ends in an escape does not continue, even if a backslash is escaped. -/
theorem continues_concat_escape {line : Text} (h : continues line = false) (c : CodePoint) :
    continues (line ++ [CodePoint.ofChar '\\', c]) = false := by
  rw [List.append_cons, continues_concat]
  by_cases hc : c = '\\'
  · rw [if_pos hc, continues_concat, if_pos rfl, h]
    rfl
  · rw [if_neg hc]

/-- What ends the run of backslashes may as well be left out. -/
theorem startsWithOddBackslashes_append (t : Text) {u : Text} (h : startsWithOddBackslashes u = false) :
    startsWithOddBackslashes (t ++ u) = startsWithOddBackslashes t := by
  induction t with
  | nil => exact h
  | cons c rest ih => rw [List.cons_append, startsWithOddBackslashes, startsWithOddBackslashes, ih]

/-- **Behind a line that does not continue**, only what is added counts. -/
theorem continues_append {line : Text} (h : continues line = false) (t : Text) :
    continues (line ++ t) = continues t := by
  unfold continues
  rw [List.reverse_append]
  exact startsWithOddBackslashes_append t.reverse h

/-- At the start of a line only backslashes count. -/
theorem continues_cons {c : CodePoint} (h : c ≠ '\\') (t : Text) : continues (c :: t) = continues t :=
  continues_append (continues_concat_of_ne [] h) t

/-- An escape at the start of a line counts as little. -/
theorem continues_cons_escape (c : CodePoint) (t : Text) :
    continues (CodePoint.ofChar '\\' :: c :: t) = continues t :=
  continues_append (continues_concat_escape continues_nil c) t

/-- Without the backslash that asked for more, a line asks for none. -/
theorem continues_dropLast {line : Text} (h : continues line = true) : continues line.dropLast = false := by
  have hne : line ≠ [] := by
    rintro rfl
    cases h
  rw [← List.dropLast_concat_getLast hne, continues_concat] at h
  split at h
  · simpa using h
  · cases h

/-! ## Physical lines -/

/-- A text without line ends. -/
def IsLine (t : Text) : Prop :=
  ∀ c ∈ t, c ≠ '\n' ∧ c ≠ '\r'

instance (t : Text) : Decidable (IsLine t) :=
  inferInstanceAs (Decidable (∀ c ∈ t, c ≠ '\n' ∧ c ≠ '\r'))

@[simp] theorem isLine_nil : IsLine [] := by
  intro c hc
  exact absurd hc List.not_mem_nil

@[simp] theorem isLine_cons {c : CodePoint} {t : Text} :
    IsLine (c :: t) ↔ (c ≠ '\n' ∧ c ≠ '\r') ∧ IsLine t :=
  List.forall_mem_cons

theorem isLine_append {t u : Text} : IsLine (t ++ u) ↔ IsLine t ∧ IsLine u :=
  List.forall_mem_append

/-- A line feed ends an empty line. -/
theorem physicalLines_lf (rest : Text) :
    physicalLines (CodePoint.ofChar '\n' :: rest) = [] :: physicalLines rest := by
  rw [physicalLines.eq_def]
  rfl

/-- Anything but a line end goes to the first line. -/
theorem physicalLines_cons {c : CodePoint} (hlf : c ≠ '\n') (hcr : c ≠ '\r') (rest : Text) :
    physicalLines (c :: rest) = Text.consHead c (physicalLines rest) := by
  rw [physicalLines.eq_def]
  simp only [if_neg hlf, if_neg hcr]

/-- A text without line ends goes to the first line of what follows. -/
theorem physicalLines_prepend {t u rest : Text} {tail : List Text} (ht : IsLine t)
    (h : physicalLines rest = u :: tail) : physicalLines (t ++ rest) = (t ++ u) :: tail := by
  induction t with
  | nil => exact h
  | cons c t ih =>
    obtain ⟨hc, ht⟩ := isLine_cons.mp ht
    rw [List.cons_append, physicalLines_cons hc.1 hc.2, ih ht, Text.consHead, List.cons_append]

/-- **One line and a rest.** A text without line ends before a line feed is the first physical line. -/
theorem physicalLines_append {t : Text} (h : IsLine t) (rest : Text) :
    physicalLines (t ++ (CodePoint.ofChar '\n' :: rest)) = t :: physicalLines rest := by
  rw [physicalLines_prepend h (physicalLines_lf rest), List.append_nil]

/-- A carriage return ends a line by itself, if no line feed follows. -/
theorem physicalLines_cr {c : CodePoint} (hc : c ≠ '\n') (rest : Text) :
    physicalLines (CodePoint.ofChar '\r' :: c :: rest) = [] :: physicalLines (c :: rest) := by
  have hcr : CodePoint.ofChar '\r' ≠ CodePoint.ofChar '\n' := by decide
  rw [physicalLines.eq_def]
  simp only [if_neg hcr, if_neg hc, if_true]

/-- Lines joined by line feeds, with one more line feed after the last, fall into these lines and an empty
one. -/
theorem physicalLines_join {lines : List Text} (h : ∀ t ∈ lines, IsLine t) :
    physicalLines (Text.join "\n" lines ++ "\n") = (if lines.isEmpty then [[]] else lines) ++ [[]] := by
  have hlf : Text.ofString "\n" = [CodePoint.ofChar '\n'] := rfl
  rw [hlf]
  induction lines with
  -- no lines leave the line feed alone, and it stands between two empty ones
  | nil => rfl
  | cons t rest ih =>
    have ht : IsLine t := h t List.mem_cons_self
    cases rest with
    | nil =>
      rw [Text.join, physicalLines_append ht]
      rfl
    | cons u rest =>
      have ih := ih fun v hv => h v (List.mem_cons_of_mem t hv)
      rw [Text.join, List.append_assoc, List.append_assoc, List.singleton_append,
        physicalLines_append ht, ih]
      rfl

/-! ## Blanks -/

/-- Nothing but blanks. -/
def IsBlanks (t : Text) : Prop := ∀ c ∈ t, isBlank c = true

instance : DecidablePred IsBlanks := fun t => inferInstanceAs (Decidable (∀ c ∈ t, isBlank c = true))

/-- A blank is none of the code points that are no blanks. -/
theorem blank_ne {c d : CodePoint} (hc : isBlank c = true) (hd : isBlank d = false) : c ≠ d := by
  rintro rfl
  rw [hc] at hd
  cases hd

/-- Line ends are no blanks. -/
theorem IsBlanks.isLine {t : Text} (h : IsBlanks t) : IsLine t := fun c hc =>
  ⟨blank_ne (h c hc) rfl, blank_ne (h c hc) rfl⟩

/-- Nothing is dropped from a text that starts with no blank. -/
theorem dropWhile_of_head? {t : Text} (h : ∀ c ∈ t.head?, isBlank c = false) : t.dropWhile isBlank = t := by
  cases t with
  | nil => rfl
  | cons c rest => rw [List.dropWhile_cons, h c rfl, if_neg (by decide)]

theorem dropWhile_append_of_isBlanks {blanks : Text} (h : IsBlanks blanks) (t : Text) :
    (blanks ++ t).dropWhile isBlank = t.dropWhile isBlank :=
  List.dropWhile_append_of_pos h

theorem dropWhile_of_isBlanks {blanks : Text} (h : IsBlanks blanks) : blanks.dropWhile isBlank = [] := by
  have happend := dropWhile_append_of_isBlanks h []
  rwa [List.append_nil] at happend

/-- Leading blanks have no part in whether a line asks for more. -/
theorem continues_dropWhile (t : Text) : continues (t.dropWhile isBlank) = continues t := by
  induction t with
  | nil => rfl
  | cons c rest ih =>
    rw [List.dropWhile_cons]
    split
    · rename_i hc
      rw [ih, continues_cons (blank_ne hc rfl)]
    · rfl

/-! ## Logical lines -/

/-- A blank line or a comment where no logical line has begun gives none. -/
theorem logicalLines_skip {physical : Text} (h : isSkipped (physical.dropWhile isBlank) = true)
    (number : Nat) (rest : List Text) :
    logicalLines none number (physical :: rest) = logicalLines none (number + 1) rest := by
  rw [logicalLines]
  simp only [h, if_true]

/-- A physical line that is no comment and does not continue is a logical line, apart from its leading
blanks. -/
theorem logicalLines_whole {physical line : Text} (hblank : physical.dropWhile isBlank = line)
    (hskip : isSkipped line = false) (hcont : continues line = false) (number : Nat)
    (rest : List Text) :
    logicalLines none number (physical :: rest) =
      ⟨number, line⟩ :: logicalLines none (number + 1) rest := by
  rw [logicalLines]
  simp only [hblank, hskip, hcont, Bool.false_eq_true, if_false]

/-- Skipped lines in front only move the numbers of the lines after them. -/
theorem logicalLines_skip_append {lines : List Text}
    (h : ∀ t ∈ lines, isSkipped (t.dropWhile isBlank) = true) (number : Nat) (rest : List Text) :
    logicalLines none number (lines ++ rest) = logicalLines none (number + lines.length) rest := by
  induction lines generalizing number with
  | nil => rfl
  | cons t lines ih =>
    rw [List.cons_append, logicalLines_skip (h t List.mem_cons_self),
      ih (fun u hu => h u (List.mem_cons_of_mem t hu)), List.length_cons]
    congr 1
    omega

/-- The numbers of lines are for messages only. -/
theorem map_text_logicalLines (lines : List Text) :
    ∀ (pending : Option LogicalLine) (number m n : Nat),
      (logicalLines pending m lines).map LogicalLine.text =
        (logicalLines (pending.map fun line => ⟨number, line.text⟩) n lines).map LogicalLine.text := by
  induction lines with
  | nil =>
    intro pending number m n
    cases pending with
    | none => rfl
    | some begun => rfl
  | cons physical lines ih =>
    intro pending number m n
    -- a line that was closed leaves nothing to the next one, and an open one leaves its text
    have hnone := ih none 0 (m + 1) (n + 1)
    cases pending with
    | none =>
      rw [Option.map_none, logicalLines, logicalLines]
      split
      · exact hnone
      · split
        · exact ih (some _) n (m + 1) (n + 1)
        · exact congrArg (_ :: ·) hnone
    | some begun =>
      rw [Option.map_some, logicalLines, logicalLines]
      split
      · exact ih (some _) number (m + 1) (n + 1)
      · exact congrArg (_ :: ·) hnone

theorem map_text_logicalLines_none (lines : List Text) (m n : Nat) :
    (logicalLines none m lines).map LogicalLine.text = (logicalLines none n lines).map LogicalLine.text :=
  map_text_logicalLines lines none 0 m n

end LayeredConfig.Properties
