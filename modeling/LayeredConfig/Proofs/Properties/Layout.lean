import LayeredConfig.Proofs.Properties.Entry

/-!
# Every layout of entries

Logical lines are folded between any two of their units, three kinds of line ends come as they like, and so do blank
lines and comments. `Lays entries text` says that `text` is one of the texts that are written for `entries` in this
way, and **`read_lays`** that it is read as them.

* `Folded` puts continuations between units. The blanks after the line end of a continuation all belong to it, so
  the unit that comes next is no blank. `logicalLines_folded` joins the physical lines again; the invariant is what
  has been joined so far.
* `Lays` puts lines of entries below each other, with what is skipped between them. `logicalTexts_lays` finds the
  lines of the entries. It leaves their numbers out: a carriage return that ends one line and a line feed that ends
  an empty one are a single line end to the reader, and the lines after them count one less.
-/

namespace LayeredConfig.Properties

/-! ## Layouts -/

/-- The three kinds of line ends. -/
def lineEnds : List Text :=
  ([Text.ofString "\n", Text.ofString "\r", Text.ofString "\r\n"] : List Text)

/-- Units written down with continuations between them. -/
inductive Folded : List Text → Text → Prop where
  | last (units : List Text) : Folded units units.flatten
  /-- A backslash, a line end and all the blanks after it; something comes after the line end. -/
  | fold {more : List Text} {e blanks rest : Text} (units : List Text) (he : e ∈ lineEnds)
      (hblanks : IsBlanks blanks) (hall : ∀ c ∈ rest.head?, isBlank c = false) (hne : blanks ++ rest ≠ [])
      (hmore : Folded more rest) :
      Folded (units ++ more) (units.flatten ++ (CodePoint.ofChar '\\' :: (e ++ (blanks ++ rest))))

/-- A line of nothing but blanks, or with a mark of a comment behind its blanks. -/
inductive Remark : Text → Prop where
  | blank {blanks : Text} (hblanks : IsBlanks blanks) : Remark blanks
  | comment {blanks rest : Text} {m : CodePoint} (hblanks : IsBlanks blanks) (hm : m = '#' ∨ m = '!')
      (hrest : IsLine rest) : Remark (blanks ++ m :: rest)

/-- The texts of some entries. -/
inductive Lays : List (Text × Text) → Text → Prop where
  | nil : Lays [] []
  | remark {entries : List (Text × Text)} {line e rest : Text} (hline : Remark line) (he : e ∈ lineEnds)
      (hrest : Lays entries rest) : Lays entries (line ++ (e ++ rest))
  | entry {entry : Text × Text} {entries : List (Text × Text)} {units : List Text} {lead line e rest : Text}
      (hlead : IsBlanks lead) (hentry : RenderedEntry units entry) (hline : Folded units line) (he : e ∈ lineEnds)
      (hrest : Lays entries rest) : Lays (entry :: entries) (lead ++ line ++ (e ++ rest))

/-! ## Physical lines -/

/-- **A line and its end.** A carriage return takes a line feed that follows it for its own. -/
theorem physicalLines_end {t e : Text} (ht : IsLine t) (he : e ∈ lineEnds) (rest : Text) :
    ∃ tail, physicalLines (t ++ (e ++ rest)) = t :: tail ∧
      (tail = physicalLines rest ∨ ∃ more, rest = CodePoint.ofChar '\n' :: more ∧ tail = physicalLines more) := by
  have hline {tail : List Text} (h : physicalLines (e ++ rest) = [] :: tail) :
      physicalLines (t ++ (e ++ rest)) = t :: tail := by
    rw [physicalLines_prepend ht h, List.append_nil]
  simp only [lineEnds, List.mem_cons, List.not_mem_nil, or_false] at he
  rcases he with rfl | rfl | rfl
  · exact ⟨_, hline (physicalLines_lf rest), .inl rfl⟩
  · cases rest with
    | nil => exact ⟨[[]], hline rfl, .inl rfl⟩
    | cons c rest =>
      by_cases hc : c = '\n'
      · rw [hc] at hline ⊢
        exact ⟨physicalLines rest, hline rfl, .inr ⟨rest, rfl, rfl⟩⟩
      · exact ⟨_, hline (physicalLines_cr hc rest), .inl rfl⟩
  · exact ⟨physicalLines rest, hline rfl, .inl rfl⟩

/-! ## Logical lines -/

/-- The logical lines of a text without their numbers. -/
def logicalTexts (t : Text) : List Text :=
  (linesOf t).map LogicalLine.text

/-- An empty line gives no logical one. -/
theorem logicalTexts_lf (rest : Text) : logicalTexts (CodePoint.ofChar '\n' :: rest) = logicalTexts rest := by
  unfold logicalTexts linesOf
  rw [physicalLines_lf, logicalLines_skip rfl]
  exact map_text_logicalLines_none _ _ _

/-- A line that starts no logical line and its end: what is left are the logical lines of the rest. -/
theorem logicalLines_end {t e : Text} (ht : IsLine t) (he : e ∈ lineEnds) (rest : Text) :
    ∃ tail, physicalLines (t ++ (e ++ rest)) = t :: tail ∧
      ∀ n, (logicalLines none n tail).map LogicalLine.text = logicalTexts rest := by
  obtain ⟨tail, hlines, htail⟩ := physicalLines_end ht he rest
  refine ⟨tail, hlines, fun n => ?_⟩
  rcases htail with rfl | ⟨more, rfl, rfl⟩
  · exact map_text_logicalLines_none _ _ _
  · -- the line feed went with the carriage return before it, and alone it would have ended an empty line
    rw [logicalTexts_lf]
    exact map_text_logicalLines_none _ _ _

/-- A remark is on one physical line. -/
theorem Remark.isLine {line : Text} (h : Remark line) : IsLine line := by
  cases h with
  | blank hblanks => exact hblanks.isLine
  | comment hblanks hm hrest =>
    refine isLine_append.mpr ⟨hblanks.isLine, isLine_cons.mpr ⟨?_, hrest⟩⟩
    rcases hm with rfl | rfl
    all_goals decide

/-- A remark is skipped by the reader. -/
theorem Remark.isSkipped {line : Text} (h : Remark line) : isSkipped (line.dropWhile isBlank) = true := by
  cases h with
  | blank hblanks =>
    rw [dropWhile_of_isBlanks hblanks]
    rfl
  | comment hblanks hm _ =>
    rw [dropWhile_append_of_isBlanks hblanks]
    rcases hm with rfl | rfl
    all_goals rfl

/-- A remark gives no logical line. -/
theorem logicalTexts_remark {line e : Text} (h : Remark line) (he : e ∈ lineEnds) (rest : Text) :
    logicalTexts (line ++ (e ++ rest)) = logicalTexts rest := by
  obtain ⟨tail, hlines, htail⟩ := logicalLines_end h.isLine he rest
  rw [logicalTexts, linesOf, hlines, logicalLines_skip h.isSkipped, htail]

/-! ## Folded lines -/

/-- A folded line starts with the backslash of a continuation or with its units. -/
theorem Folded.head? {units : List Text} {line : Text} (h : Folded units line) :
    line.head? = some (CodePoint.ofChar '\\') ∨ line.head? = units.flatten.head? := by
  cases h with
  | last => exact .inr rfl
  | fold units =>
    cases hunits : units.flatten with
    | nil => exact .inl rfl
    | cons c rest =>
      refine .inr ?_
      rw [List.flatten_append, hunits]
      rfl

/-- A folded line starts with no line end. -/
theorem Folded.isLine_head {units : List Text} {line : Text} (h : Folded units line)
    (hunits : ∀ u ∈ units, Complete u) : ∀ c ∈ line.head?, c ≠ '\n' ∧ c ≠ '\r' := by
  intro c hc
  rcases h.head? with heq | heq
  · rw [heq, Option.mem_some_iff] at hc
    rw [← hc]
    decide
  · obtain ⟨hline, -⟩ := complete_flatten hunits
    exact hline c (List.mem_of_mem_head? (heq ▸ hc))

/-- A physical line that ends in the backslash of a continuation. -/
theorem logicalLines_continue {blanks raw e next : Text} (hblanks : IsBlanks blanks) (hraw : Complete raw)
    (he : e ∈ lineEnds) (hnext : next.head? ≠ some (CodePoint.ofChar '\n'))
    (hhead : ∀ c ∈ (raw ++ [CodePoint.ofChar '\\']).head?, isBlank c = false) (begun : LogicalLine) (n : Nat) :
    logicalLines (some begun) n (physicalLines (blanks ++ (raw ++ [CodePoint.ofChar '\\']) ++ (e ++ next))) =
      logicalLines (some ⟨begun.number, begun.text ++ raw⟩) (n + 1) (physicalLines next) := by
  have hline : IsLine (blanks ++ (raw ++ [CodePoint.ofChar '\\'])) :=
    isLine_append.mpr ⟨hblanks.isLine, isLine_append.mpr ⟨hraw.1, by decide⟩⟩
  -- the backslash follows complete units, so it is not the second half of an escape
  have hcont : continues (raw ++ [CodePoint.ofChar '\\']) = true := by
    rw [continues_concat, if_pos rfl, hraw.continues_eq]
    rfl
  have hdrop : (blanks ++ (raw ++ [CodePoint.ofChar '\\'])).dropWhile isBlank = raw ++ [CodePoint.ofChar '\\'] := by
    rw [dropWhile_append_of_isBlanks hblanks, dropWhile_of_head? hhead]
  obtain ⟨lines, hlines, rfl | ⟨more, rfl, -⟩⟩ := physicalLines_end hline he next
  · rw [hlines, logicalLines]
    simp only [hdrop, hcont, if_true, List.dropLast_concat]
  · exact absurd rfl hnext

/-- The last physical line of a logical one. -/
theorem logicalLines_close {blanks raw e : Text} (hblanks : IsBlanks blanks) (hraw : Complete raw)
    (he : e ∈ lineEnds) (hhead : ∀ c ∈ raw.head?, isBlank c = false) (rest : Text) (begun : LogicalLine) (n : Nat) :
    (logicalLines (some begun) n (physicalLines (blanks ++ raw ++ (e ++ rest)))).map LogicalLine.text =
      (begun.text ++ raw) :: logicalTexts rest := by
  have hdrop : (blanks ++ raw).dropWhile isBlank = raw := by
    rw [dropWhile_append_of_isBlanks hblanks, dropWhile_of_head? hhead]
  obtain ⟨tail, hlines, htail⟩ := logicalLines_end (isLine_append.mpr ⟨hblanks.isLine, hraw.1⟩) he rest
  rw [hlines, logicalLines]
  simp only [hdrop, hraw.continues_eq, Bool.false_eq_true, if_false, List.map_cons, htail]

/-- **A folded line is joined again**, behind what has been joined so far. -/
theorem logicalLines_folded {units : List Text} {line e : Text} (h : Folded units line)
    (hunits : ∀ u ∈ units, Complete u) (he : e ∈ lineEnds) (rest : Text) :
    (∀ c ∈ line.head?, isBlank c = false) → ∀ {blanks : Text}, IsBlanks blanks → ∀ (begun : LogicalLine) (n : Nat),
      (logicalLines (some begun) n (physicalLines (blanks ++ line ++ (e ++ rest)))).map LogicalLine.text =
        (begun.text ++ units.flatten) :: logicalTexts rest := by
  induction h with
  | last units =>
    intro hhead blanks hblanks begun n
    exact logicalLines_close hblanks (complete_flatten hunits) he hhead rest begun n
  | @fold more e' blanks' line units he' hblanks' hall hne hmore ih =>
    intro hhead blanks hblanks begun n
    obtain ⟨hunits, hmoreUnits⟩ := List.forall_mem_append.mp hunits
    -- so the line end of the continuation is not the first half of a longer one
    have hnext : (blanks' ++ line ++ (e ++ rest)).head? ≠ some (CodePoint.ofChar '\n') := by
      intro hlf
      rw [List.head?_append_of_ne_nil _ hne] at hlf
      cases blanks' with
      | nil => exact (hmore.isLine_head hmoreUnits _ hlf).1 rfl
      | cons c blanks' => exact blank_ne (hblanks' c List.mem_cons_self) rfl (Option.some.inj hlf)
    have hhead : ∀ c ∈ (units.flatten ++ [CodePoint.ofChar '\\']).head?, isBlank c = false := by
      simpa only [List.head?_append, List.head?_cons] using hhead
    have hcontinue := logicalLines_continue hblanks (complete_flatten hunits) he' hnext hhead begun n
    have htext : blanks ++ (units.flatten ++ (CodePoint.ofChar '\\' :: (e' ++ (blanks' ++ line)))) ++ (e ++ rest) =
        blanks ++ (units.flatten ++ [CodePoint.ofChar '\\']) ++ (e' ++ (blanks' ++ line ++ (e ++ rest))) := by
      simp only [List.append_assoc, List.cons_append, List.nil_append]
    rw [htext, hcontinue, ih hmoreUnits hall hblanks', List.flatten_append, List.append_assoc]

/-- A first line that is neither blank nor a comment is read like one that follows a continuation. -/
theorem logicalLines_begin {lead : Text} (hlead : IsBlanks lead) {c : CodePoint} (hblank : isBlank c = false)
    (hskip : isSkipped [c] = false) (hline : c ≠ '\n' ∧ c ≠ '\r') (rest : Text) (n : Nat) :
    logicalLines none n (physicalLines (lead ++ (c :: rest))) =
      logicalLines (some ⟨n, []⟩) n (physicalLines (lead ++ (c :: rest))) := by
  obtain ⟨t, lines, hlines⟩ : ∃ t lines, physicalLines (c :: rest) = (c :: t) :: lines := by
    rw [physicalLines_cons hline.1 hline.2]
    cases physicalLines rest with
    | nil => exact ⟨[], [], rfl⟩
    | cons t lines => exact ⟨t, lines, rfl⟩
  have hdrop : (lead ++ c :: t).dropWhile isBlank = c :: t := by
    rw [dropWhile_append_of_isBlanks hlead, List.dropWhile_cons, hblank, if_neg (by decide)]
  have hskip : isSkipped (c :: t) = false := hskip
  rw [physicalLines_prepend hlead.isLine hlines, logicalLines, logicalLines]
  simp only [hdrop, hskip, Bool.false_eq_true, if_false, List.nil_append]

/-- The lines of an entry give one logical line, with all its units and nothing else. -/
theorem logicalTexts_entry {entry : Text × Text} {units : List Text} {lead line e : Text} (hlead : IsBlanks lead)
    (hentry : RenderedEntry units entry) (hline : Folded units line) (he : e ∈ lineEnds) (rest : Text) :
    logicalTexts (lead ++ line ++ (e ++ rest)) = units.flatten :: logicalTexts rest := by
  obtain ⟨k, more, hkey, hkeyBlank, hkeySkip⟩ := hentry.head_flatten
  -- the physical line starts with the key, or with the backslash of an escape or of a continuation
  obtain ⟨c, tail, rfl, hblank, hskip⟩ : ∃ c tail, line = c :: tail ∧ isBlank c = false ∧ isSkipped [c] = false := by
    have hstart := hline.head?
    rw [hkey, List.head?_cons] at hstart
    rcases hstart with h | h
    · obtain ⟨tail, rfl⟩ := List.head?_eq_some_iff.mp h
      exact ⟨_, tail, rfl, rfl, rfl⟩
    · obtain ⟨tail, rfl⟩ := List.head?_eq_some_iff.mp h
      exact ⟨_, tail, rfl, hkeyBlank, hkeySkip⟩
  have hhead : ∀ d ∈ (c :: tail).head?, isBlank d = false := by
    intro d hd
    rwa [← Option.some.inj hd]
  have hjoined := logicalLines_folded hline hentry.complete he rest hhead hlead ⟨1, []⟩ 1
  have hbegin := logicalLines_begin hlead hblank hskip (hline.isLine_head hentry.complete c rfl) (tail ++ (e ++ rest)) 1
  rw [logicalTexts, linesOf]
  rw [List.append_assoc, List.cons_append] at hjoined ⊢
  rw [hbegin, hjoined, List.nil_append]

/-- **The logical lines of a text are those of its entries**, in order. -/
theorem logicalTexts_lays {entries : List (Text × Text)} {text : Text} (h : Lays entries text) :
    List.Forall₂ (fun line entry => ∀ n, readEntry ⟨n, line⟩ = .ok entry) (logicalTexts text) entries := by
  induction h with
  | nil => exact .nil
  | @remark _ _ _ rest hline he _ ih =>
    rw [logicalTexts_remark hline he]
    exact ih
  | @entry _ _ _ _ _ _ rest hlead hentry hline he _ ih =>
    rw [logicalTexts_entry hlead hentry hline he]
    exact .cons (readEntry_rendered hentry) ih

/-- Lines that are each read as an entry are read as the map of the entries. -/
theorem readLines_of_forall₂ {lines : List LogicalLine} :
    ∀ {entries : List (Text × Text)} (m : OrderedMap Text),
      List.Forall₂ (fun line entry => ∀ n, readEntry ⟨n, line⟩ = .ok entry) (lines.map LogicalLine.text) entries →
        readLines m lines = .ok (m.putAll entries) := by
  induction lines with
  | nil =>
    intro entries m h
    cases h
    rfl
  | cons line lines ih =>
    intro entries m h
    rw [List.map_cons] at h
    cases h with
    | @cons _ entry _ entries hline hlines =>
      have hline : readEntry line = .ok entry := hline line.number
      rw [readLines, hline]
      exact ih (m.put entry.1 entry.2) hlines

/-- **Every rendering is read as its entries**: a key that comes again keeps its place and takes the new value. -/
theorem read_lays {entries : List (Text × Text)} {text : Text} (h : Lays entries text) :
    read text = .ok (OrderedMap.ofList entries) :=
  readLines_of_forall₂ .empty (logicalTexts_lays h)

/-- A comment that ends in a backslash; a folded line with an escaped blank in its key, an escaped backslash before
blanks at its end, and a carriage return that goes with the line feed of an empty line; a value that is an escaped
blank; a key that comes again. -/
theorem read_lays_of_marks :
    read "! note\\\r\ta\\\r\n \\u0020b : x\\\\ \r\nk\t\\ \na\\ b=2\n" =
      .ok ⟨[("a b", Text.ofString "2"), ("k", Text.ofString " ")], by decide⟩ := by
  have hlf : Text.ofString "\n" ∈ lineEnds := by decide
  have hcr : Text.ofString "\r" ∈ lineEnds := by decide
  have hnote : Remark "! note\\" := @Remark.comment [] " note\\" '!' (by decide) (.inr rfl) (by decide)
  have hfirst : RenderedEntry (([['a'], ['\\', 'u', '0', '0', '2', '0'], ['b']] : List Text) ++
      (([[' '], [':'], [' ']] : List Text) ++ (([['x'], ['\\', '\\']] : List Text) ++ ([[' ']] : List Text))))
      (['a', ' ', 'b'], ['x', '\\']) :=
    .mk ⟨.cons (.self (by decide)) (.cons (.unicode rfl rfl rfl rfl rfl) (.cons (.self (by decide)) .nil)), by decide⟩
      (by decide) (@Separator.mark _ [[' ']] [[' ']] ':' (by decide) (.inr rfl) (by decide))
      ⟨.cons (.self (by decide)) (.cons (.escape (by decide) (by decide)) .nil), by decide, by decide⟩ (by decide)
  have hfolded := @Folded.fold _ "\r\n" " " _ [['a']] (by decide) (by decide) (by decide) (by decide)
    (.last ([['\\', 'u', '0', '0', '2', '0'], ['b'], [' '], [':'], [' '], ['x'], ['\\', '\\'], [' ']] : List Text))
  have hsecond : RenderedEntry (([['k']] : List Text) ++ (([['\t']] : List Text) ++ (([['\\', ' ']] : List Text) ++ [])))
      (['k'], [' ']) :=
    .mk ⟨.cons (.self (by decide)) .nil, by decide⟩ (by decide) (.blanks (by decide) (by decide) (by decide))
      ⟨.cons (.escape (by decide) (by decide)) .nil, by decide, by decide⟩ (by decide)
  have hthird : RenderedEntry
      (([['a'], ['\\', ' '], ['b']] : List Text) ++ (([['=']] : List Text) ++ (([['2']] : List Text) ++ [])))
      (['a', ' ', 'b'], ['2']) :=
    .mk ⟨.cons (.self (by decide)) (.cons (.escape (by decide) (by decide)) (.cons (.self (by decide)) .nil)),
      by decide⟩ (by decide) (@Separator.mark _ [] [] '=' (by decide) (.inl rfl) (by decide))
      ⟨.cons (.self (by decide)) .nil, by decide, by decide⟩ (by decide)
  have hlays := Lays.remark hnote hcr (@Lays.entry _ _ _ "\t" _ _ _ (by decide) hfirst hfolded hcr
    (.remark (@Remark.blank [] (by decide)) hlf (@Lays.entry _ _ _ [] _ _ _ (by decide) hsecond (.last _) hlf
      (@Lays.entry _ _ _ [] _ _ _ (by decide) hthird (.last _) hlf .nil))))
  exact read_lays hlays

end LayeredConfig.Properties
