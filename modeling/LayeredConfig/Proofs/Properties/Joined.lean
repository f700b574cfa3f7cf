import LayeredConfig.Proofs.Properties.Layout

/-!
# Texts put together

Two properties texts with a line end between them are read as the one and then the other, if the first is finished and
no carriage return meets a line feed where they touch.

* `Finished` says of a text that no logical line is open at its end. Whether one is open is told physical line by
  physical line (`staysOpen`), and it is all that the lines of the first text leave to those of the second.
* **`linesOf_joined`** — so the logical lines are those of the two texts, the second with later numbers.
* **`read_joined`** — what is read, and which fault is met at which line.
-/

namespace LayeredConfig.Properties

/-! ## Physical lines -/

/-- No carriage return at the end of one text meets a line feed at the start of the other. -/
def Parted (t u : Text) : Prop :=
  t.getLast? = some (CodePoint.ofChar '\r') → u.head? ≠ some (CodePoint.ofChar '\n')

instance (t u : Text) : Decidable (Parted t u) :=
  inferInstanceAs (Decidable (_ → _))

/-- Whether texts are parted is up to the end of the first one. -/
theorem Parted.tail {c : CodePoint} {t u : Text} (h : Parted (c :: t) u) : Parted t u := by
  intro hlast
  refine h ?_
  rw [List.getLast?_cons, hlast]
  rfl

/-- A text has a line, even the empty one. -/
theorem physicalLines_ne_nil (t : Text) : physicalLines t ≠ [] := by
  fun_induction physicalLines t with
  | case6 c rest _ _ _ =>
    cases physicalLines rest with
    | nil => exact List.cons_ne_nil _ _
    | cons line lines => exact List.cons_ne_nil _ _
  | _ => exact List.cons_ne_nil _ _

/-- What is put before the first line stays there when more lines follow. -/
theorem consHead_append (c : CodePoint) {lines : List Text} (h : lines ≠ []) (more : List Text) :
    Text.consHead c (lines ++ more) = Text.consHead c lines ++ more := by
  cases lines with
  | nil => exact absurd rfl h
  | cons t rest => rfl

/-- A line end by itself is an empty line. -/
theorem physicalLines_lineEnd {e : Text} (he : e ∈ lineEnds) {rest : Text} (h : Parted e rest) :
    physicalLines (e ++ rest) = [] :: physicalLines rest := by
  obtain ⟨tail, hlines, htail⟩ := physicalLines_end isLine_nil he rest
  rw [List.nil_append] at hlines
  rcases htail with rfl | ⟨more, rfl, rfl⟩
  · exact hlines
  · -- a line feed follows, so the end is not a carriage return
    simp only [lineEnds, List.mem_cons, List.not_mem_nil, or_false] at he
    rcases he with rfl | rfl | rfl
    · exact physicalLines_lf _
    · exact absurd rfl (h rfl)
    · rfl

/-- **The physical lines of texts put together.** -/
theorem physicalLines_joined {a e b : Text} (he : e ∈ lineEnds) (ha : Parted a e) (hb : Parted e b) :
    physicalLines (a ++ (e ++ b)) = physicalLines a ++ physicalLines b := by
  fun_induction physicalLines a with
  | case1 => exact physicalLines_lineEnd he hb
  | case2 rest ih => rw [List.cons_append, physicalLines_lf, ih ha.tail, List.cons_append]
  | case3 =>
    -- the text ends in a carriage return, which the line end does not go on with
    have hne : ∀ e ∈ lineEnds, e ≠ [] := by decide
    obtain ⟨c, more, rfl⟩ := List.exists_cons_of_ne_nil (hne e he)
    have hc : c ≠ '\n' := fun hc => ha rfl (by rw [hc]; rfl)
    have hlines := physicalLines_lineEnd he hb
    rw [List.cons_append] at hlines ⊢
    rw [List.nil_append, List.cons_append, physicalLines_cr hc, hlines]
    rfl
  | case4 tail _ ih =>
    show [] :: physicalLines (tail ++ (e ++ b)) = _
    rw [ih ha.tail.tail, List.cons_append]
  | case5 d tail hd _ ih =>
    rw [List.cons_append, List.cons_append, physicalLines_cr hd, ← List.cons_append, ih ha.tail, List.cons_append]
  -- a code point of the first line, which is there whatever follows
  | case6 c rest hlf hcr ih =>
    rw [List.cons_append, physicalLines_cons hlf hcr, ih ha.tail, consHead_append c (physicalLines_ne_nil rest)]

/-! ## Open lines -/

/-- Whether a logical line is open after a physical one: that asks for more, and is no comment. Where a line has begun
before it, there are no comments. -/
def staysOpen (begun : Bool) (physical : Text) : Bool :=
  continues physical && (begun || !isSkipped (physical.dropWhile isBlank))

/-- The last physical line is skipped, as blank or as a comment, or it does not ask for more. -/
def Finished (t : Text) : Prop :=
  ∃ lines last, physicalLines t = lines ++ [last] ∧
    (lines.foldl staysOpen false = false ∧ isSkipped (last.dropWhile isBlank) = true ∨ continues last = false)

/-- A text is finished where no logical line is open at its end. -/
theorem finished_iff {t : Text} : Finished t ↔ (physicalLines t).foldl staysOpen false = false := by
  constructor
  · rintro ⟨lines, last, hlines, ⟨hclosed, hskip⟩ | hcont⟩
    · rw [hlines, List.foldl_append, hclosed]
      simp [staysOpen, hskip]
    · rw [hlines, List.foldl_append]
      simp [staysOpen, hcont]
  · intro hclosed
    have hlines := (List.dropLast_concat_getLast (physicalLines_ne_nil t)).symm
    rw [hlines, List.foldl_append] at hclosed
    refine ⟨_, _, hlines, ?_⟩
    cases hcont : continues ((physicalLines t).getLast (physicalLines_ne_nil t)) with
    | false => exact .inr rfl
    | true => simpa [staysOpen, hcont] using hclosed

/-- **The logical lines of physical lines put together**, where no line is open between them. -/
theorem logicalLines_append (lines rest : List Text) :
    ∀ (pending : Option LogicalLine) (n : Nat), lines.foldl staysOpen pending.isSome = false →
      logicalLines pending n (lines ++ rest) =
        logicalLines pending n lines ++ logicalLines none (n + lines.length) rest := by
  induction lines with
  | nil =>
    intro pending n hopen
    cases pending with
    | none => rfl
    | some begun => cases hopen
  | cons physical lines ih =>
    intro pending n hopen
    have hnumber : n + (physical :: lines).length = n + 1 + lines.length := by
      rw [List.length_cons]
      omega
    rw [hnumber, List.cons_append]
    rw [List.foldl_cons, staysOpen, ← continues_dropWhile] at hopen
    cases pending with
    | none =>
      rw [logicalLines, logicalLines]
      split
      · -- a comment does not ask for more, whatever it ends in
        rename_i hskip
        refine ih none (n + 1) ?_
        simpa [hskip] using hopen
      · rename_i hskip
        split
        · rename_i hcont
          refine ih (some _) (n + 1) ?_
          simpa [hskip, hcont] using hopen
        · rename_i hcont
          rw [List.cons_append, ih none (n + 1) (by simpa [hcont] using hopen)]
    | some begun =>
      rw [logicalLines, logicalLines]
      split
      · rename_i hcont
        refine ih (some _) (n + 1) ?_
        simpa [hcont] using hopen
      · rename_i hcont
        rw [List.cons_append, ih none (n + 1) (by simpa [hcont] using hopen)]

/-! ## Later numbers -/

/-- The line with a number that is greater by `k`. -/
def LogicalLine.later (k : Nat) (line : LogicalLine) : LogicalLine :=
  ⟨line.number + k, line.text⟩

/-- The error on a line that is later by `k`. -/
def ReadError.later (k : Nat) (e : ReadError) : ReadError :=
  ⟨e.fault, e.line + k⟩

/-- Counting from later on gives the same lines with later numbers. -/
theorem logicalLines_later (k : Nat) (lines : List Text) :
    ∀ (pending : Option LogicalLine) (n : Nat),
      logicalLines (pending.map (LogicalLine.later k)) (n + k) lines =
        (logicalLines pending n lines).map (LogicalLine.later k) := by
  induction lines with
  | nil =>
    intro pending n
    cases pending with
    | none => rfl
    | some begun => rfl
  | cons physical lines ih =>
    intro pending n
    -- a line that is skipped or ends what is pending leaves nothing pending for the next one
    have hnone := ih none (n + 1)
    rw [Nat.add_right_comm] at hnone
    cases pending with
    | none =>
      rw [Option.map_none, logicalLines, logicalLines]
      split
      · exact hnone
      · split
        · rw [Nat.add_right_comm]
          exact ih (some ⟨n, _⟩) (n + 1)
        · exact congrArg (_ :: ·) hnone
    | some begun =>
      rw [Option.map_some, logicalLines, logicalLines]
      split
      · rw [Nat.add_right_comm]
        exact ih (some ⟨begun.number, begun.text ++ (physical.dropWhile isBlank).dropLast⟩) (n + 1)
      · exact congrArg (_ :: ·) hnone

/-- **The logical lines of texts put together.** -/
theorem linesOf_joined {a e b : Text} (he : e ∈ lineEnds) (ha : Parted a e) (hb : Parted e b) (hend : Finished a) :
    linesOf (a ++ (e ++ b)) = linesOf a ++ (linesOf b).map (LogicalLine.later (physicalLines a).length) := by
  unfold linesOf
  rw [physicalLines_joined he ha hb, logicalLines_append _ _ none 1 (finished_iff.mp hend)]
  exact congrArg (_ ++ ·) (logicalLines_later _ _ none 1)

/-! ## What is read -/

/-- A later line is read as the same entry, or fails as late. -/
theorem readEntry_later (k : Nat) (line : LogicalLine) :
    readEntry (line.later k) = (readEntry line).mapError (ReadError.later k) := by
  unfold readEntry LogicalLine.later
  simp only
  split
  · rfl
  · rfl
  · split
    · rfl
    · rfl

/-- Later lines are read as the same map, or fail as late. -/
theorem readLines_later (k : Nat) (lines : List LogicalLine) :
    ∀ m, readLines m (lines.map (LogicalLine.later k)) = (readLines m lines).mapError (ReadError.later k) := by
  induction lines with
  | nil => exact fun _ => rfl
  | cons line lines ih =>
    intro m
    rw [List.map_cons, readLines, readLines, readEntry_later]
    cases readEntry line with
    | error e => rfl
    | ok entry => exact ih _

/-- Lines behind others are read into the map that these leave. -/
theorem readLines_append (lines more : List LogicalLine) :
    ∀ m, readLines m (lines ++ more) = (readLines m lines).bind fun m' => readLines m' more := by
  induction lines with
  | nil => exact fun _ => rfl
  | cons line lines ih =>
    intro m
    rw [List.cons_append, readLines, readLines]
    cases readEntry line with
    | error e => rfl
    | ok entry => exact ih _

/-- What is there already has no part in what is read. -/
theorem readLines_update (m : OrderedMap Text) (lines : List LogicalLine) :
    ∀ n, readLines (m.update n) lines = (readLines n lines).map m.update := by
  induction lines with
  | nil => exact fun _ => rfl
  | cons line lines ih =>
    intro n
    rw [readLines, readLines]
    cases readEntry line with
    | error e => rfl
    | ok entry =>
      show readLines ((m.update n).put entry.1 entry.2) lines = _
      rw [← OrderedMap.update_put]
      exact ih _

/-- The answer for texts put together, in terms of the answers for both. -/
theorem read_joined_eq {a e b : Text} (he : e ∈ lineEnds) (ha : Parted a e) (hb : Parted e b) (hend : Finished a) :
    read (a ++ (e ++ b)) = (read a).bind fun m =>
      ((read b).mapError (ReadError.later (physicalLines a).length)).map m.update := by
  unfold read
  rw [linesOf_joined he ha hb hend, readLines_append]
  congr 1
  funext m
  rw [← readLines_later, ← readLines_update, OrderedMap.update_empty]

/-- **Texts put together** are read one after the other: the first fault of the first text that has one is met, on its
line, and else the keys of the second text are added to those of the first, or take their places. -/
theorem read_joined {a e b : Text} (he : e ∈ lineEnds) (ha : Parted a e) (hb : Parted e b) (hend : Finished a) :
    (∀ error, read a = .error error → read (a ++ (e ++ b)) = .error error) ∧
      ∀ m, read a = .ok m →
        (∀ fault line, read b = .error ⟨fault, line⟩ →
          read (a ++ (e ++ b)) = .error ⟨fault, line + (physicalLines a).length⟩) ∧
        ∀ n, read b = .ok n → ∃ joined, read (a ++ (e ++ b)) = .ok joined ∧
          joined.keys = m.keys ++ n.keys.filter (fun key => key ∉ m.keys) ∧
          ∀ key, joined.get? key = (n.get? key).or (m.get? key) := by
  rw [read_joined_eq he ha hb hend]
  refine ⟨fun error hfirst => ?_, fun m hfirst => ⟨fun fault line hsecond => ?_, fun n hsecond => ?_⟩⟩
  · rw [hfirst]
    rfl
  · rw [hfirst, hsecond]
    rfl
  · rw [hfirst, hsecond]
    exact ⟨m.update n, rfl, OrderedMap.keys_update m n, OrderedMap.get?_update m n⟩

/-- A first text that ends in a comment with a backslash. -/
theorem read_joined_remark :
    (∃ joined, read ("a=1\rb=2\r# note\\" ++ ("\r\n" ++ "c=3\nb=4")) = .ok joined ∧
      joined.keys = (["a", "b", "c"] : List Text) ∧ joined.get? "b" = some "4") ∧
    read ("a=1\rb=2\r# note\\" ++ ("\r\n" ++ "c=3\n=4")) = .error ⟨.missingKey, 2 + 3⟩ := by
  have he : Text.ofString "\r\n" ∈ lineEnds := by decide +kernel
  have hend : Finished "a=1\rb=2\r# note\\" := finished_iff.mpr (by decide +kernel)
  have hlength : (physicalLines "a=1\rb=2\r# note\\").length = 3 := by decide +kernel
  have hfirst : read "a=1\rb=2\r# note\\" = .ok (.ofList [("a", "1"), ("b", "2")]) := by decide +kernel
  have hsecond : read "c=3\nb=4" = .ok (.ofList [("c", "3"), ("b", "4")]) := by decide +kernel
  have hfault : read "c=3\n=4" = .error ⟨.missingKey, 2⟩ := by decide +kernel
  obtain ⟨-, hgood⟩ := read_joined he (by decide +kernel) (b := "c=3\nb=4") (by decide +kernel) hend
  obtain ⟨-, hbad⟩ := read_joined he (by decide +kernel) (b := "c=3\n=4") (by decide +kernel) hend
  obtain ⟨joined, hread, hkeys, hget⟩ := (hgood _ hfirst).2 _ hsecond
  have herror := (hbad _ hfirst).1 _ _ hfault
  rw [hlength] at herror
  refine ⟨⟨joined, hread, ?_, ?_⟩, herror⟩
  · rw [hkeys]
    decide +kernel
  · rw [hget]
    decide +kernel

end LayeredConfig.Properties
