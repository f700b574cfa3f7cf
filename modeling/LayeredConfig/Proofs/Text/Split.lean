import LayeredConfig.Text.CodePoint

/-!
# Pieces of a text

Texts that do not have a separator are told from what they are put together to: joined with the separator between each
two (**`Text.splitOn_join`**), or as lines with the separator at the end of each (**`Text.splitOn_lines`**).
-/

namespace LayeredConfig.Text

variable {separator : CodePoint} {t : Text} {ts : List Text}

/-- A last text is joined by one more separator, if there is anything before it. -/
theorem join_concat (separator : Text) (ts : List Text) (t : Text) :
    join separator (ts ++ [t]) = (if ts = [] then [] else join separator ts ++ separator) ++ t := by
  induction ts with
  | nil => rfl
  | cons u ts ih =>
    cases ts with
    | nil => simp [join]
    | cons v ts => simpa [join] using ih

/-- Without a separator there is one piece. -/
theorem splitOn_of_notMem (h : separator ∉ t) : splitOn separator t = [t] := by
  induction t with
  | nil => rfl
  | cons c rest ih =>
    rw [List.mem_cons, not_or] at h
    rw [splitOn, if_neg (Ne.symm h.1), ih h.2]
    rfl

/-- The first piece goes up to the first separator. -/
theorem splitOn_append (h : separator ∉ t) (rest : Text) :
    splitOn separator (t ++ separator :: rest) = t :: splitOn separator rest := by
  induction t with
  | nil => rw [List.nil_append, splitOn, if_pos rfl]
  | cons c t ih =>
    rw [List.mem_cons, not_or] at h
    rw [List.cons_append, splitOn, if_neg (Ne.symm h.1), ih h.2]
    rfl

/-- Texts that do not have the separator can be told from what they are joined to. -/
theorem splitOn_join (hne : ts ≠ []) (h : ∀ t ∈ ts, separator ∉ t) :
    splitOn separator (join [separator] ts) = ts := by
  induction ts with
  | nil => exact absurd rfl hne
  | cons t ts ih =>
    obtain ⟨ht, hts⟩ := List.forall_mem_cons.mp h
    cases ts with
    | nil => exact splitOn_of_notMem ht
    | cons u ts =>
      rw [join, List.append_assoc, List.singleton_append, splitOn_append ht, ih (List.cons_ne_nil u ts) hts]

/-- Lines are told from each other, and nothing is behind the end of the last one. -/
theorem splitOn_lines (h : ∀ t ∈ ts, separator ∉ t) :
    splitOn separator (ts.flatMap (· ++ [separator])) = ts ++ [[]] := by
  induction ts with
  | nil => rfl
  | cons t ts ih =>
    obtain ⟨ht, hts⟩ := List.forall_mem_cons.mp h
    rw [List.flatMap_cons, List.append_assoc, List.singleton_append, splitOn_append ht, ih hts]
    rfl

/-- There is always a piece. -/
theorem splitOn_ne_nil (separator : CodePoint) (t : Text) : splitOn separator t ≠ [] := by
  cases t with
  | nil => exact List.cons_ne_nil _ _
  | cons c rest =>
    rw [splitOn]
    split
    · exact List.cons_ne_nil _ _
    · cases splitOn separator rest <;> exact List.cons_ne_nil _ _

/-- Behind the end of a line, the rest is split on its own. -/
theorem splitOn_append_of_ended (h : splitOn separator t = ts ++ [[]]) (rest : Text) :
    splitOn separator (t ++ rest) = ts ++ splitOn separator rest := by
  induction t generalizing ts with
  | nil =>
    obtain rfl : ts = [] := by simpa [splitOn] using h
    rfl
  | cons c t ih =>
    rw [splitOn] at h
    rw [List.cons_append, splitOn]
    split at h
    · -- an end of a line: the first piece is empty, and it is not the last one
      rename_i hc
      rw [if_pos hc]
      cases ts with
      | nil => exact absurd (List.cons.inj h).2 (splitOn_ne_nil separator t)
      | cons u ts =>
        obtain ⟨rfl, hrest⟩ := List.cons.inj h
        rw [ih hrest, List.cons_append]
    · rename_i hc
      rw [if_neg hc]
      -- any other code point goes to the first piece, so that is not the empty one at the end
      cases hsplit : splitOn separator t with
      | nil => exact absurd hsplit (splitOn_ne_nil separator t)
      | cons head pieces =>
        rw [hsplit, consHead] at h
        cases ts with
        | nil => exact absurd (List.cons.inj h).1 (List.cons_ne_nil _ _)
        | cons u ts =>
          obtain ⟨rfl, rfl⟩ := List.cons.inj h
          have hrest : splitOn separator (t ++ rest) = (head :: ts) ++ splitOn separator rest := ih hsplit
          rw [hrest, List.cons_append, consHead, List.cons_append]

end LayeredConfig.Text
