import LayeredConfig.Text.WhiteSpace
import Mathlib.Data.List.TakeWhile

/-!
# Trimming

Trimming takes something off the ends of a text and leaves the rest as it is. What was taken off can be put back
(`exists_ending`, `exists_trim`), and what has no white space in it is left over whatever white space stands around it
(`trim_append`).
-/

namespace LayeredConfig.Text

variable {core before after : Text}

/-- What is dropped at the end can be put back. -/
theorem exists_ending (p : CodePoint → Bool) (t : Text) :
    ∃ ending, t = dropEndWhile p t ++ ending ∧ ∀ c ∈ ending, p c = true := by
  refine ⟨(t.reverse.takeWhile p).reverse, ?_, fun c hc => List.mem_takeWhile_imp (List.mem_reverse.mp hc)⟩
  rw [dropEndWhile, ← List.reverse_append, List.takeWhile_append_dropWhile, List.reverse_reverse]

/-- A text is what trimming leaves, between white space. -/
theorem exists_trim (t : Text) :
    ∃ before after, t = before ++ t.trim ++ after ∧ isWhite before = true ∧ isWhite after = true := by
  obtain ⟨after, hafter, hwhite⟩ := exists_ending CodePoint.isWhiteSpace (t.dropWhile CodePoint.isWhiteSpace)
  refine ⟨t.takeWhile CodePoint.isWhiteSpace, after, ?_, ?_, List.all_eq_true.mpr hwhite⟩
  · rw [List.append_assoc, trim, ← hafter, List.takeWhile_append_dropWhile]
  · exact List.all_eq_true.mpr fun c hc => List.mem_takeWhile_imp hc

theorem dropWhile_white_append (hbefore : isWhite before = true) (hne : core ≠ [])
    (hcore : ∀ c ∈ core, c.isWhiteSpace = false) (after : Text) :
    (before ++ (core ++ after)).dropWhile CodePoint.isWhiteSpace = core ++ after := by
  obtain ⟨c, rest, rfl⟩ := List.exists_cons_of_ne_nil hne
  -- the first code point of the core stops what drops white space
  have hc : ¬ c.isWhiteSpace = true := by simp [hcore c List.mem_cons_self]
  rw [List.dropWhile_append_of_pos (List.all_eq_true.mp hbefore), List.cons_append, List.dropWhile_cons_of_neg hc]

/-- **Trimming** leaves what has no white space in it, whatever white space is around it. -/
theorem trim_append (hbefore : isWhite before = true) (hafter : isWhite after = true) (hne : core ≠ [])
    (hcore : ∀ c ∈ core, c.isWhiteSpace = false) : trim (before ++ core ++ after) = core := by
  have hreverse : isWhite after.reverse = true := by rwa [isWhite, List.all_reverse]
  -- the other end is the same matter in the reversed text
  have hback := dropWhile_white_append hreverse (List.reverse_ne_nil_iff.mpr hne)
    (fun c hc => hcore c (List.mem_reverse.mp hc)) []
  rw [List.append_nil] at hback
  rw [trim, List.append_assoc, dropWhile_white_append hbefore hne hcore, dropEndWhile, List.reverse_append, hback,
    List.reverse_reverse]

end LayeredConfig.Text
