import LayeredConfig.Json.Reader
import LayeredConfig.Proofs.Run
import LayeredConfig.Proofs.View

/-!
# What a JSON text begins with

An object begins with a brace, so a text that begins with anything else but a blank holds none. If there is an equals
sign in the text, it does not hold `null` either (**`not_object_of_read`**).
-/

namespace LayeredConfig

namespace Json

variable {t : Text} {j : Json} {c c' : Cursor}

/-! ## Numbers -/

/-- Behind its digits a number turns out an integer or not. -/
theorem readExponent_eq_ok {negative : Bool} {whole decimals : Text}
    (h : readExponent negative whole decimals c = .ok (j, c')) : (∃ n, j = .int n) ∨ ∃ x, j = .float x := by
  rw [readExponent] at h
  cases hexponent : exponent? c.rest with
  | some exponent =>
    rw [hexponent] at h
    obtain ⟨rfl, -⟩ := Prod.mk.inj (Except.ok.inj h)
    exact .inr ⟨_, rfl⟩
  | none =>
    rw [hexponent] at h
    cases hdecimals : decimals.isEmpty with
    | false =>
      rw [hdecimals] at h
      obtain ⟨rfl, -⟩ := Prod.mk.inj (Except.ok.inj h)
      exact .inr ⟨_, rfl⟩
    | true =>
      -- an integer, unless it has too many digits
      rw [hdecimals, if_pos rfl] at h
      cases hwhole : Number.readDecimal whole with
      | error e =>
        rw [hwhole] at h
        cases h
      | ok n =>
        rw [hwhole] at h
        obtain ⟨rfl, -⟩ := Prod.mk.inj (Except.ok.inj h)
        exact .inl ⟨_, rfl⟩

/-- Without digits there is none. -/
theorem readDigits_eq_ok {start : Cursor} {negative : Bool} (h : readDigits start negative c = .ok (j, c')) :
    (∃ n, j = .int n) ∨ ∃ x, j = .float x := by
  rw [readDigits] at h
  split at h
  · cases h
  · exact readExponent_eq_ok h

/-- What is read as a number is one. -/
theorem readNumber_eq_ok (h : readNumber c = .ok (j, c')) : (∃ n, j = .int n) ∨ ∃ x, j = .float x := by
  rw [readNumber] at h
  split at h
  · exact readDigits_eq_ok h
  · exact readDigits_eq_ok h

/-! ## Values that are no objects -/

/-- A literal or a number is no object, and `null` is only what is spelled so. -/
theorem readScalar_eq_ok (h : readScalar c = .ok (j, c')) :
    (j = .null → c.rest = "null" ++ c'.rest) ∧ ∀ members, j ≠ .object members := by
  rw [readScalar] at h
  cases hfind : literals.find? fun e => c.rest.startsWith e.1 with
  | none =>
    rw [hfind] at h
    obtain ⟨n, rfl⟩ | ⟨x, rfl⟩ := readNumber_eq_ok h
    · simp
    · simp
  | some literal =>
    obtain ⟨name, value⟩ := literal
    rw [hfind] at h
    obtain ⟨rfl, rfl⟩ := Prod.mk.inj (Except.ok.inj h)
    have hmem := List.mem_of_find?_eq_some hfind
    have hstarts : c.rest.startsWith name = true :=
      List.find?_some (p := fun e : Text × Json => c.rest.startsWith e.1) hfind
    simp only [literals, List.mem_cons, Prod.mk.injEq, List.not_mem_nil, or_false] at hmem
    -- the first literal is `null`, and no other one is
    rcases hmem with ⟨rfl, rfl⟩ | ⟨rfl, rfl⟩ | ⟨rfl, rfl⟩ | ⟨rfl, rfl⟩ | ⟨rfl, rfl⟩ | ⟨rfl, rfl⟩
    · refine ⟨fun _ => ?_, by simp⟩
      obtain ⟨rest, hrest⟩ := Option.isSome_iff_exists.mp hstarts
      have hsplit := Text.after?_eq_some_iff.mp hrest
      have hskip : (c.skip (Text.ofString "null").length).rest = rest := by
        show c.rest.drop _ = rest
        rw [hsplit]
        exact List.drop_left
      rw [hskip]
      exact hsplit
    all_goals simp

/-- What does not begin with a brace is no object. -/
theorem readValue_eq_ok {fuel : Nat} {x : CodePoint} {rest : Text} (hrest : c.rest = x :: rest) (hx : x ≠ '{')
    (h : readValue fuel c = .ok (j, c')) :
    (j = .null → c.rest = "null" ++ c'.rest) ∧ ∀ members, j ≠ .object members := by
  cases fuel with
  | zero => cases h
  | succ fuel =>
    have hbrace : c.eat? '{' = none := by
      rw [Cursor.eat?, hrest]
      exact if_neg hx
    rw [readValue] at h
    simp only [hbrace] at h
    -- a text, an array, and what has no mark in front
    split at h
    · obtain ⟨answer, -, heq⟩ := Run.except_map_eq_ok.mp h
      cases heq
      simp
    split at h
    · split at h
      · cases h
        simp
      · obtain ⟨answer, -, heq⟩ := Run.except_map_eq_ok.mp h
        cases heq
        simp
    · exact readScalar_eq_ok h

/-- What is read from a text is a value with nothing but blanks around it. -/
theorem read_eq_ok (h : read t = .ok j) :
    ∃ fuel c, readValue fuel (Cursor.skipBlanks ⟨0, t⟩) = .ok (j, c) ∧ c.skipBlanks.rest = [] := by
  rw [read] at h
  by_cases hmark : t.head? = some '\uFEFF'
  · rw [if_pos hmark] at h
    cases h
  · rw [if_neg hmark] at h
    cases hvalue : readValue (2 * t.length + 2) (Cursor.skipBlanks ⟨0, t⟩) with
    | error e =>
      rw [hvalue] at h
      cases h
    | ok answer =>
      obtain ⟨j', c⟩ := answer
      rw [hvalue] at h
      by_cases hrest : c.skipBlanks.rest.isEmpty
      · have hj : j' = j := by simpa [bind, Except.bind, pure, Except.pure, hrest] using h
        subst hj
        exact ⟨_, c, hvalue, List.isEmpty_iff.mp hrest⟩
      · simp [bind, Except.bind, hrest, Cursor.fail] at h

/-- **A text without a brace at its start** is no object, and with an equals sign in it it is not `null`. -/
theorem not_object_of_read {x : CodePoint} {rest : Text} (ht : t = x :: rest) (hblank : Cursor.isBlank x = false)
    (hx : x ≠ '{') (hequals : CodePoint.ofChar '=' ∈ t) (h : read t = .ok j) :
    j ≠ .null ∧ ∀ members, j ≠ .object members := by
  obtain ⟨fuel, c, hvalue, hend⟩ := read_eq_ok h
  have hrest : (Cursor.skipBlanks ⟨0, t⟩).rest = x :: rest := by
    simp [Cursor.skipBlanks, Cursor.skip, ht, hblank]
  obtain ⟨hnull, hobject⟩ := readValue_eq_ok hrest hx hvalue
  refine ⟨fun hj => ?_, hobject⟩
  -- the equals sign would stand after `null`, where there is nothing but blanks
  have hafter : CodePoint.ofChar '=' ∈ c.rest := by
    rw [ht, ← hrest, hnull hj] at hequals
    exact (List.mem_append.mp hequals).resolve_left (by decide)
  have hblanks : ∀ y ∈ c.rest, Cursor.isBlank y = true := by
    have hskip : c.rest.drop (c.rest.takeWhile Cursor.isBlank).length = c.rest.dropWhile Cursor.isBlank := by
      conv_lhs => arg 2; rw [← List.takeWhile_append_dropWhile (p := Cursor.isBlank) (l := c.rest)]
      exact List.drop_left
    exact List.dropWhile_eq_nil_iff.mp (hskip.symm.trans hend)
  exact absurd (hblanks _ hafter) (by decide)

end Json

end LayeredConfig
