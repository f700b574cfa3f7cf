import LayeredConfig.Run

/-!
# Runs: what was done

A run that succeeds did the acts of all its parts, and each part succeeded. `Run.bind_eq_ok` says so for two runs
in a row, and with the lemmas on the simplest runs it takes any run apart into the answers of its parts and the
list of what was done. A run that fails did so in one of its parts, after those before it had succeeded
(`Run.bind_eq_error`).
-/

namespace LayeredConfig.Run

variable {α β : Type}

/-- A run is what it did and what it answered. -/
theorem eq_of_result {r : Run α} {result : Except Failure α} (h : r.result = result) : r = ⟨r.acts, result⟩ := by
  rw [← h]

/-- The answers of two runs in a row, whatever was done for them. -/
theorem result_bind (r : Run α) (f : α → Run β) : (r >>= f).result = r.result >>= fun a => (f a).result := by
  obtain ⟨done, result⟩ := r
  cases result with
  | error e => rfl
  | ok a => rfl

theorem except_map_eq_ok {ε : Type} {x : Except ε α} {f : α → β} {b : β} :
    x.map f = .ok b ↔ ∃ a, x = .ok a ∧ f a = b := by
  cases x with
  | error e => simp [Except.map]
  | ok a => simp [Except.map]

/-- Two answers in a row. -/
theorem except_bind_eq_ok {ε : Type} {x : Except ε α} {f : α → Except ε β} {b : β} :
    x >>= f = .ok b ↔ ∃ a, x = .ok a ∧ f a = .ok b := by
  cases x with
  | error e =>
    constructor
    · intro h
      cases h
    · rintro ⟨a, h, -⟩
      cases h
  | ok a =>
    constructor
    · exact fun h => ⟨a, rfl, h⟩
    · rintro ⟨a', h, hf⟩
      cases h
      exact hf

theorem result_pure (a : α) : (Pure.pure a : Run α).result = .ok a := rfl

theorem result_report (notices : List Log.Notice) : (report notices).result = .ok () := rfl

theorem result_ofExcept (r : Except Failure α) : (ofExcept r).result = r := rfl

/-- **Two runs in a row** succeed exactly if the first one does and the second one, given its answer, does; what
was done is what the first did and then what the second did. -/
theorem bind_eq_ok {r : Run α} {f : α → Run β} {acts : List Act} {b : β} :
    r >>= f = ⟨acts, .ok b⟩ ↔
      ∃ acts₁ a acts₂, r = ⟨acts₁, .ok a⟩ ∧ f a = ⟨acts₂, .ok b⟩ ∧ acts = acts₁ ++ acts₂ := by
  obtain ⟨done, result⟩ := r
  cases result with
  | error e =>
    constructor
    · intro h
      have hresult : (.error e : Except Failure β) = .ok b := congrArg Run.result h
      cases hresult
    · rintro ⟨acts₁, a, acts₂, h, -⟩
      cases h
  | ok a =>
    constructor
    · -- the first run is known to have succeeded, so both runs are told by their parts
      intro h
      refine ⟨done, a, (f a).acts, rfl, ?_, (congrArg Run.acts h).symm⟩
      have hresult : (f a).result = .ok b := congrArg Run.result h
      rw [← hresult]
    · rintro ⟨acts₁, a', acts₂, h, hf, rfl⟩
      cases h
      show Run.mk (done ++ (f a).acts) (f a).result = _
      rw [hf]

/-- **Two runs in a row fail** where the first one does, or where it succeeds and the second one fails. -/
theorem bind_eq_error {r : Run α} {f : α → Run β} {acts : List Act} {e : Failure} :
    r >>= f = ⟨acts, .error e⟩ ↔
      r = ⟨acts, .error e⟩ ∨
        ∃ acts₁ a acts₂, r = ⟨acts₁, .ok a⟩ ∧ f a = ⟨acts₂, .error e⟩ ∧ acts = acts₁ ++ acts₂ := by
  obtain ⟨done, result⟩ := r
  cases result with
  | error e' =>
    constructor
    · -- the first run failed, and nothing was done after it
      intro h
      have hacts : done = acts := congrArg Run.acts h
      have hresult : (.error e' : Except Failure β) = .error e := congrArg Run.result h
      rw [hacts, Except.error.inj hresult]
      exact .inl rfl
    · rintro (h | ⟨acts₁, a, acts₂, h, -⟩)
      · cases h
        rfl
      · cases h
  | ok a =>
    constructor
    · intro h
      refine .inr ⟨done, a, (f a).acts, rfl, ?_, (congrArg Run.acts h).symm⟩
      have hresult : (f a).result = .error e := congrArg Run.result h
      rw [← hresult]
    · rintro (h | ⟨acts₁, a', acts₂, h, hf, rfl⟩)
      · cases h
      · cases h
        show Run.mk (done ++ (f a).acts) (f a).result = _
        rw [hf]

theorem pure_eq_ok {a b : α} {acts : List Act} :
    (Pure.pure a : Run α) = ⟨acts, .ok b⟩ ↔ acts = [] ∧ a = b := by
  constructor
  · intro h
    cases h
    exact ⟨rfl, rfl⟩
  · rintro ⟨rfl, rfl⟩
    rfl

theorem ofExcept_eq_ok {r : Except Failure α} {a : α} {acts : List Act} :
    ofExcept r = ⟨acts, .ok a⟩ ↔ acts = [] ∧ r = .ok a := by
  constructor
  · intro h
    cases h
    exact ⟨rfl, rfl⟩
  · rintro ⟨rfl, rfl⟩
    rfl

theorem ofExcept_eq_error {r : Except Failure α} {e : Failure} {acts : List Act} :
    ofExcept r = ⟨acts, .error e⟩ ↔ acts = [] ∧ r = .error e := by
  constructor
  · intro h
    cases h
    exact ⟨rfl, rfl⟩
  · rintro ⟨rfl, rfl⟩
    rfl

theorem pure_ne_error {a : α} {e : Failure} {acts : List Act} : (Pure.pure a : Run α) ≠ ⟨acts, .error e⟩ := by
  intro h
  cases congrArg Run.result h

theorem report_ne_error {notices : List Log.Notice} {e : Failure} {acts : List Act} :
    report notices ≠ ⟨acts, .error e⟩ := by
  intro h
  cases congrArg Run.result h

theorem report_eq_ok {notices : List Log.Notice} {u : Unit} {acts : List Act} :
    report notices = ⟨acts, .ok u⟩ ↔ acts = notices.map .report := by
  constructor
  · intro h
    exact (congrArg Run.acts h).symm
  · rintro rfl
    rfl

theorem notices_append (acts acts' : List Act) (result : Except Failure α) :
    (Run.mk (acts ++ acts') result).notices = (Run.mk acts result).notices ++ (Run.mk acts' result).notices :=
  List.filterMap_append

theorem notices_map_report (notices : List Log.Notice) (result : Except Failure α) :
    (Run.mk (notices.map .report) result).notices = notices := by
  induction notices with
  | nil => rfl
  | cons n rest ih =>
    show n :: (Run.mk (rest.map .report) result).notices = n :: rest
    rw [ih]

end LayeredConfig.Run
