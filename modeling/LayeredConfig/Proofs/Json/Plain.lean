import LayeredConfig.Proofs.Json.Written

/-!
# Written JSON is one line

Control characters are escaped, and the escapes have none, so whatever the texts of a value hold, it is written without
control characters if the layout has none (**`Json.plain_write`**).
-/

namespace LayeredConfig

/-! ## Texts without control characters -/

namespace Text

/-- No control character is in the text, so that it has no line break. -/
def Plain (t : Text) : Prop :=
  ∀ c ∈ t, 0x20 ≤ c.toNat

instance (t : Text) : Decidable t.Plain :=
  inferInstanceAs (Decidable (∀ c ∈ t, 0x20 ≤ c.toNat))

variable {t u : Text}

@[simp] theorem plain_nil : Plain [] := fun _ h => nomatch h

@[simp] theorem plain_cons {c : CodePoint} : Plain (c :: t) ↔ 0x20 ≤ c.toNat ∧ t.Plain :=
  List.forall_mem_cons

@[simp] theorem plain_append : Plain (t ++ u) ↔ t.Plain ∧ u.Plain :=
  List.forall_mem_append

theorem Plain.of_subset (h : t.Plain) (hsub : u ⊆ t) : u.Plain :=
  fun c hc => h c (hsub hc)

/-- A plain text has no line break. -/
theorem Plain.notMem_newline (h : t.Plain) : CodePoint.ofChar '\n' ∉ t :=
  fun hc => absurd (h _ hc) (by decide)

theorem plain_replicate {c : CodePoint} (h : 0x20 ≤ c.toNat) (n : Nat) : Plain (List.replicate n c) :=
  fun d hd => by rwa [List.eq_of_mem_replicate hd]

theorem plain_flatMap {f : CodePoint → Text} (hf : ∀ c, (f c).Plain) (t : Text) : Plain (t.flatMap f) := by
  intro c hc
  obtain ⟨d, -, hd⟩ := List.mem_flatMap.mp hc
  exact hf d c hd

/-- Texts are joined without control characters if they and the separator have none. -/
theorem plain_join {separator : Text} (hsep : separator.Plain) {ts : List Text} (h : ∀ t ∈ ts, t.Plain) :
    Plain (join separator ts) := by
  induction ts with
  | nil => exact plain_nil
  | cons t ts ih =>
    obtain ⟨ht, hts⟩ := List.forall_mem_cons.mp h
    cases ts with
    | nil => exact ht
    | cons u ts =>
      rw [join, plain_append, plain_append]
      exact ⟨⟨ht, hsep⟩, ih hts⟩

theorem plain_digits (n : Nat) : Plain ((Nat.toDigits 10 n).map CodePoint.ofChar) := by
  intro c hc
  obtain ⟨d, hd, rfl⟩ := List.mem_map.mp hc
  -- digits stand between `0` and `9`, which are no controls
  have hdigit : d.isDigit = true := Nat.isDigit_of_mem_toDigits (by decide) (by decide) hd
  rw [Char.isDigit, Bool.and_eq_true, decide_eq_true_eq, decide_eq_true_eq] at hdigit
  have hzero : 48 ≤ d.toNat := hdigit.1
  show 0x20 ≤ d.toNat
  omega

theorem plain_ofNat (n : Nat) : Plain (ofNat n) :=
  plain_digits n

theorem plain_ofInt (n : Int) : Plain (ofInt n) := by
  cases n with
  | ofNat n => exact plain_ofNat n
  | negSucc n => exact plain_cons.mpr ⟨by decide, plain_ofNat (n + 1)⟩

theorem plain_padded (width n : Nat) : Plain (padded width n) := by
  rw [padded, List.map_append, List.map_replicate]
  exact plain_append.mpr ⟨plain_replicate (by decide) _, plain_digits n⟩

end Text

/-! ## Numbers -/

namespace FloatLayout

variable {digits : Text}

/-- Digits with a point among them, and zeros where there are not enough. -/
theorem plain_positional (h : digits.Plain) (point : Int) : (positional digits point).Plain := by
  have hzeros (n : Nat) : Text.Plain (List.replicate n (CodePoint.ofChar '0')) := Text.plain_replicate (by decide) n
  unfold positional
  split
  · exact Text.plain_append.mpr ⟨Text.plain_append.mpr ⟨by decide, hzeros _⟩, h⟩
  · have hwhole : Text.Plain (digits.take point.toNat) := h.of_subset (List.take_subset _ _)
    have hfraction : Text.Plain (digits.drop point.toNat) := h.of_subset (List.drop_subset _ _)
    simp only [Text.plain_append]
    refine ⟨⟨⟨hwhole, hzeros _⟩, by decide⟩, ?_⟩
    split
    · decide
    · exact hfraction

/-- Digits with a point behind the first one, and an exponent. -/
theorem plain_scientific (h : digits.Plain) (width : Nat) (power : Int) : (scientific width digits power).Plain := by
  have hfirst : Text.Plain (digits.take 1) := h.of_subset (List.take_subset _ _)
  have hrest : Text.Plain (digits.drop 1) := h.of_subset (List.drop_subset _ _)
  unfold scientific
  simp only [Text.plain_append]
  refine ⟨⟨⟨hfirst, ?_⟩, ?_⟩, Text.plain_padded _ _⟩
  · split
    · exact Text.plain_nil
    · exact Text.plain_append.mpr ⟨by decide, hrest⟩
  · split <;> decide

/-- A number is written without control characters. -/
theorem plain_write (x : Binary64) : (json.write x).Plain := by
  have hsign (negative : Bool) : Text.Plain (if negative then ("-" : Text) else []) := by
    cases negative <;> decide
  cases x with
  | nan => decide
  | infinite negative => exact Text.plain_append.mpr ⟨hsign negative, by decide⟩
  | finite negative mantissa exponent =>
    rw [write]
    refine Text.plain_append.mpr ⟨hsign negative, ?_⟩
    -- which digits they are does not matter
    generalize (if mantissa = 0 then (⟨0, 0⟩ : Decimal) else Shortest.decimal mantissa exponent) = d
    split
    · exact plain_positional (Text.plain_ofNat _) _
    · exact plain_scientific (Text.plain_ofNat _) _ _

end FloatLayout

/-! ## Values -/

/-- Nothing that stands between the parts of a value is a control character. -/
structure JsonLayout.Plain (layout : JsonLayout) : Prop where
  item : layout.item.Plain
  name : layout.name.Plain

theorem JsonLayout.plain_spaced : JsonLayout.spaced.Plain :=
  ⟨by decide, by decide⟩

namespace Json

variable {layout : JsonLayout}

/-- A code point is written without control characters, whichever it is. -/
theorem plain_escape (c : CodePoint) : (escape c).Plain := by
  have hhex : ∀ n < 0x20, (Text.hex 4 n).Plain := by decide
  rw [escape]
  split_ifs with h₁ h₂ h₃ h₄ h₅ h₆ h₇ h₈
  · decide
  · decide
  · decide
  · decide
  · decide
  · decide
  · decide
  · -- what is a control is written by its number, and what is left is none
    exact Text.plain_append.mpr ⟨by decide, hhex _ h₈⟩
  · exact Text.plain_cons.mpr ⟨Nat.not_lt.mp h₈, Text.plain_nil⟩

theorem plain_writeText (t : Text) : (writeText t).Plain := by
  rw [writeText, Text.plain_append, Text.plain_append]
  exact ⟨⟨by decide, Text.plain_flatMap plain_escape t⟩, by decide⟩

theorem plain_writeObject (hlayout : layout.Plain) {members : List (Text × Text)}
    (h : ∀ e ∈ members, e.2.Plain) : (writeObject layout members).Plain := by
  rw [writeObject, Text.plain_append, Text.plain_append]
  refine ⟨⟨by decide, Text.plain_join hlayout.item ?_⟩, by decide⟩
  rw [List.forall_mem_map]
  intro e he
  -- sorting only moves the members
  have hvalue : e.2.Plain := h e ((sortMembers_perm members).mem_iff.mp he)
  exact Text.plain_append.mpr ⟨Text.plain_append.mpr ⟨plain_writeText e.1, hlayout.name⟩, hvalue⟩

mutual

/-- **A value is written without control characters**, on one line. -/
theorem plain_write (hlayout : layout.Plain) : ∀ j : Json, (write layout j).Plain
  | .null => by rw [write]; decide
  | .bool b => by rw [write]; cases b <;> decide
  | .int n => by rw [write]; exact Text.plain_ofInt n
  | .float x => by rw [write]; exact FloatLayout.plain_write x
  | .text t => by rw [write]; exact plain_writeText t
  | .list items => by
    rw [write, Text.plain_append, Text.plain_append]
    exact ⟨⟨by decide, Text.plain_join hlayout.item (plain_writeItems hlayout items)⟩, by decide⟩
  | .object members => by
    rw [write]
    exact plain_writeObject hlayout (plain_writeMembers hlayout members)

theorem plain_writeItems (hlayout : layout.Plain) : ∀ items : List Json, ∀ t ∈ writeItems layout items, t.Plain
  | [] => fun _ ht => nomatch ht
  | j :: rest => List.forall_mem_cons.mpr ⟨plain_write hlayout j, plain_writeItems hlayout rest⟩

theorem plain_writeMembers (hlayout : layout.Plain) :
    ∀ members : List (Text × Json), ∀ e ∈ writeMembers layout members, e.2.Plain
  | [] => fun _ he => nomatch he
  | (_, j) :: rest => List.forall_mem_cons.mpr ⟨plain_write hlayout j, plain_writeMembers hlayout rest⟩

end

end Json

end LayeredConfig
