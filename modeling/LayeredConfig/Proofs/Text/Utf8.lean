import LayeredConfig.Text.Utf8

/-!
# UTF-8: what is written reads back

A text has bytes exactly if no surrogate is in it (`Text.Writable`, `encode_eq_ok_iff`), and its bytes read as the text
(**`decode_encode`**). Reading is a scan that skips what belongs to a code point already read, so the proof goes one
code point at a time: the first byte announces how many follow and in which ranges (`lead?_two`, `lead?_three`,
`lead?_four`), and those that are written lie in them.
-/

namespace LayeredConfig

/-! ## Texts without surrogates -/

namespace Text

/-- No code point of the text is a surrogate. -/
def Writable (t : Text) : Prop :=
  ∀ c ∈ t, c.isSurrogate = false

instance (t : Text) : Decidable t.Writable :=
  inferInstanceAs (Decidable (∀ c ∈ t, c.isSurrogate = false))

@[simp] theorem writable_nil : Writable [] := fun _ h => nomatch h

@[simp] theorem writable_cons {c : CodePoint} {t : Text} :
    Writable (c :: t) ↔ c.isSurrogate = false ∧ t.Writable :=
  List.forall_mem_cons

@[simp] theorem writable_append {t u : Text} : Writable (t ++ u) ↔ t.Writable ∧ u.Writable :=
  List.forall_mem_append

@[simp] theorem isSurrogate_ofChar (c : Char) : (CodePoint.ofChar c).isSurrogate = false := by
  have hvalid := c.valid
  simp only [UInt32.isValidChar, Nat.isValidChar] at hvalid
  have hnot : ¬ (0xD800 ≤ c.val.toNat ∧ c.val.toNat ≤ 0xDFFF) := by omega
  show (decide (0xD800 ≤ c.val.toNat) && decide (c.val.toNat ≤ 0xDFFF)) = false
  simpa using hnot

theorem writable_map_ofChar (cs : List Char) : Writable (cs.map CodePoint.ofChar) := by
  intro c hc
  obtain ⟨x, -, rfl⟩ := List.mem_map.mp hc
  exact isSurrogate_ofChar x

@[simp] theorem writable_ofString (s : String) : Writable (ofString s) :=
  writable_map_ofChar s.toList

@[simp] theorem writable_hex (width n : Nat) : Writable (hex width n) :=
  writable_map_ofChar _

theorem writable_flatMap {f : CodePoint → Text} (hf : ∀ c, (f c).Writable ↔ c.isSurrogate = false) (t : Text) :
    Writable (t.flatMap f) ↔ t.Writable := by
  induction t with
  | nil => simp
  | cons c t ih => rw [List.flatMap_cons, writable_append, writable_cons, ih, hf]

theorem writable_join {separator : Text} (hsep : separator.Writable) (ts : List Text) :
    Writable (join separator ts) ↔ ∀ t ∈ ts, t.Writable := by
  induction ts with
  | nil => simp [join]
  | cons t ts ih =>
    cases ts with
    | nil => simp [join]
    | cons u ts =>
      rw [join, writable_append, writable_append, ih, @List.forall_mem_cons _ _ t]
      exact ⟨fun h => ⟨h.1.1, h.2⟩, fun h => ⟨⟨h.1, hsep⟩, h.2⟩⟩

end Text

namespace Utf8

variable {b low high : UInt8} {bits seen k n : Nat} {ranges : List (UInt8 × UInt8)} {bytes rest tail : List UInt8}

/-! ## What the first byte announces -/

theorem toNat_byte (h : k < 256) : (UInt8.ofNat k).toNat = k :=
  UInt8.toNat_ofNat_of_lt' h

theorem not_lt_of_le (h : low.toNat ≤ b.toNat) : ¬ b < low :=
  UInt8.not_lt.mpr (UInt8.le_iff_toNat_le.mpr h)

/-- A byte of ASCII announces nothing. -/
theorem lead?_one (h : b.toNat < 0x80) : lead? b = some (b.toNat, []) := by
  have hb : b < 0x80 := UInt8.lt_iff_toNat_lt.mpr h
  rw [lead?, if_pos hb]

/-- A first byte of two announces one byte of any continuation. -/
theorem lead?_two (hlow : 0xC2 ≤ b.toNat) (hhigh : b.toNat < 0xE0) :
    lead? b = some (b.toNat - 0xC0, [(0x80, 0xBF)]) := by
  have h₁ : ¬ b < 0x80 := not_lt_of_le (by show 0x80 ≤ b.toNat; omega)
  have h₂ : ¬ b < 0xC2 := not_lt_of_le (by show 0xC2 ≤ b.toNat; omega)
  have h₃ : b < 0xE0 := UInt8.lt_iff_toNat_lt.mpr hhigh
  rw [lead?, if_neg h₁, if_neg h₂, if_pos h₃]

/-- Of three bytes the second one is bounded below after `E0`, where two bytes would do, and above after `ED`,
where the surrogates are. -/
theorem lead?_three (hlow : 0xE0 ≤ b.toNat) (hhigh : b.toNat < 0xF0) :
    ∃ low high : UInt8, lead? b = some (b.toNat - 0xE0, [(low, high), (0x80, 0xBF)]) ∧
      low.toNat = (if b.toNat = 0xE0 then 0xA0 else 0x80) ∧
      high.toNat = (if b.toNat = 0xED then 0x9F else 0xBF) := by
  have h₁ : ¬ b < 0x80 := not_lt_of_le (by show 0x80 ≤ b.toNat; omega)
  have h₂ : ¬ b < 0xC2 := not_lt_of_le (by show 0xC2 ≤ b.toNat; omega)
  have h₃ : ¬ b < 0xE0 := not_lt_of_le (by show 0xE0 ≤ b.toNat; omega)
  have h₄ : b < 0xF0 := UInt8.lt_iff_toNat_lt.mpr hhigh
  -- two of the sixteen bytes bound the second one
  by_cases hE0 : b = 0xE0
  · subst hE0
    exact ⟨0xA0, 0xBF, rfl, rfl, rfl⟩
  · by_cases hED : b = 0xED
    · subst hED
      exact ⟨0x80, 0x9F, rfl, rfl, rfl⟩
    · have hE0' : b.toNat ≠ 0xE0 := fun h => hE0 (UInt8.toNat_inj.mp h)
      have hED' : b.toNat ≠ 0xED := fun h => hED (UInt8.toNat_inj.mp h)
      refine ⟨0x80, 0xBF, ?_, (if_neg hE0').symm, (if_neg hED').symm⟩
      simp only [lead?, h₁, h₂, h₃, h₄, if_true, if_false, beq_eq_false_iff_ne.mpr hE0,
        beq_eq_false_iff_ne.mpr hED, Bool.false_eq_true]

/-- Of four bytes the second one is bounded below after `F0`, where three bytes would do, and above after `F4`,
where the code points end. -/
theorem lead?_four (hlow : 0xF0 ≤ b.toNat) (hhigh : b.toNat ≤ 0xF4) :
    ∃ low high : UInt8, lead? b = some (b.toNat - 0xF0, [(low, high), (0x80, 0xBF), (0x80, 0xBF)]) ∧
      low.toNat = (if b.toNat = 0xF0 then 0x90 else 0x80) ∧
      high.toNat = (if b.toNat = 0xF4 then 0x8F else 0xBF) := by
  -- five bytes are left, and only the first and the last of them bound the second byte further
  have hcases : b = 0xF0 ∨ b = 0xF1 ∨ b = 0xF2 ∨ b = 0xF3 ∨ b = 0xF4 := by
    simp only [← UInt8.toNat_inj, UInt8.reduceToNat]
    omega
  rcases hcases with rfl | rfl | rfl | rfl | rfl
  · exact ⟨0x90, 0xBF, rfl, rfl, rfl⟩
  · exact ⟨0x80, 0xBF, rfl, rfl, rfl⟩
  · exact ⟨0x80, 0xBF, rfl, rfl, rfl⟩
  · exact ⟨0x80, 0xBF, rfl, rfl, rfl⟩
  · exact ⟨0x80, 0x8F, rfl, rfl, rfl⟩

/-- A byte in its range is read, and gives six bits. -/
theorem followers_cons (hlow : low.toNat ≤ k) (hhigh : k ≤ high.toNat) :
    followers bits seen ((low, high) :: ranges) (UInt8.ofNat k :: rest) =
      followers (bits * 64 + (k - 0x80)) (seen + 1) ranges rest := by
  have hnat : (UInt8.ofNat k).toNat = k := toNat_byte (Nat.lt_of_le_of_lt hhigh high.toNat_lt)
  have hin : (low ≤ UInt8.ofNat k && UInt8.ofNat k ≤ high) = true := by
    rw [Bool.and_eq_true, decide_eq_true_iff, decide_eq_true_iff, UInt8.le_iff_toNat_le,
      UInt8.le_iff_toNat_le, hnat]
    exact ⟨hlow, hhigh⟩
  rw [followers, if_pos hin, hnat]

/-! ## One code point -/

/-- Bytes that belong to a code point already read are skipped. -/
theorem go_skip (position : Nat) (tail rest : List UInt8) :
    decode.go position tail.length (tail ++ rest) = decode.go (position + tail.length) 0 rest := by
  induction tail generalizing position with
  | nil => rfl
  | cons b tail ih =>
    show decode.go (position + 1) tail.length (tail ++ rest) = _
    rw [ih, List.length_cons, Nat.add_right_comm, Nat.add_assoc]

/-- A sequence whose bytes are what the first one announces is read as one code point. -/
theorem go_sequence (position : Nat) (hlead : lead? b = some (bits, ranges))
    (hlength : tail.length = ranges.length) (hread : followers bits 1 ranges (tail ++ rest) = .ok n) :
    decode.go position 0 (b :: tail ++ rest) =
      (decode.go (position + 1 + tail.length) 0 rest).map (CodePoint.ofNat n :: ·) := by
  rw [List.cons_append, decode.go, hlead]
  simp only [hread]
  rw [← hlength, go_skip]

theorem le_continuation (m : Nat) : (0x80 : UInt8).toNat ≤ 0x80 + m % 64 :=
  Nat.le_add_right _ _

theorem continuation_le (m : Nat) : 0x80 + m % 64 ≤ (0xBF : UInt8).toNat := by
  show 0x80 + m % 64 ≤ 0xBF
  omega

theorem go_one (position : Nat) (rest : List UInt8) (h : n < 0x80) :
    decode.go position 0 ([UInt8.ofNat n] ++ rest) =
      (decode.go (position + 1) 0 rest).map (CodePoint.ofNat n :: ·) := by
  have hfirst : (UInt8.ofNat n).toNat = n := toNat_byte (by omega)
  have hlead := @lead?_one (UInt8.ofNat n) (by omega)
  rw [hfirst] at hlead
  exact @go_sequence _ _ _ [] rest [] position hlead rfl rfl

theorem ofNat_toNat (c : CodePoint) : CodePoint.ofNat c.toNat = c := by
  rw [CodePoint.ofNat, CodePoint.ofNat?, dif_pos c.isLt]
  rfl

/-- Two bytes are read as the number of their eleven bits. -/
theorem go_two (position : Nat) (rest : List UInt8) (hlow : 0x80 ≤ n) (hhigh : n < 0x800) :
    decode.go position 0 ([UInt8.ofNat (0xC0 + n / 64), UInt8.ofNat (0x80 + n % 64)] ++ rest) =
      (decode.go (position + 2) 0 rest).map (CodePoint.ofNat n :: ·) := by
  have hfirst : (UInt8.ofNat (0xC0 + n / 64)).toNat = 0xC0 + n / 64 := toNat_byte (by omega)
  have hlead := @lead?_two (UInt8.ofNat (0xC0 + n / 64)) (by omega) (by omega)
  refine go_sequence position hlead rfl ?_
  rw [List.singleton_append, followers_cons (le_continuation _) (continuation_le _), followers, hfirst]
  exact congrArg Except.ok (by omega)

/-- Three bytes are read as the number of their sixteen bits, which must not be a surrogate. -/
theorem go_three (position : Nat) (rest : List UInt8) (hlow : 0x800 ≤ n) (hhigh : n < 0x10000)
    (hscalar : n < 0xD800 ∨ 0xDFFF < n) :
    decode.go position 0 ([UInt8.ofNat (0xE0 + n / 4096), UInt8.ofNat (0x80 + n / 64 % 64),
        UInt8.ofNat (0x80 + n % 64)] ++ rest) =
      (decode.go (position + 3) 0 rest).map (CodePoint.ofNat n :: ·) := by
  have hfirst : (UInt8.ofNat (0xE0 + n / 4096)).toNat = 0xE0 + n / 4096 := toNat_byte (by omega)
  obtain ⟨low, high, hlead, hmin, hmax⟩ :=
    @lead?_three (UInt8.ofNat (0xE0 + n / 4096)) (by omega) (by omega)
  -- a second byte below the range would need two bytes only, one above it is that of a surrogate
  have hsecond : low.toNat ≤ 0x80 + n / 64 % 64 ∧ 0x80 + n / 64 % 64 ≤ high.toNat := by
    rw [hmin, hmax, hfirst]
    constructor <;> split <;> omega
  refine go_sequence position hlead rfl ?_
  rw [List.cons_append, followers_cons hsecond.1 hsecond.2, List.singleton_append,
    followers_cons (le_continuation _) (continuation_le _), followers, hfirst]
  exact congrArg Except.ok (by omega)

/-- Four bytes are read as the number of their twenty-one bits, as far as there are code points. -/
theorem go_four (position : Nat) (rest : List UInt8) (hlow : 0x10000 ≤ n) (hhigh : n < 0x110000) :
    decode.go position 0 ([UInt8.ofNat (0xF0 + n / 262144), UInt8.ofNat (0x80 + n / 4096 % 64),
        UInt8.ofNat (0x80 + n / 64 % 64), UInt8.ofNat (0x80 + n % 64)] ++ rest) =
      (decode.go (position + 4) 0 rest).map (CodePoint.ofNat n :: ·) := by
  have hfirst : (UInt8.ofNat (0xF0 + n / 262144)).toNat = 0xF0 + n / 262144 := toNat_byte (by omega)
  obtain ⟨low, high, hlead, hmin, hmax⟩ :=
    @lead?_four (UInt8.ofNat (0xF0 + n / 262144)) (by omega) (by omega)
  -- a second byte below the range would need three bytes only, one above it is beyond the last code point
  have hsecond : low.toNat ≤ 0x80 + n / 4096 % 64 ∧ 0x80 + n / 4096 % 64 ≤ high.toNat := by
    rw [hmin, hmax, hfirst]
    constructor <;> split <;> omega
  refine go_sequence position hlead rfl ?_
  rw [List.cons_append, followers_cons hsecond.1 hsecond.2, List.cons_append,
    followers_cons (le_continuation _) (continuation_le _), List.singleton_append,
    followers_cons (le_continuation _) (continuation_le _), followers, hfirst]
  exact congrArg Except.ok (by omega)

/-- **One code point** is read back from its bytes, whatever follows. -/
theorem go_encodeCodePoint (position : Nat) (rest : List UInt8) {c : CodePoint} (hc : c.isSurrogate = false) :
    decode.go position 0 (encodeCodePoint c ++ rest) =
      (decode.go (position + (encodeCodePoint c).length) 0 rest).map (c :: ·) := by
  have hscalar : c.toNat < 0xD800 ∨ 0xDFFF < c.toNat := by
    simp only [CodePoint.isSurrogate, Bool.and_eq_false_iff, decide_eq_false_iff_not] at hc
    omega
  have hself : CodePoint.ofNat c.toNat = c := ofNat_toNat c
  rw [encodeCodePoint]
  -- one case for each length of the sequence
  by_cases h₁ : c.toNat < 0x80
  · have hone := go_one position rest h₁
    rw [hself] at hone
    simp only [if_pos h₁]
    exact hone
  by_cases h₂ : c.toNat < 0x800
  · have htwo := go_two position rest (by omega) h₂
    rw [hself] at htwo
    simp only [if_neg h₁, if_pos h₂]
    exact htwo
  by_cases h₃ : c.toNat < 0x10000
  · have hthree := go_three position rest (by omega) h₃ hscalar
    rw [hself] at hthree
    simp only [if_neg h₁, if_neg h₂, if_pos h₃]
    exact hthree
  · have hfour := go_four position rest (by omega) c.isLt
    rw [hself] at hfour
    simp only [if_neg h₁, if_neg h₂, if_neg h₃]
    exact hfour

/-! ## Texts -/

/-- From whatever position, which only tells where a surrogate is. -/
theorem encodeGo_eq_ok_iff (position : Nat) (t : Text) :
    encode.go position t = .ok bytes ↔ t.Writable ∧ bytes = t.flatMap encodeCodePoint := by
  induction t generalizing position bytes with
  | nil =>
    rw [encode.go, Except.ok.injEq]
    exact ⟨fun h => ⟨Text.writable_nil, h.symm⟩, fun h => h.2.symm⟩
  | cons c t ih =>
    rw [encode.go, Text.writable_cons, List.flatMap_cons]
    by_cases hc : c.isSurrogate = true
    · rw [if_pos hc]
      constructor
      · intro h
        cases h
      · rintro ⟨⟨hnot, -⟩, -⟩
        rw [hc] at hnot
        cases hnot
    · have hc' : c.isSurrogate = false := by simpa using hc
      rw [if_neg hc]
      -- the bytes of `c` stand in front of those of the rest, if the rest has any
      constructor
      · intro h
        cases hrest : encode.go (position + 1) t with
        | error e =>
          rw [hrest] at h
          cases h
        | ok bs =>
          rw [hrest] at h
          cases h
          obtain ⟨hwritable, rfl⟩ := (ih (position + 1)).mp hrest
          exact ⟨⟨hc', hwritable⟩, rfl⟩
      · rintro ⟨⟨-, hwritable⟩, rfl⟩
        rw [(ih (position + 1)).mpr ⟨hwritable, rfl⟩]
        rfl

/-- **A text has bytes** exactly if no surrogate is in it: those of its code points, one after the other. -/
theorem encode_eq_ok_iff {t : Text} :
    encode t = .ok bytes ↔ t.Writable ∧ bytes = t.flatMap encodeCodePoint :=
  encodeGo_eq_ok_iff 0 t

theorem encode_append {t u : Text} {bytes more : List UInt8} (ht : encode t = .ok bytes) (hu : encode u = .ok more) :
    encode (t ++ u) = .ok (bytes ++ more) := by
  obtain ⟨hwritable, rfl⟩ := encode_eq_ok_iff.mp ht
  obtain ⟨hmore, rfl⟩ := encode_eq_ok_iff.mp hu
  exact encode_eq_ok_iff.mpr ⟨Text.writable_append.mpr ⟨hwritable, hmore⟩, List.flatMap_append.symm⟩

/-- **The bytes of a text read as the text.** -/
theorem decode_encode {t : Text} (h : encode t = .ok bytes) : decode bytes = .ok t := by
  obtain ⟨hwritable, rfl⟩ := encode_eq_ok_iff.mp h
  -- the position only tells where a fault is, so it is anything here
  have hread : ∀ position, decode.go position 0 (t.flatMap encodeCodePoint) = .ok t := by
    clear h
    induction t with
    | nil => exact fun _ => rfl
    | cons c t ih =>
      obtain ⟨hc, hrest⟩ := Text.writable_cons.mp hwritable
      intro position
      rw [List.flatMap_cons, go_encodeCodePoint position _ hc, ih hrest]
      rfl
  exact hread 0

end Utf8

end LayeredConfig
