import LayeredConfig.Proofs.Json.Sorted

/-!
# What a fingerprint identifies

The canonical text of a map can be read again, so it tells what is at each key; and as the members are sorted, it tells
nothing else. Two maps of texts and lists of texts have one canonical text exactly if they hold the same
(`Json.canonical_eq_iff`). The rest of the way to a fingerprint loses nothing but what the digest loses: bytes read as
their text, and hexadecimal digits as their words (`Sha256.digest_eq_of_hex_eq`).

* **`Fingerprint.identifies`** — maps with one fingerprint hold the same, or the digests of two texts collide.
-/

namespace LayeredConfig

/-! ## The canonical text -/

namespace Json

/-- No surrogate is in the keys and the texts of the map. -/
def Encodable (m : OrderedMap (Text ⊕ List Text)) : Prop :=
  ∀ e ∈ m.entries, e.1.Writable ∧ ∀ t ∈ textsOf e.2, t.Writable

instance (m : OrderedMap (Text ⊕ List Text)) : Decidable (Encodable m) :=
  inferInstanceAs (Decidable (∀ e ∈ m.entries, e.1.Writable ∧ ∀ t ∈ textsOf e.2, t.Writable))

variable {m m' : OrderedMap (Text ⊕ List Text)}

/-- **The canonical text** tells what is at each key, and nothing else. -/
theorem canonical_eq_iff (m m' : OrderedMap (Text ⊕ List Text)) :
    (ofTextsMap m).canonical = (ofTextsMap m').canonical ↔ ∀ key, m.get? key = m'.get? key := by
  rw [← OrderedMap.sorted_eq_iff]
  constructor
  · intro hsame
    have hread := read_write JsonLayout.legible_compact m
    rw [← canonical, hsame, canonical, read_write JsonLayout.legible_compact] at hread
    exact (ofTextsMap_injective (Except.ok.inj hread)).symm
  · intro hsame
    rw [canonical, canonical, write_ofTextsMap, write_ofTextsMap, hsame]

theorem writable_canonical (h : Encodable m) : (ofTextsMap m).canonical.Writable := by
  have hvalue (v : Text ⊕ List Text) (hv : ∀ t ∈ textsOf v, t.Writable) :
      (write .compact (ofTexts v)).Writable := by
    rcases v with t | ts
    · rw [ofTexts, write, writable_writeText]
      exact hv t (by simp [textsOf])
    · rw [ofTexts, writable_list JsonLayout.writable_compact, List.forall_mem_map]
      intro t ht
      rw [write, writable_writeText]
      exact hv t ht
  rw [canonical, ofTextsMap, ofMap, writable_object JsonLayout.writable_compact, OrderedMap.mapValues,
    List.forall_mem_map]
  exact fun e he => ⟨(h e he).1, hvalue e.2 (h e he).2⟩

end Json

/-! ## Digests in hexadecimal digits -/

namespace Text

/-- The number that hexadecimal digits name. -/
def hexNumber (t : Text) : Nat :=
  t.foldl (fun n c => n * 16 + c.hexValue?.getD 0) 0

theorem hexValue?_digitChar {d : Nat} (h : d < 16) : (CodePoint.ofChar d.digitChar).hexValue? = some d := by
  have hall : ∀ d < 16, (CodePoint.ofChar (Nat.digitChar d)).hexValue? = some d := by decide
  exact hall d h

theorem hexNumber_concat (t : Text) (c : CodePoint) :
    hexNumber (t ++ [c]) = hexNumber t * 16 + c.hexValue?.getD 0 := by
  rw [hexNumber, List.foldl_append]
  rfl

theorem hexNumber_toDigits (n : Nat) : hexNumber ((Nat.toDigits 16 n).map CodePoint.ofChar) = n := by
  induction n using Nat.strongRecOn with
  | ind n ih =>
    rw [Nat.toDigits_eq_if (by decide)]
    by_cases hn : n < 16
    · rw [if_pos hn, hexNumber, List.map_singleton, List.foldl_cons, hexValue?_digitChar hn]
      simp
    · -- the last digit is the remainder, and the induction is on what is before it
      rw [if_neg hn, List.map_append, List.map_singleton, hexNumber_concat, ih (n / 16) (by omega),
        hexValue?_digitChar (Nat.mod_lt n (by decide)), Option.getD_some]
      omega

/-- Zeros in front do not count. -/
theorem hexNumber_zeros (k : Nat) (t : Text) :
    hexNumber (List.replicate k (CodePoint.ofChar '0') ++ t) = hexNumber t := by
  induction k with
  | zero => rfl
  | succ k ih =>
    rw [List.replicate_succ, List.cons_append, ← ih]
    rfl

theorem hexNumber_hex (width n : Nat) : hexNumber (hex width n) = n := by
  rw [hex, List.map_append, List.map_replicate, hexNumber_zeros, hexNumber_toDigits]

/-- Eight digits are enough for a word. -/
theorem length_hex_word (w : UInt32) : (hex 8 w.toNat).length = 8 := by
  have hword := w.toNat_lt
  have hlength : (Nat.toDigits 16 w.toNat).length ≤ 8 :=
    (Nat.length_toDigits_le_iff (by decide) (by decide)).mpr (by omega)
  simp only [hex, List.length_map, List.length_append, List.length_replicate]
  omega

end Text

namespace Sha256

/-- The words of a digest, written one after the other. -/
theorem length_flatMap_hex (ws : List UInt32) : (ws.flatMap fun w => Text.hex 8 w.toNat).length = 8 * ws.length := by
  induction ws with
  | nil => rfl
  | cons w ws ih =>
    rw [List.flatMap_cons, List.length_append, Text.length_hex_word, ih, List.length_cons]
    omega

/-- The digits of words tell the words, as each word takes eight of them. -/
theorem flatMap_hex_injective {ws ws' : List UInt32}
    (h : (ws.flatMap fun w => Text.hex 8 w.toNat) = ws'.flatMap fun w => Text.hex 8 w.toNat) : ws = ws' := by
  have hlength : ws.length = ws'.length := by
    have hdigits := congrArg List.length h
    rw [length_flatMap_hex, length_flatMap_hex] at hdigits
    omega
  induction ws generalizing ws' with
  | nil => exact (List.length_eq_zero_iff.mp hlength.symm).symm
  | cons w ws ih =>
    -- the first eight digits are those of the first word on both sides
    obtain ⟨w', ws', rfl, hrest⟩ := List.length_eq_succ_iff.mp hlength.symm
    rw [List.flatMap_cons, List.flatMap_cons] at h
    obtain ⟨hw, hws⟩ := List.append_inj h (by rw [Text.length_hex_word, Text.length_hex_word])
    have hnumber := congrArg Text.hexNumber hw
    rw [Text.hexNumber_hex, Text.hexNumber_hex] at hnumber
    rw [UInt32.toNat_inj.mp hnumber, ih hws hrest.symm]

/-- The hexadecimal digits of a digest tell the digest. -/
theorem digest_eq_of_hex_eq {message message' : List UInt8} (h : hex message = hex message') :
    digest message = digest message' :=
  flatMap_hex_injective h

end Sha256

/-! ## Fingerprints -/

theorem Utf8.exists_encode {t : Text} (h : t.Writable) : ∃ bytes, encode t = .ok bytes :=
  ⟨_, encode_eq_ok_iff.mpr ⟨h, rfl⟩⟩

namespace Fingerprint

variable {m m' : OrderedMap (Text ⊕ List Text)}

theorem ofJson_ofTextsMap {bytes : List UInt8} (h : Utf8.encode (Json.ofTextsMap m).canonical = .ok bytes) :
    ofJson (Json.ofTextsMap m) = .ok (Sha256.hex bytes) := by
  show ofText (Json.ofTextsMap m).canonical = _
  rw [ofText, h]

/-- **A fingerprint identifies what a map holds.** Two maps of texts and lists of texts have one canonical text exactly
if they hold the same at each key, in whatever order their keys came. Their fingerprints are the digests of the bytes of
the two texts; they are the same if the maps hold the same, and else only where different bytes have one digest. -/
theorem identifies (h : Json.Encodable m) (h' : Json.Encodable m') :
    ((Json.ofTextsMap m).canonical = (Json.ofTextsMap m').canonical ↔ ∀ key, m.get? key = m'.get? key) ∧
      ∃ bytes bytes', Utf8.encode (Json.ofTextsMap m).canonical = .ok bytes ∧
        Utf8.encode (Json.ofTextsMap m').canonical = .ok bytes' ∧
        ofJson (Json.ofTextsMap m) = .ok (Sha256.hex bytes) ∧
        ofJson (Json.ofTextsMap m') = .ok (Sha256.hex bytes') ∧
        (Sha256.hex bytes = Sha256.hex bytes' ↔
          (∀ key, m.get? key = m'.get? key) ∨ (bytes ≠ bytes' ∧ Sha256.digest bytes = Sha256.digest bytes')) := by
  have hcanonical := Json.canonical_eq_iff m m'
  obtain ⟨bytes, hbytes⟩ := Utf8.exists_encode (Json.writable_canonical h)
  obtain ⟨bytes', hbytes'⟩ := Utf8.exists_encode (Json.writable_canonical h')
  -- bytes read as the text that was encoded
  have hsame : bytes = bytes' ↔ ∀ key, m.get? key = m'.get? key := by
    rw [← hcanonical]
    constructor
    · rintro rfl
      exact Except.ok.inj ((Utf8.decode_encode hbytes).symm.trans (Utf8.decode_encode hbytes'))
    · intro htext
      rw [htext, hbytes'] at hbytes
      exact (Except.ok.inj hbytes).symm
  refine ⟨hcanonical, bytes, bytes', hbytes, hbytes', ofJson_ofTextsMap hbytes, ofJson_ofTextsMap hbytes', ?_⟩
  constructor
  · -- equal digests of different bytes are a collision, and it is said that they are one
    intro hhex
    by_cases hmaps : ∀ key, m.get? key = m'.get? key
    · exact .inl hmaps
    · exact .inr ⟨fun heq => hmaps (hsame.mp heq), Sha256.digest_eq_of_hex_eq hhex⟩
  · rintro (hmaps | ⟨-, hdigest⟩)
    · rw [hsame.mpr hmaps]
    · rw [Sha256.hex, Sha256.hex, hdigest]

/-- A list, and a text that spells the list. -/
theorem identifies_spelled :
    ∃ listed spelled : OrderedMap (Text ⊕ List Text),
      listed = .ofList [("k", .inr ["a,b"]), ("l", .inl "c")] ∧
      spelled = .ofList [("l", .inl "c"), ("k", .inl "[\"a,b\"]")] ∧
      Json.Encodable listed ∧ Json.Encodable spelled ∧
      (Json.ofTextsMap listed).canonical ≠ (Json.ofTextsMap spelled).canonical := by
  have hlisted : Json.Encodable (.ofList [("k", .inr ["a,b"]), ("l", .inl "c")]) := by decide
  have hspelled : Json.Encodable (.ofList [("l", .inl "c"), ("k", .inl "[\"a,b\"]")]) := by decide
  obtain ⟨hcanonical, -⟩ := identifies hlisted hspelled
  refine ⟨_, _, rfl, rfl, hlisted, hspelled, fun hsame => ?_⟩
  have hvalue := hcanonical.mp hsame "k"
  revert hvalue
  decide

end Fingerprint

end LayeredConfig
