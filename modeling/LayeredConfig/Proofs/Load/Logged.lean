import LayeredConfig.Proofs.Identity
import LayeredConfig.Proofs.Load.Culprit
import LayeredConfig.Proofs.Store.Memory

/-!
# The fingerprint that a load logs

A load logs a fingerprint of what it stored, and the configuration reports one of what readers are given. To the first
a list of texts is a list; to the second it is the text of its items joined by commas. The canonical text shows which of
the two it was (`Json.canonical_eq_iff`), so the two fingerprints agree where nothing but texts is held. Where they
agree otherwise, different texts have one digest.

* **`Fingerprint.agree_iff`** — for one map.
* **`Configuration.logged_eq_reported_iff`** — for any load, right after it.
* **`Configuration.not_logged_eq_reported`** — with a list they differ.
-/

namespace LayeredConfig

/-- The digest does not tell two texts apart. -/
def Sha256.Confuses (t u : Text) : Prop :=
  ∃ bytes bytes', Utf8.encode t = .ok bytes ∧ Utf8.encode u = .ok bytes' ∧ bytes ≠ bytes' ∧
    Sha256.digest bytes = Sha256.digest bytes'

namespace RawValue

/-- The value is one text, and no list. -/
def IsText : RawValue → Prop
  | .text _ => True
  | .list _ _ => False

/-- A raw value as what is written of it. -/
def parts : RawValue → Text ⊕ List Text
  | .text t => .inl t
  | .list head tail => .inr (head :: tail)

theorem toJson_eq (v : RawValue) : v.toJson = Json.ofTexts v.parts := by
  cases v <;> rfl

theorem textsOf_parts (v : RawValue) : Json.textsOf v.parts = v.items := by
  cases v <;> rfl

/-- Readers are given what is stored exactly if that is a text. -/
theorem parts_eq_decoded_iff (v : RawValue) : v.parts = .inl v.decoded ↔ v.IsText := by
  cases v with
  | text t => exact iff_of_true rfl trivial
  | list head tail => exact iff_of_false (fun h => nomatch h) id

end RawValue

/-! ## The two fingerprints of a map -/

namespace Fingerprint

variable {m : OrderedMap RawValue}

/-- What is stored. -/
def stored (m : OrderedMap RawValue) : OrderedMap (Text ⊕ List Text) :=
  m.mapValues RawValue.parts

/-- What readers are given. -/
def presented (m : OrderedMap RawValue) : OrderedMap (Text ⊕ List Text) :=
  m.mapValues fun v => .inl v.decoded

/-- What a load logs is the fingerprint of what is stored. -/
theorem ofRaw_eq (m : OrderedMap RawValue) : ofRaw m = ofJson (Json.ofTextsMap (stored m)) := by
  unfold ofRaw Json.ofTextsMap stored
  rw [OrderedMap.mapValues_mapValues]
  congr 3
  exact funext RawValue.toJson_eq

/-- What is reported is the fingerprint of what readers are given. -/
theorem ofTexts_decoded_eq (m : OrderedMap RawValue) :
    ofTexts (m.mapValues RawValue.decoded) = ofJson (Json.ofTextsMap (presented m)) := by
  unfold ofTexts Json.ofTextsMap presented
  rw [OrderedMap.mapValues_mapValues, OrderedMap.mapValues_mapValues]
  rfl

/-- What is stored can be encoded, if its fingerprint is possible. -/
theorem encodable_stored (h : Possible m) : Json.Encodable (stored m) := by
  intro e' he'
  obtain ⟨e, he, rfl⟩ := List.mem_map.mp he'
  rw [RawValue.textsOf_parts]
  exact h e he

/-- What readers are given can be encoded as well, since joining texts adds no surrogate. -/
theorem encodable_presented (h : Possible m) : Json.Encodable (presented m) := by
  intro e' he'
  obtain ⟨e, he, rfl⟩ := List.mem_map.mp he'
  refine ⟨(h e he).1, ?_⟩
  show ∀ t ∈ [e.2.decoded], t.Writable
  rw [List.forall_mem_singleton]
  exact (Properties.writable_decoded e.2).mpr (h e he).2

/-- The two hold the same where no list is stored. -/
theorem stored_eq_presented_iff :
    (∀ key, (stored m).get? key = (presented m).get? key) ↔ ∀ key v, m.get? key = some v → v.IsText := by
  refine forall_congr' fun key => ?_
  unfold stored presented
  rw [OrderedMap.get?_mapValues, OrderedMap.get?_mapValues]
  cases m.get? key with
  | none => simp
  | some v => simp [RawValue.parts_eq_decoded_iff]

/-- Texts that have bytes have one digest if they are one text, and else only where the digest confuses them. -/
theorem hex_eq_iff {t u : Text} {bytes bytes' : List UInt8} (ht : Utf8.encode t = .ok bytes)
    (hu : Utf8.encode u = .ok bytes') :
    Sha256.hex bytes = Sha256.hex bytes' ↔ t = u ∨ Sha256.Confuses t u := by
  constructor
  · intro h
    by_cases hbytes : bytes = bytes'
    · subst hbytes
      -- bytes read as the text that was encoded
      exact .inl (Except.ok.inj ((Utf8.decode_encode ht).symm.trans (Utf8.decode_encode hu)))
    · exact .inr ⟨bytes, bytes', ht, hu, hbytes, Sha256.digest_eq_of_hex_eq h⟩
  · rintro (rfl | ⟨b, b', hb, hb', -, hdigest⟩)
    · rw [Except.ok.inj (ht.symm.trans hu)]
    · obtain rfl := Except.ok.inj (hb.symm.trans ht)
      obtain rfl := Except.ok.inj (hb'.symm.trans hu)
      unfold Sha256.hex
      rw [hdigest]

/-- **The two fingerprints of a map** agree where no list is stored, and else only where the digest confuses the two
canonical texts. -/
theorem agree_iff (h : Possible m) :
    ∃ logged reported, ofRaw m = .ok logged ∧ ofTexts (m.mapValues RawValue.decoded) = .ok reported ∧
      (logged = reported ↔ (∀ key v, m.get? key = some v → v.IsText) ∨
        Sha256.Confuses (Json.ofTextsMap (stored m)).canonical (Json.ofTextsMap (presented m)).canonical) := by
  obtain ⟨bytes, hbytes⟩ := Utf8.exists_encode (Json.writable_canonical (encodable_stored h))
  obtain ⟨bytes', hbytes'⟩ := Utf8.exists_encode (Json.writable_canonical (encodable_presented h))
  refine ⟨Sha256.hex bytes, Sha256.hex bytes', ?_, ?_, ?_⟩
  · rw [ofRaw_eq, ofJson_ofTextsMap hbytes]
  · rw [ofTexts_decoded_eq, ofJson_ofTextsMap hbytes']
  · rw [hex_eq_iff hbytes hbytes', Json.canonical_eq_iff,
      stored_eq_presented_iff]

end Fingerprint

/-! ## A load and what comes after it -/

namespace Configuration

/-- The fingerprint of what is held, loaded now if this was not done yet. -/
def fingerprint (c : Configuration) (r : SourceReader) : Run Text := do
  Run.ofExcept (fingerprintOf (← (c.load r).2))

variable {c : Configuration} {r : SourceReader} {start : SourceReader.Start} {directory : Text}
  {outcome : Configuration × Run Loaded} {l : Loaded}

/-- An attempt that succeeds is a load, and what was loaded is held. -/
theorem Attempts.succeeds (h : c.Attempts r start directory outcome) (hl : outcome.2.result = .ok l) :
    r.loadAt start directory = outcome.2 ∧ outcome.1.phase = .loaded l := by
  cases h with
  | load hphase =>
    have hresult : (r.load c.primaryName c.supplementaryDirectory).result = .ok l :=
      (result_load_of_unloaded hphase).symm.trans hl
    refine ⟨?_, phase_load hl⟩
    rw [Configuration.load, hphase]
    simp only [hresult]
    rfl
  | seed location directory =>
    obtain ⟨hrun, hleft⟩ := seed_eq_ok.mp (Prod.ext rfl (Run.eq_of_result hl))
    exact ⟨hrun.trans (Run.eq_of_result hl).symm, congrArg Configuration.phase hleft⟩

/-- The last thing that a load does is to log a fingerprint of what it stored. -/
theorem Attempts.logs (h : c.Attempts r start directory outcome) (hl : outcome.2.result = .ok l) :
    ∃ before logged, Fingerprint.ofRaw l.namespace_.snapshot = .ok logged ∧
      outcome.2.acts = before ++ [.report (.loaded l.namespace_.size l.supplementary.length
        l.namespace_.overrides.length logged)] := by
  obtain ⟨hload, -⟩ := h.succeeds hl
  obtain ⟨-, hfrom⟩ := SourceReader.loadAt_eq_ok.mp (hload.trans (Run.eq_of_result hl))
  obtain ⟨listing, candidates, primary, rest, logged, -, -, hlogged, hloaded, hacts⟩ :=
    SourceReader.loadFrom_eq_ok.mp hfrom
  have hstack : l.namespace_ = Layer.stack (primary :: rest) := congrArg Loaded.namespace_ hloaded
  have hcount : l.supplementary.length = rest.length := by
    rw [congrArg Loaded.supplementary hloaded, List.length_map]
  rw [hstack, hcount, hacts]
  exact ⟨_, logged, hlogged, rfl⟩

/-- What is held is not loaded again for a fingerprint. -/
theorem fingerprint_of_loaded (h : c.phase = .loaded l) (r : SourceReader) :
    c.fingerprint r = .ofExcept (fingerprintOf l) := by
  rw [fingerprint, load_of_loaded h]
  rfl

/-- **The fingerprint that a load logs and the one that is reported right after it** agree where nothing but texts is
held, and else only where the digest confuses the canonical text of what is stored with that of what readers are given.
-/
theorem logged_eq_reported_iff (h : c.Attempts r start directory outcome) (hl : outcome.2.result = .ok l) :
    ∃ before logged reported,
      outcome.2.acts = before ++ [.report (.loaded l.namespace_.size l.supplementary.length
        l.namespace_.overrides.length logged)] ∧
      (∀ r', outcome.1.fingerprint r' = .pure reported) ∧
      (logged = reported ↔ (∀ key v, l.namespace_.get? key = some v → v.IsText) ∨
        Sha256.Confuses (Json.ofTextsMap (Fingerprint.stored l.namespace_.snapshot)).canonical
          (Json.ofTextsMap (Fingerprint.presented l.namespace_.snapshot)).canonical) := by
  obtain ⟨before, logged, hlogged, hacts⟩ := h.logs hl
  have hpossible := (Fingerprint.exists_ofRaw_iff _).mp ⟨logged, hlogged⟩
  obtain ⟨logged', reported, hlogged', hreported, hagree⟩ := Fingerprint.agree_iff hpossible
  obtain rfl : logged = logged' := Except.ok.inj (hlogged.symm.trans hlogged')
  simp only [Namespace.snapshot_get?] at hagree
  refine ⟨before, logged, reported, hacts, fun r' => ?_, hagree⟩
  rw [fingerprint_of_loaded (h.succeeds hl).2, fingerprintOf, hreported]
  rfl

end Configuration

/-! ## Loads that agree and loads that do not -/

/-- Nothing but texts is held after this load. -/
theorem Configuration.logged_eq_reported_stacked :
    ∃ c before reported, (Configuration.new Stacked.primary.source "app.d").load (Store.reader Stacked.store) = c ∧
      c.2.acts = before ++ [.report (.loaded 3 2 2 reported)] ∧
      ∀ r', c.1.fingerprint r' = .pure reported := by
  have htexts : ∀ key v, Stacked.loaded.namespace_.get? key = some v → v.IsText := by
    intro key v hv
    obtain ⟨entry, hentry, rfl⟩ := Option.map_eq_some_iff.mp hv
    have hall : ∀ e ∈ Stacked.loaded.namespace_.entries.entries, e.2.value = .text e.2.value.decoded := by decide
    rw [hall _ (OrderedMap.get?_eq_some_iff.mp hentry)]
    trivial
  have hresult := (result_load_of_unloaded (c := .new Stacked.primary.source "app.d") (r := Store.reader Stacked.store)
    rfl).trans Stacked.loads
  obtain ⟨before, logged, reported, hacts, hreported, hagree⟩ := logged_eq_reported_iff (Attempts.load rfl) hresult
  obtain rfl : logged = reported := hagree.mpr (.inl htexts)
  exact ⟨_, before, logged, rfl, hacts, hreported⟩

/-! A JSON source with a list of two texts. -/

namespace Listed

def data : List UInt8 :=
  Stacked.ascii "\x7b\x22a\x22: [\x22x\x22, \x22y\x22]\x7d"

def store : MemoryStore :=
  .single "lsc.json" data

def layer : Layer := ⟨"lsc.json", .ofList [("a", .list "x" ["y"])]⟩

def loaded : Loaded := ⟨Layer.stack [layer], layer.source, []⟩

def configuration : Configuration := .new layer.source "lsc.d"

theorem applies : (Store.reader store).Applies layer.source (store.listSupplementary "lsc.d") layer [] where
  source_primary := rfl
  provides_primary := ⟨data, by decide +kernel, by decide +kernel⟩
  sources_rest := by decide +kernel
  sorted_rest := .nil
  provides_rest := by simp
  keyed := by
    unfold Layer.Keyed
    decide

theorem loads : ((Store.reader store).loadAt (.name layer.source) "lsc.d").result = .ok loaded := by
  have hpossible : Fingerprint.Possible (Layer.stack [layer]).snapshot := by
    unfold Fingerprint.Possible
    decide
  obtain ⟨fingerprint, hfingerprint⟩ := (Fingerprint.exists_ofRaw_iff _).mpr hpossible
  have hlocate : (Store.reader store).locate (.name layer.source) = .ok loaded.location := by decide +kernel
  have hfrom := SourceReader.loadFrom_eq_ok.mpr ⟨[], _, layer, [], fingerprint, rfl, applies, hfingerprint, rfl, rfl⟩
  have hload := SourceReader.loadAt_eq_ok.mpr ⟨hlocate, hfrom⟩
  rw [hload]

/-- A list and its joined items have different fingerprints. -/
theorem fingerprints_ne : Fingerprint.ofRaw loaded.namespace_.snapshot ≠ Configuration.fingerprintOf loaded := by
  decide +kernel

end Listed

/-- **The two do not always agree.** -/
theorem Configuration.not_logged_eq_reported :
    ¬ ∀ (c : Configuration) (r : SourceReader) (start : SourceReader.Start) (directory : Text)
        (outcome : Configuration × Run Loaded) (l : Loaded),
      c.Attempts r start directory outcome → outcome.2.result = .ok l →
      ∃ before fingerprint, outcome.2.acts = before ++ [.report (.loaded l.namespace_.size l.supplementary.length
        l.namespace_.overrides.length fingerprint)] ∧ outcome.1.fingerprint r = .pure fingerprint := by
  intro h
  have hattempts : Listed.configuration.Attempts (Store.reader Listed.store) _ _ _ := .load rfl
  have hresult : (Listed.configuration.load (Store.reader Listed.store)).2.result = .ok Listed.loaded :=
    (result_load_of_unloaded rfl).trans Listed.loads
  obtain ⟨before, reported, hacts, hreported⟩ := h _ _ _ _ _ _ hattempts hresult
  rw [fingerprint_of_loaded (hattempts.succeeds hresult).2] at hreported
  -- the last act is the line with the fingerprint of what is stored
  obtain ⟨before', logged, hlogged, hacts'⟩ := hattempts.logs hresult
  have hlast := congrArg List.getLast? (hacts.symm.trans hacts')
  simp only [List.getLast?_append, List.getLast?_singleton, Option.some_or, Option.some.injEq, Act.report.injEq,
    Log.Notice.loaded.injEq, true_and] at hlast
  refine Listed.fingerprints_ne ?_
  rw [hlogged, ← hlast]
  exact (congrArg Run.result hreported).symm

end LayeredConfig
