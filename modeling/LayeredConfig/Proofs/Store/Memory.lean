import LayeredConfig.Load
import LayeredConfig.Proofs.OrderedMap
import LayeredConfig.Proofs.Properties.RoundTrip
import LayeredConfig.Proofs.Text.Utf8
import LayeredConfig.Store.Memory
import Mathlib.Tactic.SplitIfs

/-!
# Sources in memory: what saving leaves

Saving succeeds only if the text that is saved has bytes, and then nothing that it is made of has a surrogate
(**`Properties.writable_write`**); one source has changed and every other one reads as before. `MemoryStore.SameBut`
says this of two stores in general, and what a load sees of both is the same but for that one source.
-/

namespace LayeredConfig

namespace Properties

/-- Escapes are made of characters, and stand for characters. -/
theorem writable_controlEscape? {c : CodePoint} {t : Text} (h : controlEscape? c = some t) :
    t.Writable ∧ c.isSurrogate = false := by
  have hescape : ∀ (u : Char), c = CodePoint.ofChar u → c.isSurrogate = false := by
    rintro u rfl
    exact Text.isSurrogate_ofChar u
  rw [controlEscape?] at h
  split_ifs at h with h₁ h₂ h₃ h₄ h₅
  · cases h
    exact ⟨Text.writable_ofString _, hescape _ h₁⟩
  · cases h
    exact ⟨Text.writable_ofString _, hescape _ h₂⟩
  · cases h
    exact ⟨Text.writable_ofString _, hescape _ h₃⟩
  · cases h
    exact ⟨Text.writable_ofString _, hescape _ h₄⟩
  · cases h
    exact ⟨Text.writable_ofString _, hescape _ h₅⟩

/-- Whatever is escaped in a key, only a surrogate itself is one. -/
theorem writable_escapeInKey (c : CodePoint) : (escapeInKey c).Writable ↔ c.isSurrogate = false := by
  rw [escapeInKey]
  cases hescape : controlEscape? c with
  | some t =>
    obtain ⟨hwritable, hc⟩ := writable_controlEscape? hescape
    exact iff_of_true hwritable hc
  | none =>
    split_ifs
    · simp
    · simp

/-- Whatever is escaped in a value, only a surrogate itself is one. -/
theorem writable_escapeInValue (first last : Bool) (c : CodePoint) :
    (escapeInValue first last c).Writable ↔ c.isSurrogate = false := by
  rw [escapeInValue]
  cases hescape : controlEscape? c with
  | some t =>
    obtain ⟨hwritable, hc⟩ := writable_controlEscape? hescape
    exact iff_of_true hwritable hc
  | none =>
    simp only
    split_ifs
    · simp
    · simp
    · simp

/-- A written value has a surrogate exactly if the value has one. -/
theorem writable_escapeValueFrom (first : Bool) (value : Text) :
    (escapeValueFrom first value).Writable ↔ value.Writable := by
  induction value generalizing first with
  | nil => simp [escapeValueFrom]
  | cons c rest ih =>
    rw [escapeValueFrom, Text.writable_append, Text.writable_cons, writable_escapeInValue, ih]

/-- A written entry has a surrogate exactly if its key or its value has one. -/
theorem writable_writeEntry (e : Text × Text) : (writeEntry e).Writable ↔ e.1.Writable ∧ e.2.Writable := by
  rw [writeEntry, Text.writable_append, Text.writable_append, escapeKey,
    Text.writable_flatMap writable_escapeInKey, escapeValue, writable_escapeValueFrom]
  simp

/-- **A map can be saved** exactly if there is no surrogate in its keys and values. -/
theorem writable_write (m : OrderedMap Text) :
    (write m []).Writable ↔ ∀ e ∈ m.entries, e.1.Writable ∧ e.2.Writable := by
  rw [write, writeLines, Text.writable_append, Text.writable_join (Text.writable_ofString _), List.map_nil,
    List.nil_append, List.forall_mem_map]
  simp only [writable_writeEntry, Text.writable_ofString, and_true]

/-- What readers are given has no surrogate if no text of the value has. -/
theorem writable_decoded (v : RawValue) : v.decoded.Writable ↔ ∀ t ∈ v.items, t.Writable :=
  Text.writable_join (Text.writable_ofString _) v.items

/-- Raw values are written as readers are given them. -/
theorem dump_toValue (m : OrderedMap RawValue) (header : List Text) :
    dump (m.mapValues RawValue.toValue) header = .ok (write (m.mapValues RawValue.decoded) header) := by
  have hpresented : ∀ v : RawValue, presented v.toValue = v.decoded := fun v => by
    rw [presented, RawValue.decode_toValue]
    rfl
  have hentries : ∀ e ∈ (m.mapValues RawValue.toValue).entries,
      ∃ shown, e.2.decode = .ok shown ∧ presented e.2 = shown.getD [] := by
    intro e he
    obtain ⟨e', -, rfl⟩ := List.mem_map.mp he
    exact ⟨some e'.2.decoded, RawValue.decode_toValue e'.2, hpresented e'.2⟩
  have hsame : (m.mapValues RawValue.toValue).mapValues presented = m.mapValues RawValue.decoded := by
    rw [OrderedMap.mapValues_mapValues]
    exact congrArg m.mapValues (funext hpresented)
  rw [dump_eq_write hentries, hsame]

end Properties

namespace MemoryStore

variable {m a b : MemoryStore} {identifier location : Text} {data : List UInt8}

/-- A source is read if it is there and not refused. -/
theorem read_eq_ok : m.read identifier = .ok data ↔
    m.unreadable.contains identifier = false ∧ m.files.get? identifier = some data := by
  rw [read]
  cases hunreadable : m.unreadable.contains identifier with
  | true => simp
  | false => cases hget : m.files.get? identifier <;> simp

/-- A store that refuses is left as it is. -/
theorem persist_of_refused {reason : Text} (h : m.persistError = some reason) (values : OrderedMap Value) :
    m.persist identifier values = ⟨m, [], .error (.storage (.denied reason))⟩ := by
  rw [persist, h]

/-- Raw values are saved as the bytes of their text, if it has some. -/
theorem persist_toValue (h : m.persistError = none) (values : OrderedMap RawValue) :
    m.persist identifier (values.mapValues RawValue.toValue) =
      match Utf8.encode (Properties.write (values.mapValues RawValue.decoded) []) with
      | .ok data => ⟨m.put identifier data, [], .ok ()⟩
      | .error e => ⟨m, [], .error (.unencodable e)⟩ := by
  have hrender : render (values.mapValues RawValue.toValue) =
      (Utf8.encode (Properties.write (values.mapValues RawValue.decoded) [])).mapError .unencodable := by
    rw [render, Properties.dump_toValue]
    rfl
  rw [persist, h, hrender]
  cases Utf8.encode (Properties.write (values.mapValues RawValue.decoded) []) <;> rfl

/-- What a successful saving leaves: the bytes of the text of the map at the identifier. -/
theorem persist_eq_ok {values : OrderedMap RawValue}
    (h : (m.persist identifier (values.mapValues RawValue.toValue)).result = .ok ()) :
    ∃ data, Utf8.encode (Properties.write (values.mapValues RawValue.decoded) []) = .ok data ∧
      (m.persist identifier (values.mapValues RawValue.toValue)).state = m.put identifier data := by
  cases hrefused : m.persistError with
  | some reason =>
    rw [persist_of_refused hrefused] at h
    cases h
  | none =>
    rw [persist_toValue hrefused] at h ⊢
    cases hencode : Utf8.encode (Properties.write (values.mapValues RawValue.decoded) []) with
    | ok data => exact ⟨data, rfl, rfl⟩
    | error e =>
      rw [hencode] at h
      cases h

/-- But for the bytes of one source, the stores are the same to readers. -/
structure SameBut (location : Text) (a b : MemoryStore) : Prop where
  /-- Every other source has the same bytes, or is in neither. -/
  files : ∀ identifier, identifier ≠ location → a.files.get? identifier = b.files.get? identifier
  /-- The same sources cannot be read. -/
  unreadable : ∀ identifier, a.unreadable.contains identifier = b.unreadable.contains identifier

/-- Another source is read alike from both. -/
theorem SameBut.read (h : SameBut location a b) (hne : identifier ≠ location) :
    a.read identifier = b.read identifier := by
  rw [MemoryStore.read, MemoryStore.read, h.files identifier hne, h.unreadable identifier]

/-- Directories list the same sources but for that one, in whatever order. -/
theorem SameBut.perm_list (h : SameBut location a b) (directory : Text) (p : Text → Bool) :
    ((a.listSupplementary directory).filter fun c => p c && c ≠ location).Perm
      ((b.listSupplementary directory).filter fun c => p c && c ≠ location) := by
  -- a listing has no identifier twice, so it is enough that both have the same ones
  have hnodup : ∀ m : MemoryStore,
      ((m.listSupplementary directory).filter fun c => p c && c ≠ location).Nodup := fun m =>
    (m.files.nodup_keys.sublist List.filter_sublist).sublist List.filter_sublist
  refine (List.perm_ext_iff_of_nodup (hnodup a) (hnodup b)).mpr fun c => ?_
  have hkeys : c ≠ location → (c ∈ a.files.keys ↔ c ∈ b.files.keys) := fun hne => by
    rw [← OrderedMap.isSome_get?_iff, ← OrderedMap.isSome_get?_iff, h.files c hne]
  simp only [listSupplementary, List.mem_filter, Bool.and_eq_true, decide_eq_true_iff]
  constructor
  · rintro ⟨⟨hmem, hstarts⟩, hp, hne⟩
    exact ⟨⟨(hkeys hne).mp hmem, hstarts⟩, hp, hne⟩
  · rintro ⟨⟨hmem, hstarts⟩, hp, hne⟩
    exact ⟨⟨(hkeys hne).mpr hmem, hstarts⟩, hp, hne⟩

end MemoryStore

end LayeredConfig
