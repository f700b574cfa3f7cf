import LayeredConfig.Proofs.Json.Reader
import LayeredConfig.Proofs.Reload
import LayeredConfig.Proofs.Store.Files

/-!
# Whether a source can be read after a save

A save writes a properties text, whatever the source was written in. It can be read again if the suffix of the source
is that of no structured format, or there is nothing in it; any other JSON source is spoilt.

* **`Source.parse_json_error`** — a properties text is no JSON source.
* **`SavingStore`** — both kinds of stores leave the text of what was saved at its place.
* **`Session.read_of_setProperties`** — after any run, what a source reads as once properties were set and saved.
-/

namespace LayeredConfig

/-! ## A properties text is no JSON source -/

namespace Properties

/-- What a code point is written as in a key begins neither with a blank nor with a brace. -/
theorem escapeInKey_eq_cons {c : CodePoint} (hc : c ≠ '{') :
    ∃ x rest, escapeInKey c = x :: rest ∧ Json.Cursor.isBlank x = false ∧ x ≠ '{' := by
  have hbackslash (rest : Text) : ∃ x rest', (CodePoint.ofChar '\\' :: rest : Text) = x :: rest' ∧
      Json.Cursor.isBlank x = false ∧ x ≠ '{' :=
    ⟨_, rest, rfl, by decide, by decide⟩
  rw [escapeInKey]
  cases hescape : controlEscape? c with
  | some t =>
    rw [controlEscape?] at hescape
    split_ifs at hescape
    all_goals
      cases hescape
      exact hbackslash _
  -- no escape of its own: either a backslash goes before it or it is written as it is
  | none =>
    simp only
    split_ifs with hmark
    · exact hbackslash _
    · refine ⟨c, [], rfl, ?_, hc⟩
      rw [controlEscape?] at hescape
      split_ifs at hescape with h₁ h₂ h₃ h₄ h₅
      have hspace : c ≠ ' ' := by
        rintro rfl
        exact hmark (by decide)
      simp [Json.Cursor.isBlank, hspace, h₂, h₃, h₄]

/-- The text of a map begins with its first key, and holds an equals sign. -/
theorem write_eq_cons {m : OrderedMap Text} {key : Text} (hfirst : m.keys.head? = some key) (hne : key ≠ [])
    (hbrace : key.head? ≠ some (.ofChar '{')) :
    ∃ x rest, write m [] = x :: rest ∧ Json.Cursor.isBlank x = false ∧ x ≠ '{' ∧
      CodePoint.ofChar '=' ∈ write m [] := by
  cases hentries : m.entries with
  | nil =>
    rw [OrderedMap.keys, hentries] at hfirst
    cases hfirst
  | cons e others =>
    rw [OrderedMap.keys, hentries, List.map_cons, List.head?_cons] at hfirst
    obtain rfl : e.1 = key := Option.some.inj hfirst
    obtain ⟨c, cs, hkey⟩ := List.exists_cons_of_ne_nil hne
    have hc : c ≠ '{' := by
      rintro rfl
      exact hbrace (by rw [hkey]; rfl)
    obtain ⟨x, rest, hescape, hblank, hx⟩ := escapeInKey_eq_cons hc
    -- whatever the other entries are, the key of the first one stands in front
    obtain ⟨tail, htail⟩ : ∃ tail, write m [] = escapeKey e.1 ++ "=" ++ tail := by
      rw [write, writeLines, hentries, List.map_nil, List.nil_append, List.map_cons, writeEntry]
      cases others.map writeEntry with
      | nil => exact ⟨_, by rw [Text.join, List.append_assoc]⟩
      | cons entry entries => exact ⟨_, by rw [Text.join, List.append_assoc, List.append_assoc, List.append_assoc]⟩
    have hstart : escapeKey e.1 = x :: (rest ++ cs.flatMap escapeInKey) := by
      rw [escapeKey, hkey, List.flatMap_cons, hescape, List.cons_append]
    refine ⟨x, _, by rw [htail, hstart]; rfl, hblank, hx, ?_⟩
    rw [htail]
    simp [Text.ofString]

end Properties

namespace Source

variable {identifier text : Text} {data : List UInt8}

/-- A JSON value that is neither null nor an object is no source. -/
theorem ofValue_error {j : Json} (hnull : j ≠ .null) (hobject : ∀ members, j ≠ .object members) :
    ∃ e, ofValue identifier (some j.toValue) = .error e := by
  cases j with
  | null => exact absurd rfl hnull
  | object members => exact absurd rfl (hobject members)
  | bool b => exact ⟨_, rfl⟩
  | int n => exact ⟨_, rfl⟩
  | float x => exact ⟨_, rfl⟩
  | text t => exact ⟨_, rfl⟩
  | list items => exact ⟨_, rfl⟩

/-- **A properties text is no JSON source**, unless there is nothing in it or its first key begins with a brace. -/
theorem parse_json_error {m : OrderedMap Text} {key : Text} (hsuffix : Format.suffixOf identifier = (".json" : Text))
    (hdecode : Utf8.decode data = .ok (Properties.write m [])) (hfirst : m.keys.head? = some key) (hne : key ≠ [])
    (hbrace : key.head? ≠ some (.ofChar '{')) : ∃ e, Source.parse identifier data false = .error e := by
  have hformat : Format.of? identifier = some .json := by
    rw [Format.of?, hsuffix]
    decide +kernel
  obtain ⟨x, rest, hstart, hblank, hx, hequals⟩ := Properties.write_eq_cons hfirst hne hbrace
  have hwhite : (Properties.write m []).isWhite = false := by
    rw [Text.isWhite, List.all_eq_false]
    exact ⟨_, hequals, by decide⟩
  simp only [Source.parse, hformat, hdecode, Bool.false_and, Bool.false_eq_true, if_false, readJson, hwhite]
  -- not even a JSON value can be read, or one that is no object
  cases hread : Json.read (Properties.write m []) with
  | error e =>
    cases e with
    | syntactic fault position => exact ⟨_, rfl⟩
    | digits e => exact ⟨_, rfl⟩
  | ok j =>
    obtain ⟨hnull, hobject⟩ := Json.not_object_of_read hstart hblank hx hequals hread
    exact ofValue_error hnull hobject

end Source

/-! ## The text of an empty map -/

namespace Source

variable {data : List UInt8}

/-- An empty map is written as an empty line, which every format reads as an empty map. -/
theorem parse_of_empty {m : OrderedMap Text} (hempty : m.keys = [])
    (hencode : Utf8.encode (Properties.write m []) = .ok data) (identifier : Text) :
    Source.parse identifier data false = .ok (m.mapValues RawValue.text) := by
  obtain rfl : m = .empty := OrderedMap.ext (List.map_eq_nil_iff.mp hempty)
  have hline : Utf8.encode (Properties.write .empty []) = .ok [10] := by decide +kernel
  obtain rfl := Except.ok.inj (hline.symm.trans hencode)
  rw [Source.parse]
  rcases Format.of? identifier with _ | _ | _ | _ <;> rfl

end Source

/-! ## What stores leave -/

/-- A store that leaves the text of what it saved. -/
class SavingStore (τ : Type) extends Store τ where
  /-- The bytes of a source. -/
  bytes? : τ → Text → Option (List UInt8)
  /-- The place of a source is as a save takes it to be. -/
  Regular : τ → Text → Prop
  saved : ∀ {s : τ} {location : Text} {values : OrderedMap RawValue}, Regular s location →
    (persist s location (values.mapValues RawValue.toValue)).result = .ok () →
    ∃ data, Utf8.encode (Properties.write (values.mapValues RawValue.decoded) []) = .ok data ∧
      bytes? (persist s location (values.mapValues RawValue.toValue)).state location = some data

/-- Files in memory are saved wherever they are. -/
instance : SavingStore MemoryStore where
  bytes? m location := m.files.get? location
  Regular _ _ := True
  saved _ h := by
    obtain ⟨data, hencode, hstate⟩ := MemoryStore.persist_eq_ok h
    refine ⟨data, hencode, ?_⟩
    show OrderedMap.get? (MemoryStore.persist _ _ _).state.files _ = some data
    rw [hstate]
    exact OrderedMap.get?_put_self _ _ _

/-- A file is read where it was saved, if it is a regular one. -/
instance : SavingStore FileStore where
  bytes? s location := (s.read location).toOption
  Regular := FileStore.Regular
  saved hregular h := by
    obtain ⟨data, hencode, hread⟩ := FileStore.read_persist hregular h
    refine ⟨data, hencode, ?_⟩
    show ((FileStore.persist _ _ _).state.read _).toOption = some data
    rw [hread]
    rfl

/-! ## Every run -/

/-- **What is saved can be read again.** After any run that holds something, let properties be set and saved. The bytes
of its source are then a properties text of what readers are given; so they read as that, key by key and in order, if
the suffix is that of no structured format or nothing is held. Else a JSON source can no longer be read. -/
theorem Session.read_of_setProperties {τ : Type} [SavingStore τ] {primaryName supplementaryDirectory : Text} {store : τ}
    {operations : List (Operation τ)} {s : Session τ} {l : Loaded} {lead : Option Text} {changes : OrderedMap Value}
    (hs : s = (start primaryName supplementaryDirectory store).run operations)
    (hl : s.configuration.phase = .loaded l) (hregular : SavingStore.Regular s.store l.location)
    (hset : (s.configuration.setProperties s.store lead changes).2.result = .ok ()) :
    ∃ (c : Configuration) (store' : τ) (l' : Loaded) (data : List UInt8),
      (s.configuration.setProperties s.store lead changes).1 = (c, store') ∧
      c.phase = .loaded l' ∧ l'.location = l.location ∧ SavingStore.bytes? store' l.location = some data ∧
      (Format.suffixOf l.location ∉ ([".yaml", ".yml", ".json"] : List Text) ∨ l'.namespace_.keys = [] →
        Source.parse l.location data false = .ok (l'.namespace_.snapshot.mapValues fun v => .text v.decoded)) ∧
      (Format.suffixOf l.location = (".json" : Text) →
        ∀ key, l'.namespace_.keys.head? = some key → key.head? ≠ some (.ofChar '{') →
          ∃ e, Source.parse l.location data false = .error e) := by
  -- along a run no key is ever empty, so every key that is saved is read again
  have hkeyed : l.namespace_.Keyed := by
    have hinv := inv_run primaryName supplementaryDirectory store operations
    rw [← hs] at hinv
    exact (hinv l hl).keyed
  have hresult : (s.configuration.load (Store.reader s.store)).2.result = .ok l := by
    rw [Configuration.load_of_loaded hl]
    rfl
  -- what is saved is the changed namespace, and the store leaves its text
  obtain ⟨ns, -, hns, hpersist, hleft⟩ := Configuration.saved_of_setProperties hresult hset
  obtain ⟨data, hencode, hbytes⟩ := SavingStore.saved hregular hpersist
  have hkeyed' : ns.Keyed := hns ▸ hkeyed.changed l.location lead changes
  have hdecode := Utf8.decode_encode hencode
  have hkeys : (ns.snapshot.mapValues RawValue.decoded).keys = ns.keys := by
    rw [OrderedMap.keys_mapValues, Namespace.snapshot_keys]
  refine ⟨_, _, { l with namespace_ := ns }, data, hleft, ?_, rfl, hbytes, fun hreadable => ?_,
    fun hsuffix key hfirst hbrace => ?_⟩
  · rw [Configuration.load_of_loaded hl]
    exact Configuration.phase_withNamespace hl ns
  · have hparse : Source.parse l.location data false =
        .ok ((ns.snapshot.mapValues RawValue.decoded).mapValues RawValue.text) := by
      rcases hreadable with hsuffix | hempty
      · obtain ⟨text, htext, hread⟩ := Loaded.read_saved (l := { l with namespace_ := ns }) hkeyed' hencode
        exact Source.parse_of_read hsuffix htext hread
      · exact Source.parse_of_empty (hkeys.trans hempty) hencode l.location
    rwa [OrderedMap.mapValues_mapValues] at hparse
  · have hne : key ≠ [] := hkeyed' key (List.mem_of_mem_head? hfirst)
    rw [← hkeys] at hfirst
    exact Source.parse_json_error hsuffix hdecode hfirst hne hbrace

theorem Session.read_of_setProperties_stacked :
    ∃ (c : Configuration) (store' : MemoryStore) (l' : Loaded) (data : List UInt8),
      (Stacked.session.configuration.setProperties Stacked.session.store none Stacked.changes).1 = (c, store') ∧
      c.phase = .loaded l' ∧ store'.files.get? "app.properties" = some data ∧
      Source.parse "app.properties" data false = .ok (l'.namespace_.snapshot.mapValues fun v => .text v.decoded) := by
  have hsuffix : Format.suffixOf Stacked.loaded.location ∉ ([".yaml", ".yml", ".json"] : List Text) := by
    decide +kernel
  obtain ⟨c, store', l', data, hleft, hphase, -, hbytes, hread, -⟩ :=
    Session.read_of_setProperties Stacked.session_eq_run rfl trivial Stacked.session_saves
  exact ⟨c, store', l', data, hleft, hphase, hbytes, hread (.inl hsuffix)⟩

/-! A JSON source with one key, loaded and then saved with another one. -/

namespace Spoilt

def store : MemoryStore :=
  .single "lsc.json" (Stacked.ascii "\x7b\x22a\x22: \x221\x22\x7d")

def session : Session MemoryStore :=
  (Session.start "lsc.json" "lsc.d" store).run [.load]

def changes : OrderedMap Value :=
  .ofList [("b", .text "2")]

end Spoilt

open Spoilt in
/-- **Saving spoils a JSON source**: it was loaded, the save succeeds, and what is there cannot be read. -/
theorem Session.not_read :
    session.configuration.loaded?.map Loaded.location = some "lsc.json" ∧
      (session.configuration.setProperties session.store none changes).2.result = .ok () ∧
      ((session.configuration.setProperties session.store none changes).1.2.files.get? "lsc.json").map
        (fun data => (Source.parse "lsc.json" data false).toOption) = some none := by
  decide +kernel

end LayeredConfig
