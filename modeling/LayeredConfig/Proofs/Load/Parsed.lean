import LayeredConfig.Proofs.Load.Failing

/-!
# Sources that parse

A source that parses can still stop a load, since parsers give keys and texts that a namespace or a fingerprint does
not take. One kind is the empty key. A properties text never has one: an entry without a key is refused where it stands.
In a structured source an empty name at the root is a name as any other, and it is the namespace that refuses the key.
The other kind is a surrogate, which every format can spell by its number.

* **`Source.nil_mem_parse`** — which sources have an empty key, by the root of the document (`Source.Nameless`).
* **`SourceReader.parsed_loads_iff`** — apart from these two kinds, sources that parse can be loaded.
-/

namespace LayeredConfig

/-! ## Empty keys -/

namespace Properties

/-- An entry of a properties text without a key is refused. -/
theorem key_ne_nil_of_readEntry {line : LogicalLine} {entry : Text × Text} (h : readEntry line = .ok entry) :
    entry.1 ≠ [] := by
  rw [readEntry] at h
  simp only at h
  cases hkey : unescape (splitEntry line.text).1 with
  | error digits =>
    rw [hkey] at h
    cases h
  | ok key =>
    rw [hkey] at h
    cases key with
    | nil => cases h
    | cons c cs =>
      cases hvalue : unescape (trimEnd (splitEntry line.text).2) with
      | error digits =>
        rw [hvalue] at h
        cases h
      | ok value =>
        rw [hvalue] at h
        cases h
        exact List.cons_ne_nil c cs

/-- No line of a properties text brings an empty key into the map. -/
theorem keys_ne_nil_of_readLines {lines : List LogicalLine} :
    ∀ {m m' : OrderedMap Text}, [] ∉ m.keys → readLines m lines = .ok m' → [] ∉ m'.keys := by
  induction lines with
  | nil =>
    intro m m' hkeys h
    cases h
    exact hkeys
  | cons line rest ih =>
    intro m m' hkeys h
    rw [readLines] at h
    cases hentry : readEntry line with
    | error e =>
      rw [hentry] at h
      cases h
    | ok entry =>
      rw [hentry] at h
      refine ih (fun hmem => ?_) h
      rcases OrderedMap.mem_keys_put.mp hmem with hkey | hmem
      · exact key_ne_nil_of_readEntry hentry hkey.symm
      · exact hkeys hmem

/-- A properties text has no empty key. -/
theorem nil_notMem_read {text : Text} {m : OrderedMap Text} (h : read text = .ok m) : [] ∉ m.keys :=
  keys_ne_nil_of_readLines List.not_mem_nil h

end Properties

/-- The value is a map, and so has no text of its own. -/
def Value.IsMap : Value → Prop
  | .map _ => True
  | .atom _ | .list _ | .set | .pair => False

namespace Value

mutual

/-- An empty key comes from a value at the empty key that is no map. The keys within a map start with the key of the
map and a dot. -/
theorem nil_mem_flattenAt {key : Text} {out m : OrderedMap RawValue} :
    ∀ {v : Value}, v.flattenAt key out = .ok m → ([] ∈ m.keys ↔ [] ∈ out.keys ∨ (key = [] ∧ ¬ v.IsMap))
  | .map entries, h => by
    rw [flattenAt, Run.except_bind_eq_ok] at h
    obtain ⟨inner, hinner, h⟩ := h
    have hlead : key ++ Text.ofString "." ≠ [] := List.append_ne_nil_of_right_ne_nil key (by decide)
    have hnone := nil_mem_flattenFrom hlead hinner
    cases h
    simp [OrderedMap.mem_keys_update, hnone, IsMap]
  | .list items, h => by
    rw [flattenAt, Run.except_bind_eq_ok] at h
    obtain ⟨texts, -, h⟩ := h
    cases h
    simp [OrderedMap.mem_keys_put, IsMap, or_comm, eq_comm]
  | .atom a, h => by
    simp only [flattenAt, Run.except_bind_eq_ok] at h
    obtain ⟨text, -, h⟩ := h
    cases h
    simp [OrderedMap.mem_keys_put, IsMap, or_comm, eq_comm]
  | .set, h => by
    simp only [flattenAt, Run.except_bind_eq_ok] at h
    obtain ⟨text, ht, -⟩ := h
    cases ht
  | .pair, h => by
    simp only [flattenAt, Run.except_bind_eq_ok] at h
    obtain ⟨text, ht, -⟩ := h
    cases ht

/-- Behind a prefix no key is empty, whatever the names are. -/
theorem nil_mem_flattenFrom {lead : Text} (hlead : lead ≠ []) {out m : OrderedMap RawValue} :
    ∀ {entries : List (Atom × Value)}, flattenFrom lead out entries = .ok m → ([] ∈ m.keys ↔ [] ∈ out.keys)
  | [], h => by
    cases h
    rfl
  | (k, v) :: rest, h => by
    rw [flattenFrom, Run.except_bind_eq_ok] at h
    obtain ⟨label, -, h⟩ := h
    obtain ⟨next, hnext, h⟩ := Run.except_bind_eq_ok.mp h
    rw [nil_mem_flattenFrom hlead h, nil_mem_flattenAt hnext]
    simp [hlead]

end

/-- At the root nothing stands before a name, so an empty name that is no map is an empty key. -/
theorem nil_mem_flatten {entries : List (Atom × Value)} :
    ∀ {out m : OrderedMap RawValue}, flattenFrom [] out entries = .ok m →
      ([] ∈ m.keys ↔ [] ∈ out.keys ∨ ∃ e ∈ entries, e.1.label = .ok [] ∧ ¬ e.2.IsMap) := by
  induction entries with
  | nil =>
    intro out m h
    cases h
    simp
  | cons e rest ih =>
    intro out m h
    obtain ⟨k, v⟩ := e
    rw [flattenFrom, Run.except_bind_eq_ok] at h
    obtain ⟨label, hlabel, h⟩ := h
    obtain ⟨next, hnext, h⟩ := Run.except_bind_eq_ok.mp h
    -- a name that is no label would have stopped the reading here
    have hname : k.label = .ok label := by
      cases hk : k.label with
      | ok text =>
        rw [hk] at hlabel
        exact congrArg Except.ok (Except.ok.inj hlabel)
      | error e =>
        rw [hk] at hlabel
        cases hlabel
    rw [ih h, nil_mem_flattenAt hnext, List.nil_append]
    simp [hname, or_assoc]

end Value

namespace Source

variable {identifier text : Text} {data : List UInt8}

/-- What a structured source holds; a properties text is no document. -/
def document (identifier text : Text) : Except Failure (Option Value) :=
  match Format.of? identifier with
  | some .yaml => readYaml identifier text
  | some .json => readJson identifier text
  | some .properties | none => .ok none

/-- The root of the source has something at the empty name, and it is no map. -/
def Nameless (identifier : Text) (data : List UInt8) : Prop :=
  ∃ text entries, Utf8.decode data = .ok text ∧ document identifier text = .ok (some (.map entries)) ∧
    ∃ e ∈ entries, e.1.label = .ok [] ∧ ¬ e.2.IsMap

/-- A document has an empty key exactly if there is an empty name at its root. -/
theorem nil_mem_ofValue {v : Option Value} {m : OrderedMap RawValue} (h : ofValue identifier v = .ok m) :
    [] ∈ m.keys ↔ ∃ entries, v = some (.map entries) ∧ ∃ e ∈ entries, e.1.label = .ok [] ∧ ¬ e.2.IsMap := by
  unfold ofValue at h
  split at h
  · cases h
    simp
  · cases h
    simp
  · rename_i entries
    split at h
    · rename_i m' hflatten
      cases h
      simpa using Value.nil_mem_flatten hflatten
    · cases h
    · cases h
  · cases h

/-- **A source that parses has an empty key** exactly if it has an empty name at its root. -/
theorem nil_mem_parse {strict : Bool} {m : OrderedMap RawValue} (h : parse identifier data strict = .ok m) :
    [] ∈ m.keys ↔ Nameless identifier data := by
  rw [parse] at h
  split at h
  · cases h
  split at h
  · cases h
  rename_i text htext
  have hroot : Nameless identifier data ↔ ∃ entries, document identifier text = .ok (some (.map entries)) ∧
      ∃ e ∈ entries, e.1.label = .ok [] ∧ ¬ e.2.IsMap := by
    simp [Nameless, htext]
  rw [hroot]
  -- a document is flattened from its root, in either language; a properties text has no document
  split at h
  · rename_i hformat
    obtain ⟨v, hv, hvalue⟩ := Run.except_bind_eq_ok.mp h
    rw [nil_mem_ofValue hvalue]
    simp [document, hformat, hv]
  · rename_i hformat
    obtain ⟨v, hv, hvalue⟩ := Run.except_bind_eq_ok.mp h
    rw [nil_mem_ofValue hvalue]
    simp [document, hformat, hv]
  · rename_i hyaml hjson
    have hnone : document identifier text = .ok none := by
      rw [document]
      split
      · rename_i hformat
        exact absurd hformat hyaml
      · rename_i hformat
        exact absurd hformat hjson
      · rfl
      · rfl
    rw [parseProperties] at h
    split at h
    · rename_i m' hread
      cases h
      simpa [hnone] using Properties.nil_notMem_read hread
    · cases h

end Source

/-! ## What layers leave -/

namespace Layer

/-- No surrogate is in the keys of the layers or in what the last layer with a key says there. -/
def Encodable (layers : List Layer) : Prop :=
  ∀ key entry, latest? layers key = some entry → key.Writable ∧ ∀ t ∈ entry.value.items, t.Writable

/-- What layers leave has a fingerprint exactly if it can be encoded. -/
theorem exists_fingerprint_iff {layers : List Layer} :
    (∃ fingerprint, Fingerprint.ofRaw (stack layers).snapshot = .ok fingerprint) ↔ Encodable layers := by
  rw [Fingerprint.exists_ofRaw_iff, Fingerprint.possible_iff, Encodable]
  simp only [Namespace.snapshot_get?, Namespace.get?, get?_stack]
  constructor
  · exact fun h key entry hentry => h key entry.value (congrArg (Option.map Entry.value) hentry)
  · intro h key value hvalue
    obtain ⟨entry, hentry, rfl⟩ := Option.map_eq_some_iff.mp hvalue
    exact h key entry hentry

end Layer

namespace SourceReader

variable {r : SourceReader} {start : Start} {location directory : Text} {candidates more : List Text}
  {layers : List Layer}

/-- The first layers of a sequence can be merged, if none has an empty key. -/
theorem mergeAll_of_keyed (hsequence : r.sequence location directory = layers.map Layer.source ++ more)
    (hprovides : ∀ l ∈ layers, r.Provides (strictAt location l.source) l) (hkeyed : ∀ l ∈ layers, l.Keyed) :
    (r.mergeAll (layers.map Layer.source)).result = .ok (Layer.stack layers) := by
  cases layers with
  | nil => rfl
  | cons primary rest =>
    rw [List.map_cons, List.cons_append, sequence, List.cons.injEq] at hsequence
    obtain ⟨rfl, happlied⟩ := hsequence
    obtain ⟨hprimary, hrest⟩ := List.forall_mem_cons.mp hprovides
    refine mergeAll_of_layers (by simpa using hprimary) (fun l hl => ?_) hkeyed
    have hother : l.source ≠ primary.source :=
      ne_location_of_mem_filter (happlied ▸ List.mem_append_left more (List.mem_map_of_mem hl))
    exact strictAt_of_ne hother ▸ hrest l hl

/-- A layer with an empty key ends the load, and the first one does. -/
theorem result_loadFrom_of_not_keyed (hlist : (r.listSupplementary directory).result = .ok candidates)
    (hsequence : r.sequence location directory = layers.map Layer.source)
    (hprovides : ∀ l ∈ layers, r.Provides (strictAt location l.source) l) (hkeyed : ∃ l ∈ layers, ¬ l.Keyed) :
    (r.loadFrom location directory).result = .error .badKey := by
  -- the layers before the first one with an empty key can be merged, and the load stops at that one
  have hfind : (layers.find? fun l => !decide l.Keyed).isSome := by simpa using hkeyed
  obtain ⟨l, hl⟩ := Option.isSome_iff_exists.mp hfind
  obtain ⟨hfirst, earlier, later, rfl, hbefore⟩ := List.find?_eq_some_iff_append.mp hl
  obtain ⟨hearlier, hrest⟩ := List.forall_mem_append.mp hprovides
  rw [List.map_append, List.map_cons] at hsequence
  have hmerged := mergeAll_of_keyed hsequence hearlier fun l hl => by simpa using hbefore l hl
  have hkeyless : r.Refuses (strictAt location l.source) l.source .badKey :=
    .keyless (hrest l List.mem_cons_self) (by simpa using hfirst)
  exact result_loadFrom_of_refuses hlist hsequence hmerged hkeyless

/-- **Sources that parse** can be loaded if none has an empty key and what they leave can be encoded, and only then. An
empty key is an empty name at the root of a document, and fails the load as such; else the fingerprint does. -/
theorem parsed_loads_iff (hlocate : r.locate start = .ok location)
    (hlist : (r.listSupplementary directory).result = .ok candidates)
    (hsequence : r.sequence location directory = layers.map Layer.source)
    (hprovides : ∀ l ∈ layers, r.Provides (strictAt location l.source) l) :
    ((∃ loaded, (r.loadAt start directory).result = .ok loaded) ↔
      (∀ l ∈ layers, l.Keyed) ∧ Layer.Encodable layers) ∧
    (∀ l ∈ layers, ∀ data, r.read l.source = .ok data → (l.Keyed ↔ ¬ Source.Nameless l.source data)) ∧
    ((∃ l ∈ layers, ¬ l.Keyed) → (r.loadAt start directory).result = .error .badKey) ∧
    ((∀ l ∈ layers, l.Keyed) → ¬ Layer.Encodable layers →
      ∃ u, (r.loadAt start directory).result = .error (.unencodable u)) := by
  rw [loadAt_of_locate hlocate]
  -- with keys that are not empty all layers are merged, and only the fingerprint is left
  have hresult (hkeyed : ∀ l ∈ layers, l.Keyed) : (r.loadFrom location directory).result =
      (Fingerprint.ofRaw (Layer.stack layers).snapshot).map fun _ =>
        ⟨Layer.stack layers, location, (r.sequence location directory).tail⟩ := by
    have hmerged := mergeAll_of_keyed (hsequence.trans (List.append_nil _).symm) hprovides hkeyed
    rw [result_loadFrom_of_listed hlist, hsequence, hmerged]
    rfl
  have hbad (hkeyed : ∃ l ∈ layers, ¬ l.Keyed) := result_loadFrom_of_not_keyed hlist hsequence hprovides hkeyed
  refine ⟨⟨?_, ?_⟩, ?_, hbad, ?_⟩
  · rintro ⟨loaded, hloaded⟩
    have hkeyed : ∀ l ∈ layers, l.Keyed := by
      by_contra hnot
      have hkeyless : ∃ l ∈ layers, ¬ l.Keyed := by simpa using hnot
      rw [hbad hkeyless] at hloaded
      cases hloaded
    refine ⟨hkeyed, Layer.exists_fingerprint_iff.mp ?_⟩
    rw [hresult hkeyed] at hloaded
    cases hfingerprint : Fingerprint.ofRaw (Layer.stack layers).snapshot with
    | ok fingerprint => exact ⟨fingerprint, rfl⟩
    | error e =>
      rw [hfingerprint] at hloaded
      cases hloaded
  · rintro ⟨hkeyed, hencodable⟩
    obtain ⟨fingerprint, hfingerprint⟩ := Layer.exists_fingerprint_iff.mpr hencodable
    rw [hresult hkeyed, hfingerprint]
    exact ⟨_, rfl⟩
  · rintro l hl data hread
    obtain ⟨data', hread', hparse⟩ := hprovides l hl
    obtain rfl : data = data' := Except.ok.inj (hread.symm.trans hread')
    rw [← Source.nil_mem_parse hparse, Layer.Keyed]
    exact ⟨fun h hnil => h [] hnil rfl, fun h key hkey hnil => h (hnil ▸ hkey)⟩
  · intro hkeyed hencodable
    rw [hresult hkeyed]
    cases hfingerprint : Fingerprint.ofRaw (Layer.stack layers).snapshot with
    | ok fingerprint =>
      exact absurd (Layer.exists_fingerprint_iff.mp ⟨fingerprint, hfingerprint⟩) hencodable
    | error e =>
      obtain ⟨u, rfl⟩ := Fingerprint.error_ofRaw hfingerprint
      exact ⟨u, rfl⟩

end SourceReader

/-- A surrogate can be spelled in a properties text as well. -/
example : Source.parse "lsc.properties" (Stacked.ascii "a=\\ud800") false =
    .ok (.ofList [("a", .text [.ofNat 0xD800])]) := by
  decide +kernel

/-! A JSON source with a text at the empty name. -/

namespace Unnamed

def data : List UInt8 :=
  Stacked.ascii "\x7b\x22\x22: \x22x\x22\x7d"

def store : MemoryStore :=
  .single "lsc.json" data

def layer : Layer := ⟨"lsc.json", .ofList [([], .text "x")]⟩

theorem locates : (Store.reader store).locate (.name layer.source) = .ok layer.source := by
  decide +kernel

theorem lists : ((Store.reader store).listSupplementary "lsc.d").result = .ok [] := by
  decide +kernel

theorem sequence_eq : (Store.reader store).sequence layer.source "lsc.d" = [layer].map Layer.source := by
  rw [SourceReader.sequence_of_ok lists]
  simp [Supplementary.order]

theorem provides : ∀ l ∈ [layer], (Store.reader store).Provides (SourceReader.strictAt layer.source l.source) l := by
  rw [List.forall_mem_singleton, SourceReader.strictAt_self]
  exact ⟨data, by decide +kernel, by decide +kernel⟩

theorem not_keyed : ∃ l ∈ [layer], ¬ l.Keyed := by
  simp only [List.mem_singleton, exists_eq_left]
  decide

/-- Its only layer has an empty key. -/
theorem fails : ((Store.reader store).loadAt (.name layer.source) "lsc.d").result = .error .badKey := by
  rw [SourceReader.loadAt_of_locate locates]
  exact SourceReader.result_loadFrom_of_not_keyed lists sequence_eq provides not_keyed

end Unnamed

theorem SourceReader.parsed_loads_iff_unnamed :
    Source.Nameless Unnamed.layer.source Unnamed.data ∧
      ((Store.reader Unnamed.store).loadAt (.name Unnamed.layer.source) "lsc.d").result = .error .badKey := by
  obtain ⟨-, hnameless, hbad, -⟩ := SourceReader.parsed_loads_iff Unnamed.locates Unnamed.lists
    Unnamed.sequence_eq Unnamed.provides
  have hread : (Store.reader Unnamed.store).read Unnamed.layer.source = .ok Unnamed.data := by decide +kernel
  refine ⟨?_, hbad Unnamed.not_keyed⟩
  obtain ⟨l, hl, hkeyless⟩ := Unnamed.not_keyed
  obtain rfl := List.mem_singleton.mp hl
  by_contra hnamed
  exact hkeyless ((hnameless Unnamed.layer hl _ hread).mpr hnamed)

/-- **Not all sources that parse can be loaded.** -/
theorem SourceReader.not_parsed_loads :
    ¬ ∀ (r : SourceReader) (start : Start) (location directory : Text) (candidates : List Text) (layers : List Layer),
      r.locate start = .ok location → (r.listSupplementary directory).result = .ok candidates →
      r.sequence location directory = layers.map Layer.source →
      (∀ l ∈ layers, r.Provides (strictAt location l.source) l) →
      ∃ loaded, (r.loadAt start directory).result = .ok loaded := by
  intro h
  obtain ⟨loaded, hloaded⟩ := h _ _ _ _ _ _ Unnamed.locates Unnamed.lists Unnamed.sequence_eq Unnamed.provides
  rw [Unnamed.fails] at hloaded
  cases hloaded

end LayeredConfig
