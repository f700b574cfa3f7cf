import LayeredConfig.Proofs.Fingerprint
import LayeredConfig.Proofs.Load.LastWins
import LayeredConfig.Proofs.Session
import LayeredConfig.Proofs.Store.Memory

/-!
# Loading again what was saved

What a configuration saves is a properties text of what readers are given, and loading it again merges the same
supplementary sources over it. So a key that they do not define reads as before, and without them everything does.

* **`MemoryStore.loadFrom_of_sameBut`** — another primary source in place of the one that was loaded.
* **`Session.reload_of_setProperties`** — after any run, properties that could be saved can be loaded again.
-/

namespace LayeredConfig

/-! ## Reading what was saved -/

/-- A source with the suffix of no structured format is read as a properties text. -/
theorem Source.parse_of_read {identifier text : Text} {data : List UInt8} {m : OrderedMap Text}
    (hsuffix : Format.suffixOf identifier ∉ ([".yaml", ".yml", ".json"] : List Text))
    (hdecode : Utf8.decode data = .ok text) (hread : Properties.read text = .ok m) :
    Source.parse identifier data false = .ok (m.mapValues RawValue.text) := by
  -- in no known format the text is read as properties too
  have hformat : Format.of? identifier = some .properties ∨ Format.of? identifier = none := by
    have hyaml : Format.suffixOf identifier ≠ (".yaml" : Text) := fun h => hsuffix (by simp [h])
    have hyml : Format.suffixOf identifier ≠ (".yml" : Text) := fun h => hsuffix (by simp [h])
    have hjson : Format.suffixOf identifier ≠ (".json" : Text) := fun h => hsuffix (by simp [h])
    rw [Format.of?, Format.ofSuffix?]
    by_cases hproperties : Format.suffixOf identifier = (".properties" : Text)
    · exact .inl (if_pos hproperties)
    · refine .inr ?_
      simp only [hproperties, hyaml, hyml, hjson, decide_false, Bool.or_self, Bool.false_eq_true, if_false]
  have hproperties : Source.parseProperties identifier text = .ok (m.mapValues RawValue.text) := by
    rw [Source.parseProperties, hread]
  rcases hformat with hformat | hformat
  · simp only [Source.parse, hformat, hdecode, Bool.false_and, Bool.false_eq_true, if_false]
    exact hproperties
  · simp only [Source.parse, hformat, hdecode, Bool.false_and, Bool.false_eq_true, if_false]
    exact hproperties

/-- What is saved of a configuration, as a layer: at each key the text that readers are given. -/
def Loaded.saved (l : Loaded) : Layer :=
  ⟨l.location, (l.namespace_.snapshot.mapValues RawValue.decoded).mapValues RawValue.text⟩

/-! ## Layers over another primary source -/

namespace Layer

/-- Merging layers one after the other, as the program does it. -/
theorem stackOn_eq_foldl {layers : List Layer} (hkeyed : ∀ l ∈ layers, l.Keyed) (ns : Namespace) :
    stackOn ns layers =
      layers.foldl (fun ns l => (ns.merge (l.values.mapValues RawValue.toValue) l.source).state) ns := by
  induction layers generalizing ns with
  | nil => rfl
  | cons l rest ih =>
    obtain ⟨hl, hrest⟩ := List.forall_mem_cons.mp hkeyed
    rw [stackOn_cons, List.foldl_cons, Namespace.merge_eq_overlay ns hl, ih hrest]
    rfl

variable {base primary : Layer} {rest : List Layer} {key : Text}

/-- A key is looked up in the layers above the first one, and in that if they do not define it. -/
theorem get?_stack_cons (base : Layer) (rest : List Layer) (key : Text) :
    (stack (base :: rest)).get? key = ((latest? rest key).map Entry.value).or (base.values.get? key) := by
  rw [Namespace.get?, get?_stack, latest?_cons]
  cases latest? rest key with
  | some e => rfl
  | none =>
    rw [Option.none_or, lookup?]
    cases base.values.get? key <;> rfl

/-- A key that no other layer defines has the value of the first one. -/
theorem get?_stack_of_forall (h : ∀ l ∈ rest, l.values.get? key = none) :
    (stack (base :: rest)).get? key = base.values.get? key := by
  have hlatest : latest? rest key = none := by
    rw [latest?, List.findSome?_eq_none_iff]
    intro l hl
    exact Option.map_eq_none_iff.mpr (h l (List.mem_reverse.mp hl))
  rw [get?_stack_cons, hlatest]
  exact Option.none_or

/-- One layer alone is all that there is. -/
theorem snapshot_stack_singleton (base : Layer) : (stack [base]).snapshot = base.values := by
  have hkeys : (stack [base]).snapshot.keys = base.values.keys := by
    rw [Namespace.snapshot_keys, Namespace.keys, keys_stack, List.flatMap_singleton,
      Entries.eraseDups_of_nodup base.values.nodup_keys]
  refine OrderedMap.ext_get? hkeys fun key _ => ?_
  rw [Namespace.snapshot_get?, get?_stack_of_forall]
  simp

/-- What can be fingerprinted over one primary source can be over another one that can be itself: the values of a
key are those of the last layer, whichever is the first. -/
theorem possible_stack (hbase : Fingerprint.Possible base.values)
    (hstack : Fingerprint.Possible (stack (primary :: rest)).snapshot) :
    Fingerprint.Possible (stack (base :: rest)).snapshot := by
  rw [Fingerprint.possible_iff] at hbase hstack ⊢
  intro key value hvalue
  rw [Namespace.snapshot_get?, get?_stack_cons] at hvalue
  cases hlatest : latest? rest key with
  | some e =>
    have hsame : (stack (primary :: rest)).get? key = some value := by
      rw [get?_stack_cons, hlatest, ← hvalue, hlatest]
      rfl
    exact hstack key value (by rw [Namespace.snapshot_get?, hsame])
  | none =>
    rw [hlatest] at hvalue
    exact hbase key value hvalue

end Layer

/-! ## What is saved is a primary source -/

namespace Loaded

variable {l after : Loaded} {data : List UInt8}

/-- All keys are saved, in their order. -/
theorem saved_keys (l : Loaded) : l.saved.values.keys = l.namespace_.keys := by
  rw [saved, OrderedMap.keys_mapValues, OrderedMap.keys_mapValues, Namespace.snapshot_keys]

/-- What is saved at a key is the text that readers are given. -/
theorem saved_get? (l : Loaded) (key : Text) :
    l.saved.values.get? key = (l.namespace_.text? key).map RawValue.text := by
  rw [saved, OrderedMap.get?_mapValues, OrderedMap.get?_mapValues, Namespace.snapshot_get?]
  rfl

/-- The bytes that were saved read as what readers are given. -/
theorem read_saved (hkeyed : l.namespace_.Keyed)
    (hencode : Utf8.encode (Properties.write (l.namespace_.snapshot.mapValues RawValue.decoded) []) = .ok data) :
    ∃ text, Utf8.decode data = .ok text ∧
      Properties.read text = .ok (l.namespace_.snapshot.mapValues RawValue.decoded) := by
  refine ⟨_, Utf8.decode_encode hencode, Properties.read_write ?_ (by simp)⟩
  rw [OrderedMap.keys_mapValues, Namespace.snapshot_keys]
  exact hkeyed

/-- What could be saved can be fingerprinted: the text had bytes. -/
theorem possible_saved
    (hencode : Utf8.encode (Properties.write (l.namespace_.snapshot.mapValues RawValue.decoded) []) = .ok data) :
    Fingerprint.Possible l.saved.values := by
  have hwritable := (Properties.writable_write _).mp (Utf8.encode_eq_ok_iff.mp hencode).1
  intro e he
  obtain ⟨e', he', rfl⟩ := List.mem_map.mp he
  obtain ⟨hkey, hvalue⟩ := hwritable e' he'
  exact ⟨hkey, by simpa [RawValue.items] using hvalue⟩

/-- What is held after loading again what was saved: the same supplementary layers over it. -/
structure Reloaded (l after : Loaded) (rest : List Layer) : Prop where
  /-- The primary source is the same. -/
  location : after.location = l.location
  /-- The same supplementary sources were merged. -/
  supplementary : after.supplementary = l.supplementary
  /-- They were merged in order onto what was saved. -/
  merged : ∃ base,
    Namespace.ofValues (l.namespace_.snapshot.mapValues fun v => Value.text v.decoded) (some l.location) = .ok base ∧
    after.namespace_ =
      rest.foldl (fun ns layer => (ns.merge (layer.values.mapValues RawValue.toValue) layer.source).state) base
  /-- A key that they do not define reads as before. -/
  getString : ∀ key, (∀ layer ∈ rest, layer.values.get? key = none) →
    ∀ default, after.namespace_.getString key default = l.namespace_.getString key default
  /-- Without supplementary sources everything reads as before. -/
  unchanged : l.supplementary = [] →
    after.namespace_.keys = l.namespace_.keys ∧
      (∀ key default, after.namespace_.getString key default = l.namespace_.getString key default) ∧
      ∃ fingerprint, Configuration.fingerprintOf l = .ok fingerprint ∧
        Configuration.fingerprintOf after = .ok fingerprint

/-- Layers over what was saved are what is held after loading it again. -/
theorem reloaded_stack {rest : List Layer} (hkeyed : ∀ layer ∈ l.saved :: rest, layer.Keyed)
    (hsupplementary : rest.map Layer.source = l.supplementary) (hpossible : Fingerprint.Possible l.saved.values) :
    l.Reloaded ⟨Layer.stack (l.saved :: rest), l.location, rest.map Layer.source⟩ rest := by
  obtain ⟨hsaved, hrest⟩ := List.forall_mem_cons.mp hkeyed
  have hgetString : ∀ key, (∀ layer ∈ rest, layer.values.get? key = none) → ∀ default,
      (Layer.stack (l.saved :: rest)).getString key default = l.namespace_.getString key default := by
    intro key hkey default
    rw [Namespace.getString, Namespace.getString, Namespace.text?, Layer.get?_stack_of_forall hkey, saved_get?,
      Option.map_map]
    exact congrArg (Option.or · default) (by cases l.namespace_.text? key <;> rfl)
  refine ⟨rfl, hsupplementary, ⟨Layer.stack [l.saved], ?_, ?_⟩, hgetString, fun hnone => ?_⟩
  · -- what was saved, as the values that a load sets
    have hvalues : (l.namespace_.snapshot.mapValues fun v => Value.text v.decoded) =
        l.saved.values.mapValues RawValue.toValue := by
      rw [saved, OrderedMap.mapValues_mapValues, OrderedMap.mapValues_mapValues]
      rfl
    rw [hvalues]
    exact Namespace.ofValues_eq hsaved l.saved.source
  · exact Layer.stackOn_eq_foldl hrest (Layer.stack [l.saved])
  · -- without other layers the keys, the texts and so the fingerprint are those of what was saved
    obtain rfl : rest = [] := List.map_eq_nil_iff.mp (hsupplementary.trans hnone)
    have hkeys : (Layer.stack [l.saved]).keys = l.namespace_.keys := by
      rw [← Namespace.snapshot_keys, Layer.snapshot_stack_singleton, saved_keys]
    have hdecoded : l.saved.values.mapValues RawValue.decoded = l.namespace_.snapshot.mapValues RawValue.decoded := by
      rw [saved, OrderedMap.mapValues_mapValues]
      exact OrderedMap.mapValues_of_forall fun _ _ => rfl
    obtain ⟨fingerprint, hfingerprint⟩ := (Fingerprint.exists_ofRaw_iff _).mpr hpossible
    rw [saved, ← Fingerprint.ofTexts_eq] at hfingerprint
    refine ⟨hkeys, fun key default => hgetString key (by simp) default, fingerprint, hfingerprint, ?_⟩
    show Fingerprint.ofTexts ((Layer.stack [l.saved]).snapshot.mapValues RawValue.decoded) = .ok fingerprint
    rw [Layer.snapshot_stack_singleton, hdecoded, hfingerprint]

end Loaded

/-! ## Loading it again -/

/-- **Another primary source** in place of the one that was loaded: a load from stores that are otherwise the same
succeeds as well, and merges the same supplementary layers over it. -/
theorem MemoryStore.loadFrom_of_sameBut {a b : MemoryStore} {location directory : Text} {l : Loaded} {base : Layer}
    {data : List UInt8} (hload : ((Store.reader a).loadFrom location directory).result = .ok l)
    (hsame : SameBut location b a) (hsource : base.source = location) (hdata : b.files.get? location = some data)
    (hparse : Source.parse location data false = .ok base.values) (hkeyed : base.Keyed)
    (hpossible : Fingerprint.Possible base.values) :
    ∃ primary rest acts, (Store.reader a).Reads (.location location) directory location primary rest ∧
      l.supplementary = rest.map Layer.source ∧ (∀ layer ∈ rest, layer.Keyed) ∧
      (Store.reader b).loadFrom location directory =
        ⟨acts, .ok ⟨Layer.stack (base :: rest), location, rest.map Layer.source⟩⟩ := by
  obtain ⟨listing, candidates, primary, rest, fingerprint, hlist, happlies, hfingerprint, rfl, -⟩ :=
    SourceReader.loadFrom_eq_ok.mp (Run.eq_of_result hload)
  obtain ⟨-, hrest⟩ := List.forall_mem_cons.mp happlies.keyed
  have hcandidates : candidates = a.listSupplementary directory := by
    cases hlist
    rfl
  -- the supplementary layers come from other sources than the location, so they are read as before
  have hother : ∀ layer ∈ rest, layer.source ≠ location := by
    intro layer hlayer
    have hmem := happlies.sources_rest.mem_iff.mp (List.mem_map_of_mem hlayer)
    simpa using (Bool.and_eq_true_iff.mp (List.mem_filter.mp hmem).2).2
  -- the location could be read before, so it can be read now that other bytes are there
  have hprovides : (Store.reader b).Provides false base := by
    obtain ⟨old, hread, -⟩ := happlies.provides_primary
    rw [happlies.source_primary] at hread
    have hreadable : b.unreadable.contains location = false :=
      (hsame.unreadable location).trans (read_eq_ok.mp hread).1
    rw [SourceReader.Provides, hsource]
    exact ⟨data, read_eq_ok.mpr ⟨hreadable, hdata⟩, hparse⟩
  have hagain : (Store.reader b).Applies location (b.listSupplementary directory) base rest := by
    refine ⟨hsource, hprovides, ?_, happlies.sorted_rest, fun layer hlayer => ?_,
      List.forall_mem_cons.mpr ⟨hkeyed, hrest⟩⟩
    · have hperm := hsame.perm_list directory Supplementary.isSupported
      rw [← hcandidates] at hperm
      exact happlies.sources_rest.trans hperm.symm
    · obtain ⟨data, hread, hparse⟩ := happlies.provides_rest layer hlayer
      refine ⟨data, ?_, hparse⟩
      exact (hsame.read (hother layer hlayer)).trans hread
  have hstack : Fingerprint.Possible (Layer.stack (primary :: rest)).snapshot :=
    (Fingerprint.exists_ofRaw_iff _).mp ⟨fingerprint, hfingerprint⟩
  obtain ⟨fingerprint', hfingerprint'⟩ :=
    (Fingerprint.exists_ofRaw_iff _).mpr (Layer.possible_stack hpossible hstack)
  have hreads : (Store.reader a).Reads (.location location) directory location primary rest :=
    ⟨rfl, candidates, by rw [hlist], happlies⟩
  exact ⟨primary, rest, _, hreads, rfl, hrest, SourceReader.loadFrom_eq_ok.mpr
    ⟨[], _, base, rest, fingerprint', rfl, hagain, hfingerprint', rfl, rfl⟩⟩

/-- Properties that could be saved: the bytes at the location are those of the namespace after the changes. -/
theorem Configuration.setProperties_eq_ok {c : Configuration} {store : MemoryStore} {l : Loaded} {lead : Option Text}
    {changes : OrderedMap Value} (hl : c.phase = .loaded l) (hkeyed : l.namespace_.Keyed)
    (hset : (c.setProperties store lead changes).2.result = .ok ()) :
    ∃ c' l' data, (c.setProperties store lead changes).1 = (c', store.put l.location data) ∧
      c'.phase = .loaded l' ∧ c'.supplementaryDirectory = c.supplementaryDirectory ∧
      l'.location = l.location ∧ l'.supplementary = l.supplementary ∧ l'.namespace_.Keyed ∧
      Utf8.encode (Properties.write (l'.namespace_.snapshot.mapValues RawValue.decoded) []) = .ok data := by
  have hresult : (c.load (Store.reader store)).2.result = .ok l := by
    rw [load_of_loaded hl]
    rfl
  obtain ⟨ns, -, hns, hpersist, hleft⟩ := saved_of_setProperties hresult hset
  obtain ⟨data, hencode, hstore⟩ := MemoryStore.persist_eq_ok hpersist
  have hkeyed' : ns.Keyed := hns ▸ hkeyed.changed l.location lead changes
  refine ⟨c.withNamespace ns, { l with namespace_ := ns }, data, ?_, phase_withNamespace hl ns,
    supplementaryDirectory_withNamespace c ns, rfl, rfl, hkeyed', hencode⟩
  rw [hleft, load_of_loaded hl]
  exact congrArg (Prod.mk (c.withNamespace ns)) hstore

/-! ## The store with three layers, saved and loaded again -/

namespace Stacked

def session : Session MemoryStore :=
  ⟨⟨primary.source, "app.d", .loaded loaded⟩, store, ⟨store, "app.d"⟩⟩

theorem session_eq_run : session = (Session.start primary.source "app.d" store).run [.load] :=
  (Session.run_load loads).symm

/-- A change of a key that only the primary source defines; the blank at its start has to be escaped. -/
def changes : OrderedMap Value :=
  .ofList [("a", .text " 9")]

/-- The change is saved. -/
theorem session_saves : (session.configuration.setProperties session.store none changes).2.result = .ok () := by
  have hresult : (session.configuration.load (Store.reader session.store)).2.result = .ok loaded := rfl
  obtain ⟨-, hwritten⟩ := Configuration.setProperties_of_ok hresult none changes
  rw [hwritten]
  decide +kernel

/-- Saving the change touches no other source. -/
theorem session_sameBut :
    MemoryStore.SameBut loaded.location (session.configuration.setProperties session.store none changes).1.2
      session.origin.store := by
  have hkeyed : loaded.namespace_.Keyed := by
    unfold Namespace.Keyed
    decide
  obtain ⟨c, l', data, hleft, -⟩ := Configuration.setProperties_eq_ok (l := loaded) rfl hkeyed session_saves
  rw [hleft]
  exact ⟨fun _ hne => OrderedMap.get?_put_of_ne store.files data hne, fun _ => rfl⟩

end Stacked

/-! ## Every run -/

/-- **Saving and loading again.** After any run that holds something, let properties be set and saved. The bytes at
its location then read as what readers are given. If the other sources are as they were when it was loaded, loading
from the location and the same directory succeeds, and merges the same layers over what was saved. -/
theorem Session.reload_of_setProperties {primaryName supplementaryDirectory : Text} {store : MemoryStore}
    {operations : List (Operation MemoryStore)} {s : Session MemoryStore} {l : Loaded} {lead : Option Text}
    {changes : OrderedMap Value}
    (hs : s = (start primaryName supplementaryDirectory store).run operations)
    (hl : s.configuration.phase = .loaded l)
    (hsuffix : Format.suffixOf l.location ∉ ([".yaml", ".yml", ".json"] : List Text))
    (hset : (s.configuration.setProperties s.store lead changes).2.result = .ok ()) :
    ∃ (c : Configuration) (store' : MemoryStore) (l' : Loaded),
      (s.configuration.setProperties s.store lead changes).1 = (c, store') ∧
      c.phase = .loaded l' ∧ l'.location = l.location ∧ l'.supplementary = l.supplementary ∧
      (∃ data text, store'.files.get? l.location = some data ∧ Utf8.decode data = .ok text ∧
        Properties.read text = .ok (l'.namespace_.snapshot.mapValues RawValue.decoded)) ∧
      (MemoryStore.SameBut l.location store' s.origin.store →
        ∃ primary rest c' after acts,
          (Store.reader s.origin.store).Reads (.location l.location) s.origin.directory l.location primary rest ∧
          rest.map Layer.source = l.supplementary ∧
          c.seed (Store.reader store') l.location (some s.origin.directory) = (c', ⟨acts, .ok after⟩) ∧
          c'.phase = .loaded after ∧ l'.Reloaded after rest) := by
  have hfrom : s.FromOrigin l := by
    rw [hs] at hl ⊢
    exact inv_run primaryName supplementaryDirectory store operations l hl
  obtain ⟨c, l', data, hleft, hphase, hdirectory, hlocation, hsupplementary, hkeyed, hencode⟩ :=
    Configuration.setProperties_eq_ok hl hfrom.keyed hset
  have hdata : (s.store.put l.location data).files.get? l.location = some data := OrderedMap.get?_put_self _ _ _
  obtain ⟨text, hdecode, hread⟩ := Loaded.read_saved hkeyed hencode
  refine ⟨c, s.store.put l.location data, l', hleft, hphase, hlocation, hsupplementary,
    ⟨data, text, hdata, hdecode, hread⟩, fun hsame => ?_⟩
  -- the load from the origin, with what was saved as its primary source
  obtain ⟨l₀, hload, hsources⟩ := hfrom.loads
  have hsaved : l'.saved.Keyed := by
    intro key hkey
    rw [Loaded.saved_keys] at hkey
    exact hkeyed key hkey
  have hpossible : Fingerprint.Possible l'.saved.values := Loaded.possible_saved hencode
  have hparse : Source.parse l.location data false = .ok l'.saved.values :=
    Source.parse_of_read hsuffix hdecode hread
  obtain ⟨primary, rest, acts, hreads, hrest, hlayers, hagain⟩ :=
    MemoryStore.loadFrom_of_sameBut hload hsame hlocation hdata hparse hsaved hpossible
  have hmerged : rest.map Layer.source = l.supplementary := hrest.symm.trans hsources
  have hreloaded := Loaded.reloaded_stack (List.forall_mem_cons.mpr ⟨hsaved, hlayers⟩)
    (hmerged.trans hsupplementary.symm) hpossible
  rw [hlocation] at hreloaded
  have hchosen : c.chosen (some s.origin.directory) = s.origin.directory := by
    rw [Configuration.chosen_congr hdirectory]
    exact hfrom.directory
  rw [← hchosen] at hagain
  exact ⟨primary, rest, _, _, acts, hreads, hmerged, Configuration.seed_eq_ok.mpr ⟨hagain, rfl⟩, rfl, hreloaded⟩

theorem Session.reload_of_setProperties_stacked :
    ∃ (c : Configuration) (store' : MemoryStore) (l' : Loaded) (rest : List Layer) (c' : Configuration)
      (after : Loaded) (acts : List Act),
      (Stacked.session.configuration.setProperties Stacked.session.store none Stacked.changes).1 = (c, store') ∧
      c.seed (Store.reader store') Stacked.loaded.location (some "app.d") = (c', ⟨acts, .ok after⟩) ∧
      rest.map Layer.source = Stacked.loaded.supplementary ∧ l'.Reloaded after rest := by
  have hsuffix : Format.suffixOf Stacked.loaded.location ∉ ([".yaml", ".yml", ".json"] : List Text) := by
    decide +kernel
  obtain ⟨c, store', l', hleft, -, -, -, -, hreload⟩ :=
    Session.reload_of_setProperties Stacked.session_eq_run rfl hsuffix Stacked.session_saves
  have hsame : MemoryStore.SameBut Stacked.loaded.location store' Stacked.session.origin.store := by
    have hsaved := Stacked.session_sameBut
    rwa [hleft] at hsaved
  obtain ⟨primary, rest, c', after, acts, -, hrest, hseed, -, hreloaded⟩ := hreload hsame
  exact ⟨c, store', l', rest, c', after, acts, hleft, hseed, hrest, hreloaded⟩

end LayeredConfig
