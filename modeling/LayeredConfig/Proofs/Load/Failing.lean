import LayeredConfig.Proofs.Fingerprint
import LayeredConfig.Proofs.Lifecycle
import LayeredConfig.Proofs.Load.Alike

/-!
# Loads that fail

A load goes through its sources in order (`SourceReader.sequence`) and ends at the first one that it cannot read, parse
or merge. Before it can go past the primary source the directory has to be listed, and at the end a fingerprint has to
be taken; nothing else can stop it.

* **`addAll_eq_error`** — the supplementary sources, by induction on their identifiers.
* **`stops_of_loadFrom`** — a whole load: where it stopped and why (`Stops`), and what was read until then.
* **`result_loadFrom_of_refuses`** — and back: a load does not get past a source that is refused.
-/

namespace LayeredConfig

namespace SourceReader

variable {r : SourceReader} {acts : List Act} {strict : Bool} {location directory identifier : Text} {e : Failure}

/-! ## One source -/

/-- Why the values of a source cannot be had. -/
inductive Rejects (r : SourceReader) (strict : Bool) (identifier : Text) : Failure → Prop
  /-- The place where it lives refuses the access. -/
  | unreadable {s : StorageError} (hread : r.read identifier = .error (.storage s)) :
      Rejects r strict identifier (.source ⟨.unreadable s, some identifier, none⟩)
  /-- It cannot be read, and no access was refused. -/
  | broken {e : Failure} (hread : r.read identifier = .error e) (hother : ∀ s, e ≠ .storage s) :
      Rejects r strict identifier e
  | unparsable {data : List UInt8} {e : Failure} (hread : r.read identifier = .ok data)
      (hparse : Source.parse identifier data strict = .error e) : Rejects r strict identifier e

/-- Why a load stops at a source. -/
inductive Refuses (r : SourceReader) (strict : Bool) (identifier : Text) : Failure → Prop
  | rejected {e : Failure} (h : r.Rejects strict identifier e) : Refuses r strict identifier e
  /-- Its values can be had, but one of the keys is empty. -/
  | keyless {values : OrderedMap RawValue} (hprovides : r.Provides strict ⟨identifier, values⟩)
      (hkeys : ¬ Layer.Keyed ⟨identifier, values⟩) : Refuses r strict identifier .badKey

/-- The values of a source cannot be had exactly for one of these reasons, and the source is read in any case. -/
theorem values_eq_error :
    r.values identifier strict = ⟨acts, .error e⟩ ↔ acts = [.read identifier] ∧ r.Rejects strict identifier e := by
  rw [values]
  constructor
  · intro h
    refine ⟨(congrArg Run.acts h).symm, ?_⟩
    have hresult := congrArg Run.result h
    cases hread : r.read identifier with
    | ok data =>
      rw [hread] at hresult
      exact .unparsable hread hresult
    | error f =>
      rw [hread] at hresult
      -- an access that is refused gets the name of the source; other failures pass as they are
      cases f with
      | storage s =>
        cases hresult
        exact .unreadable hread
      | _ =>
        cases hresult
        exact .broken hread (by simp)
  · rintro ⟨rfl, h⟩
    cases h with
    | unreadable hread =>
      rw [hread]
      rfl
    | broken hread hother =>
      rw [hread]
      cases e with
      | storage s => exact absurd rfl (hother s)
      | _ => rfl
    | unparsable hread hparse =>
      rw [hread, ← hparse]
      rfl

/-- The primary source fails if it is refused, and was read by then. -/
theorem loadPrimary_eq_error (h : r.loadPrimary identifier = ⟨acts, .error e⟩) :
    acts = [.report (.loading identifier), .read identifier] ∧ r.Refuses false identifier e := by
  rw [loadPrimary] at h
  simp only [Run.bind_eq_error, Run.report_eq_ok, Run.report_ne_error, values_eq_error, values_eq_ok,
    Run.ofExcept_eq_error, false_or] at h
  obtain ⟨_, ⟨⟩, _, rfl, ⟨rfl, hrejects⟩ | ⟨_, values, _, ⟨rfl, hprovides⟩, ⟨rfl, hset⟩, rfl⟩, rfl⟩ := h
  · exact ⟨rfl, .rejected hrejects⟩
  · have hkeys : ¬ Layer.Keyed ⟨identifier, values⟩ := by
      intro hkeyed
      rw [Namespace.ofValues_eq hkeyed] at hset
      cases hset
    obtain rfl : e = .badKey := Namespace.error_setAll hset
    exact ⟨rfl, .keyless hprovides hkeys⟩

/-- Any other source fails if it is refused; it was read, and what it had overridden was reported. -/
theorem addSupplementary_eq_error {ns : Namespace} (h : r.addSupplementary ns identifier = ⟨acts, .error e⟩) :
    (∃ notices : List Log.Notice,
        acts = [.report (.adding identifier), .read identifier] ++ notices.map .report) ∧
      r.Refuses true identifier e := by
  rw [addSupplementary] at h
  simp only [Run.bind_eq_error, Run.report_eq_ok, Run.report_ne_error, values_eq_error, values_eq_ok,
    Run.ofExcept_eq_error, Run.pure_ne_error, false_or, and_false, false_and, exists_false, or_false] at h
  obtain ⟨_, ⟨⟩, _, rfl, ⟨rfl, hrejects⟩ | ⟨_, values, _, ⟨rfl, hprovides⟩, ⟨_, ⟨⟩, _, rfl, ⟨rfl, hmerged⟩, rfl⟩, rfl⟩,
    rfl⟩ := h
  · exact ⟨⟨[], rfl⟩, .rejected hrejects⟩
  · -- what was merged before the empty key is reported all the same
    have hkeys : ¬ Layer.Keyed ⟨identifier, values⟩ := by
      intro hkeyed
      rw [Namespace.merge_eq_overlay ns hkeyed] at hmerged
      cases hmerged
    rw [Namespace.merge_toValue] at hmerged
    obtain rfl : e = .badKey := Namespace.error_mergeEntries hmerged
    refine ⟨⟨(ns.merge (values.mapValues RawValue.toValue) identifier).notices, ?_⟩, .keyless hprovides hkeys⟩
    rw [List.append_nil]
    rfl

/-- A source that is refused fails as the primary one … -/
theorem result_loadPrimary (h : r.Refuses false identifier e) : (r.loadPrimary identifier).result = .error e := by
  simp only [loadPrimary, Run.result_bind, Run.result_report, Run.result_ofExcept]
  cases h with
  | rejected h =>
    rw [values_eq_error.mpr ⟨rfl, h⟩]
    rfl
  | @keyless values hprovides hkeys =>
    rw [values_eq_ok.mpr ⟨rfl, hprovides⟩]
    show Namespace.ofValues (values.mapValues RawValue.toValue) (some identifier) = .error .badKey
    cases hset : Namespace.ofValues (values.mapValues RawValue.toValue) (some identifier) with
    | ok ns => exact absurd (Namespace.keys_ne_nil_of_ofValues hset) hkeys
    | error e => rw [Namespace.error_setAll hset]

/-- … and as any other. -/
theorem result_addSupplementary (h : r.Refuses true identifier e) (ns : Namespace) :
    (r.addSupplementary ns identifier).result = .error e := by
  simp only [addSupplementary, Run.result_bind, Run.result_report, Run.result_ofExcept, Run.result_pure]
  cases h with
  | rejected h =>
    rw [values_eq_error.mpr ⟨rfl, h⟩]
    rfl
  | @keyless values hprovides hkeys =>
    rw [values_eq_ok.mpr ⟨rfl, hprovides⟩]
    show ((ns.merge (values.mapValues RawValue.toValue) identifier).result >>= fun _ => .ok _) = .error .badKey
    cases hmerged : (ns.merge (values.mapValues RawValue.toValue) identifier).result with
    | ok os => exact absurd (Namespace.keys_ne_nil_of_merge hmerged) hkeys
    | error e =>
      rw [Namespace.merge_toValue] at hmerged
      rw [Namespace.error_mergeEntries hmerged]
      rfl

/-! ## Many sources -/

/-- **Supplementary sources fail at the first one that is refused.** Those before it were read and merged, and those
behind it were not read. -/
theorem addAll_eq_error {identifiers : List Text} {ns : Namespace} {acts : List Act}
    (h : r.addAll ns identifiers = ⟨acts, .error e⟩) :
    ∃ (layers : List Layer) (culprit : Text) (later : List Text),
      identifiers = layers.map Layer.source ++ culprit :: later ∧ (∀ l ∈ layers, r.Provides true l) ∧
        (∀ l ∈ layers, l.Keyed) ∧ r.Refuses true culprit e ∧
        Act.reads acts = layers.map Layer.source ++ [culprit] := by
  induction identifiers generalizing ns acts with
  | nil => exact absurd h Run.pure_ne_error
  | cons identifier rest ih =>
    rw [addAll] at h
    -- either the first one is refused, or it was merged and the culprit is among the rest
    rcases Run.bind_eq_error.mp h with hfirst | ⟨_, ns', acts', hfirst, hrest, rfl⟩
    · obtain ⟨⟨notices, rfl⟩, hrefuses⟩ := addSupplementary_eq_error hfirst
      refine ⟨[], identifier, rest, rfl, by simp, by simp, hrefuses, ?_⟩
      rw [Act.reads_append, Act.reads_map_report]
      rfl
    · obtain ⟨l, rfl, hprovides, hkeyed, rfl, rfl⟩ := addSupplementary_eq_ok.mp hfirst
      obtain ⟨layers, culprit, later, rfl, hlayers, hkeys, hrefuses, hreads⟩ := ih hrest
      refine ⟨l :: layers, culprit, later, rfl, List.forall_mem_cons.mpr ⟨hprovides, hlayers⟩,
        List.forall_mem_cons.mpr ⟨hkeyed, hkeys⟩, hrefuses, ?_⟩
      rw [Act.reads_append, Act.reads_actsOnto, hreads]
      rfl

/-! ## A whole load -/

/-- The sources of a load in the order in which they are applied: the location, and the candidates in known formats but
for the location. -/
def sequence (r : SourceReader) (location directory : Text) : List Text :=
  let candidates := (r.listSupplementary directory).result.toOption.getD []
  location :: (Supplementary.order candidates).filter (· ≠ location)

/-- The namespace of the first sources of a sequence, read, parsed and merged one after the other. -/
def mergeAll (r : SourceReader) : List Text → Run Namespace
  | [] => return .empty
  | location :: rest => do r.addAll (← r.loadPrimary location) rest

/-- Any format will do for the location; the other sources are parsed strictly. -/
def strictAt (location identifier : Text) : Bool :=
  identifier ≠ location

/-- Where a load from `location` stops: what it has read by then, and why it cannot go on. -/
inductive Stops (r : SourceReader) (location directory : Text) : List Text → Failure → Prop
  /-- At a source, and those before it could be merged. -/
  | source {earlier later : List Text} {culprit : Text} {ns : Namespace} {e : Failure}
      (hsequence : r.sequence location directory = earlier ++ culprit :: later)
      (hmerged : (r.mergeAll earlier).result = .ok ns)
      (hprovides : ∀ identifier ∈ earlier, ∃ values, r.Provides (strictAt location identifier) ⟨identifier, values⟩)
      (hrefuses : r.Refuses (strictAt location culprit) culprit e) :
      Stops r location directory (earlier ++ [culprit]) e
  /-- At the directory. -/
  | directory {e : Failure} (hlist : (r.listSupplementary directory).result = .error e) :
      Stops r location directory [location] e
  /-- At the end, where all sources are merged. -/
  | fingerprint {ns : Namespace} {e : Failure}
      (hmerged : (r.mergeAll (r.sequence location directory)).result = .ok ns)
      (hfingerprint : Fingerprint.ofRaw ns.snapshot = .error e) :
      Stops r location directory (r.sequence location directory) e

/-- The sequence, once the directory is listed. -/
theorem sequence_of_ok {candidates : List Text} (h : (r.listSupplementary directory).result = .ok candidates) :
    r.sequence location directory = location :: (Supplementary.order candidates).filter (· ≠ location) := by
  rw [sequence, h]
  rfl

/-- No source comes twice, unless the directory lists it twice. -/
theorem nodup_sequence {candidates : List Text} (h : (r.listSupplementary directory).result = .ok candidates)
    (hnodup : candidates.Nodup) : (r.sequence location directory).Nodup := by
  have horder : (Supplementary.order candidates).Nodup :=
    (Supplementary.order_perm candidates).nodup_iff.mpr (hnodup.filter _)
  rw [sequence_of_ok h, List.nodup_cons]
  exact ⟨fun hmem => of_decide_eq_true (List.mem_filter.mp hmem).2 rfl, horder.filter _⟩

/-- The location is not among the candidates that are applied. -/
theorem ne_location_of_mem_filter {identifiers : List Text} (h : identifier ∈ identifiers.filter (· ≠ location)) :
    identifier ≠ location :=
  of_decide_eq_true (List.mem_filter.mp h).2

/-- Another source than the location is parsed strictly. -/
theorem strictAt_of_ne (h : identifier ≠ location) : strictAt location identifier = true :=
  decide_eq_true h

@[simp] theorem strictAt_self (location : Text) : strictAt location location = false :=
  decide_eq_false fun h => h rfl

/-- Whatever is parsed strictly is in a known format. -/
theorem isSupported_of_mem_sequence (h : identifier ∈ r.sequence location directory)
    (hstrict : strictAt location identifier = true) : Supplementary.isSupported identifier = true := by
  rcases List.mem_cons.mp h with rfl | hmem
  · rw [strictAt_self] at hstrict
    cases hstrict
  · exact Supplementary.isSupported_of_mem_order (List.mem_of_mem_filter hmem)

/-- Layers whose keys are not empty are merged into a stack. -/
theorem mergeAll_of_layers {primary : Layer} {rest : List Layer} (hprimary : r.Provides false primary)
    (hrest : ∀ l ∈ rest, r.Provides true l) (hkeyed : ∀ l ∈ primary :: rest, l.Keyed) :
    (r.mergeAll (primary.source :: rest.map Layer.source)).result = .ok (Layer.stack (primary :: rest)) := by
  obtain ⟨hkey, hkeys⟩ := List.forall_mem_cons.mp hkeyed
  have hfirst := loadPrimary_eq_ok.mpr ⟨primary, rfl, hprimary, hkey, rfl, rfl⟩
  have hothers : r.addAll (Layer.stack [primary]) (rest.map Layer.source) =
      ⟨Layer.stackActs (Layer.stack [primary]) rest, .ok (Layer.stack (primary :: rest))⟩ :=
    addAll_eq_ok.mpr ⟨rest, rfl, hrest, hkeys, rfl, rfl⟩
  rw [mergeAll, Run.bind_eq_ok.mpr ⟨_, _, _, hfirst, hothers, rfl⟩]

/-- The layers of a load are provided as the place of each one in the sequence asks for. -/
theorem provides_of_layers {primary : Layer} {rest : List Layer} (hprimary : r.Provides false primary)
    (hrest : ∀ l ∈ rest, r.Provides true l) (hother : ∀ l ∈ rest, l.source ≠ primary.source) :
    ∀ identifier ∈ primary.source :: rest.map Layer.source,
      ∃ values, r.Provides (strictAt primary.source identifier) ⟨identifier, values⟩ := by
  refine List.forall_mem_cons.mpr ⟨⟨primary.values, by simpa using hprimary⟩, List.forall_mem_map.mpr fun l hl => ?_⟩
  rw [strictAt_of_ne (hother l hl)]
  exact ⟨l.values, hrest l hl⟩

/-- Sources may be merged in two parts. -/
theorem result_addAll_append (identifiers later : List Text) (ns : Namespace) :
    (r.addAll ns (identifiers ++ later)).result =
      (r.addAll ns identifiers).result >>= fun ns => (r.addAll ns later).result := by
  induction identifiers generalizing ns with
  | nil => rfl
  | cons identifier rest ih =>
    rw [List.cons_append, addAll, addAll, Run.result_bind, Run.result_bind]
    cases (r.addSupplementary ns identifier).result with
    | error e => rfl
    | ok ns' => exact ih ns'

/-- Once the directory is listed, a load is the merge of its sources and a fingerprint of what they make. -/
theorem result_loadFrom_of_listed {candidates : List Text}
    (hlist : (r.listSupplementary directory).result = .ok candidates) :
    (r.loadFrom location directory).result = do
      let ns ← (r.mergeAll (r.sequence location directory)).result
      let _ ← Fingerprint.ofRaw ns.snapshot
      return ⟨ns, location, (r.sequence location directory).tail⟩ := by
  rw [result_loadFrom, hlist, sequence_of_ok hlist, mergeAll, Run.result_bind, bind_assoc]
  rfl

/-- **A load ends at the first source that is refused.** -/
theorem result_loadFrom_of_refuses {candidates earlier later : List Text} {culprit : Text} {ns : Namespace}
    (hlist : (r.listSupplementary directory).result = .ok candidates)
    (hsequence : r.sequence location directory = earlier ++ culprit :: later)
    (hmerged : (r.mergeAll earlier).result = .ok ns) (hrefuses : r.Refuses (strictAt location culprit) culprit e) :
    (r.loadFrom location directory).result = .error e := by
  rw [result_loadFrom_of_listed hlist, hsequence]
  rw [sequence_of_ok hlist] at hsequence
  cases earlier with
  -- the location itself is refused
  | nil =>
    obtain ⟨rfl, -⟩ := List.cons.inj hsequence
    rw [strictAt_self] at hrefuses
    rw [List.nil_append, mergeAll, Run.result_bind, result_loadPrimary hrefuses]
    rfl
  -- the location was merged, so the culprit is another source and is parsed strictly
  | cons first rest =>
    rw [List.cons_append, List.cons.injEq] at hsequence
    obtain ⟨rfl, happlied⟩ := hsequence
    have hother : culprit ≠ location :=
      ne_location_of_mem_filter (happlied ▸ List.mem_append_right rest List.mem_cons_self)
    rw [strictAt_of_ne hother] at hrefuses
    have hmerge : (r.mergeAll (location :: (rest ++ culprit :: later))).result = .error e := by
      simp only [mergeAll, Run.result_bind] at hmerged
      simp only [mergeAll, addAll, Run.result_bind, result_addAll_append, ← bind_assoc, hmerged]
      show (r.addSupplementary ns culprit).result >>= _ = _
      rw [result_addSupplementary hrefuses]
      rfl
    rw [List.cons_append, hmerge]
    rfl

/-- **A load that fails** stops at one of its sources, at the directory, or at the fingerprint. -/
theorem stops_of_loadFrom (hquiet : (r.listSupplementary directory).reads = [])
    (h : r.loadFrom location directory = ⟨acts, .error e⟩) : r.Stops location directory (Act.reads acts) e := by
  rw [loadFrom] at h
  -- the steps of a load in order, each one reached only if those before it succeeded
  rcases Run.bind_eq_error.mp h with hfirst | ⟨_, ns, _, hfirst, hlisted, rfl⟩
  · obtain ⟨rfl, hrefuses⟩ := loadPrimary_eq_error hfirst
    exact @Stops.source r location directory [] _ location .empty e rfl rfl (by simp) (by simpa using hrefuses)
  obtain ⟨primary, rfl, hprimary, hkey, rfl, rfl⟩ := loadPrimary_eq_ok.mp hfirst
  rcases Run.bind_eq_error.mp hlisted with hlist | ⟨listing, candidates, _, hlist, hothers, rfl⟩
  · rw [hlist] at hquiet
    rw [Act.reads_append, show Act.reads _ = [] from hquiet]
    exact .directory (congrArg Run.result hlist)
  have hreads : Act.reads listing = [] := by
    rw [hlist] at hquiet
    exact hquiet
  have hsequence := @sequence_of_ok r primary.source directory candidates (congrArg Run.result hlist)
  simp only [Run.bind_eq_error, Run.report_eq_ok, Run.report_ne_error, Run.ofExcept_eq_error, Run.ofExcept_eq_ok,
    Run.pure_ne_error, false_or, and_false, false_and, exists_false, or_false] at hothers
  obtain ⟨_, ⟨⟩, _, rfl, hadd | ⟨_, ns, _, hadd, ⟨rfl, hfingerprint⟩, rfl⟩, rfl⟩ := hothers
  · obtain ⟨layers, culprit, later, happlied, hprovides, hkeys, hrefuses, hread⟩ := addAll_eq_error hadd
    have hother : ∀ identifier ∈ layers.map Layer.source ++ culprit :: later, identifier ≠ primary.source :=
      fun identifier hmem => ne_location_of_mem_filter (happlied ▸ hmem)
    have hmerged := mergeAll_of_layers hprimary hprovides (List.forall_mem_cons.mpr ⟨hkey, hkeys⟩)
    have hlayers := provides_of_layers hprimary hprovides fun l hl =>
      hother l.source (List.mem_append_left _ (List.mem_map_of_mem hl))
    rw [← strictAt_of_ne (hother culprit (List.mem_append_right _ List.mem_cons_self))] at hrefuses
    rw [happlied] at hsequence
    have hstops := Stops.source hsequence hmerged hlayers hrefuses
    simp only [Act.reads_append, Act.reads_map_report, hreads, hread]
    exact hstops
  · obtain ⟨rest, hrest, hprovides, hkeys, rfl, rfl⟩ := addAll_eq_ok.mp hadd
    have hmerged := mergeAll_of_layers hprimary hprovides (List.forall_mem_cons.mpr ⟨hkey, hkeys⟩)
    rw [hrest, ← hsequence] at hmerged
    have hstops := Stops.fingerprint hmerged hfingerprint
    rw [hsequence, ← hrest] at hstops
    simp only [Act.reads_append, Act.reads_map_report, Act.reads_stackActs, hreads, List.append_nil]
    exact hstops

/-- Once the location is found it does not matter how. -/
theorem loadAt_of_locate {start : Start} (h : r.locate start = .ok location) :
    r.loadAt start directory = r.loadFrom location directory := by
  cases start with
  | location location =>
    cases h
    rfl
  | name name =>
    show r.load name directory = _
    rw [load, show r.resolvePrimary name = .ok location from h]
    rfl

/-- A load from either start finds no location, or stops on the way from it. -/
theorem stops_of_loadAt {start : Start} (hquiet : (r.listSupplementary directory).reads = [])
    (h : (r.loadAt start directory).result = .error e) :
    r.locate start = .error e ∨
      ∃ location, r.locate start = .ok location ∧
        r.Stops location directory (r.loadAt start directory).reads e := by
  cases hlocate : r.locate start with
  | ok location =>
    rw [loadAt_of_locate hlocate] at h ⊢
    exact .inr ⟨location, rfl, stops_of_loadFrom hquiet (Run.eq_of_result h)⟩
  | error e' =>
    cases start with
    | location location => cases hlocate
    | name name =>
      change (r.load name directory).result = _ at h
      rw [load, show r.resolvePrimary name = .error e' from hlocate] at h
      exact .inl (congrArg Except.error (Except.error.inj h))

end SourceReader

end LayeredConfig
