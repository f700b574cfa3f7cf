import LayeredConfig.Proofs.Load.Failing

/-!
# The source that is at fault

A load that fails with a source error names the first source that cannot be read or parsed, in the order in which the
sources are applied. Whatever raises the error, in reading or in one of the parsers, gives it the identifier of the
source that is being read (`Source.only_parse`); and as candidates in no known format are passed over, no format is
ever refused.

* **`Configuration.fail_fast`** — the culprit of a load that is made by a configuration, what was read until then, and
  that nothing of it is held.
-/

namespace LayeredConfig

/-! ## Which source errors there are -/

/-- Each source error that an answer fails with is of this kind. -/
def SourceError.Only {α : Type} (p : SourceError → Prop) (x : Except Failure α) : Prop :=
  ∀ s, x = .error (.source s) → p s

namespace SourceError

variable {α β : Type} {p : SourceError → Prop}

theorem only_ok (a : α) : Only p (.ok a) := fun _ h => nomatch h

theorem only_error {e : Failure} (h : ∀ s, e = .source s → p s) : Only p (.error e : Except Failure α) :=
  fun s hs => h s (Except.error.inj hs)

/-- Only those errors that either step can fail with. -/
theorem only_bind {x : Except Failure α} {f : α → Except Failure β} (hx : Only p x) (hf : ∀ a, Only p (f a)) :
    Only p (x >>= f) := by
  cases x with
  | error e => exact fun s h => hx s (congrArg Except.error (Except.error.inj h))
  | ok a => exact hf a

/-- The error names this source, and what is wrong with it is not its format. -/
structure Names (identifier : Text) (s : SourceError) : Prop where
  source : s.source = some identifier
  supported : ∀ suffix, s.fault ≠ .unsupportedFormat suffix

end SourceError

namespace Source

open SourceError

variable {identifier : Text}

/-- A parser refuses in the name of its source. -/
theorem only_refuse {α : Type} {fault : SourceFault} (h : ∀ suffix, fault ≠ .unsupportedFormat suffix)
    (line : Option Nat) : Only (Names identifier) (refuse identifier fault line : Except Failure α) :=
  only_error fun s hs => by
    cases hs
    exact ⟨rfl, h⟩

theorem only_parseProperties (text : Text) : Only (Names identifier) (parseProperties identifier text) := by
  rw [parseProperties]
  cases Properties.read text with
  | ok m => exact only_ok _
  | error e => exact only_refuse (by simp) _

theorem only_readYaml (text : Text) : Only (Names identifier) (readYaml identifier text) := by
  rw [readYaml]
  split
  · exact only_ok _
  · exact only_refuse (by simp) _
  · exact only_error fun _ h => nomatch h

theorem only_readJson (text : Text) : Only (Names identifier) (readJson identifier text) := by
  rw [readJson]
  split
  · exact only_ok _
  · split
    · exact only_ok _
    · exact only_refuse (by simp) _
    · exact only_error fun _ h => nomatch h

/-- What a document holds is refused in that name too, if it is no map of scalars. -/
theorem only_ofValue (v : Option Value) : Only (Names identifier) (ofValue identifier v) := by
  unfold ofValue
  split
  · exact only_ok _
  · exact only_ok _
  · split
    · exact only_ok _
    · exact only_refuse (by simp) _
    · exact only_error fun _ h => nomatch h
  · exact only_refuse (by simp) _

/-- **Every parser names the source it was given**, and only a strict one looks at the format. -/
theorem only_parse {strict : Bool} (h : strict = true → Supplementary.isSupported identifier = true)
    (data : List UInt8) : Only (Names identifier) (parse identifier data strict) := by
  have hformat : (strict && (Format.of? identifier).isNone) = false := by
    cases strict with
    | false => rfl
    | true =>
      have hsupported := h rfl
      rw [Supplementary.isSupported] at hsupported
      simp [hsupported]
  rw [parse]
  simp only [hformat, Bool.false_eq_true, if_false]
  split
  · exact only_refuse (by simp) _
  · split
    · exact only_bind (only_readYaml _) only_ofValue
    · exact only_bind (only_readJson _) only_ofValue
    · exact only_parseProperties _

end Source

/-! ## Where sources live -/

/-- A place of sources that fails for its own reasons only: none of its answers is an error of a source, and listing a
directory reads none. -/
structure SourceReader.Plain (r : SourceReader) : Prop where
  resolve : ∀ name, SourceError.Only (fun _ => False) (r.resolvePrimary name)
  list : ∀ directory, SourceError.Only (fun _ => False) (r.listSupplementary directory).result
  quiet : ∀ directory, (r.listSupplementary directory).reads = []
  read : ∀ identifier, SourceError.Only (fun _ => False) (r.read identifier)

/-- Files in memory fail for their own reasons. -/
theorem MemoryStore.plain_reader (m : MemoryStore) : (Store.reader m).Plain where
  resolve name := by
    show SourceError.Only _ (m.resolvePrimary name)
    rw [resolvePrimary]
    split
    · exact SourceError.only_ok _
    · exact SourceError.only_error (by simp)
  list directory := SourceError.only_ok _
  quiet := m.reads_listSupplementary
  read identifier := by
    show SourceError.Only _ (m.read identifier)
    rw [MemoryStore.read]
    split
    · exact SourceError.only_error (by simp)
    · split
      · exact SourceError.only_ok _
      · exact SourceError.only_error (by simp)

namespace FileTree

variable {p : SourceError → Prop}

/-- A path that cannot be asked for is no error of a source. -/
theorem only_checkPath (path : Path) : SourceError.Only p (checkPath path) := by
  rw [checkPath]
  split
  · exact SourceError.only_error (by simp)
  · split
    · exact SourceError.only_error (by simp)
    · exact SourceError.only_ok _

theorem only_leadsTo (t : FileTree) (kind : Node → Bool) (path : Path) : SourceError.Only p (t.leadsTo kind path) := by
  rw [leadsTo]
  split
  · exact SourceError.only_ok _
  · split
    · exact SourceError.only_ok _
    · split
      · exact SourceError.only_ok _
      · exact SourceError.only_error (by simp [PathFault.at])

theorem only_read (t : FileTree) (path : Path) : SourceError.Only p (t.read path) := by
  refine SourceError.only_bind (only_checkPath path) fun _ => ?_
  split
  · exact SourceError.only_ok _
  · exact SourceError.only_error (by simp [PathFault.at])
  · exact SourceError.only_error (by simp [PathFault.at])

end FileTree

namespace FileStore

variable {p : SourceError → Prop}

/-- Searching a list of paths fails only as the check of one of them does. -/
theorem only_firstThat {check : Path → Except Failure Bool} (hcheck : ∀ path, SourceError.Only p (check path))
    (paths : List Path) : SourceError.Only p (firstThat check paths) := by
  induction paths with
  | nil => exact SourceError.only_ok _
  | cons path rest ih =>
    refine SourceError.only_bind (hcheck path) fun found => ?_
    split
    · exact SourceError.only_ok _
    · exact ih

/-- Keeping some of the paths fails only as the check of one of them does. -/
theorem only_filterM {check : Path → Except Failure Bool} (hcheck : ∀ path, SourceError.Only p (check path))
    (paths : List Path) : SourceError.Only p (paths.filterM check) := by
  -- over whatever was kept so far
  have haux (acc : List Path) : SourceError.Only p (paths.filterAuxM check acc) := by
    induction paths generalizing acc with
    | nil => exact SourceError.only_ok _
    | cons path rest ih => exact SourceError.only_bind (hcheck path) fun _ => ih _
  exact SourceError.only_bind (haux []) fun _ => SourceError.only_ok _

/-- Files fail for their own reasons too. -/
theorem plain_reader (s : FileStore) : (Store.reader s).Plain where
  resolve name := by
    refine SourceError.only_bind (only_firstThat (fun path => s.tree.only_leadsTo Node.isFile path) _) fun found => ?_
    split
    · exact SourceError.only_ok _
    · exact SourceError.only_error (by simp)
  list directory := by
    show SourceError.Only _ (s.listSupplementary directory).result
    rw [listSupplementary, Run.result_bind]
    refine SourceError.only_bind (only_firstThat (fun path => s.tree.only_leadsTo Node.isDirectory path) _)
      fun found => ?_
    split
    · exact SourceError.only_bind (only_filterM (fun path => s.tree.only_leadsTo Node.isFile path) _)
        fun _ => SourceError.only_ok _
    · exact SourceError.only_ok _
  quiet := s.reads_listSupplementary
  read identifier := s.tree.only_read _

end FileStore

/-! ## The culprit -/

namespace SourceReader

variable {r : SourceReader} {start : Start} {location directory : Text} {e : SourceError} {read : List Text}

/-- How a load from `location` ended that read these sources and failed with `e`. -/
structure FailsFast (r : SourceReader) (location directory : Text) (e : SourceError) (read earlier : List Text)
    (culprit : Text) (later : List Text) : Prop where
  sequence : r.sequence location directory = earlier ++ culprit :: later
  /-- Those before the culprit could be read and parsed … -/
  provides : ∀ identifier ∈ earlier, ∃ values, r.Provides (strictAt location identifier) ⟨identifier, values⟩
  /-- … and merged. -/
  merged : ∃ ns, (r.mergeAll earlier).result = .ok ns
  /-- The culprit could not be read, or what was read could not be parsed. -/
  rejected : (∃ s, r.read culprit = .error (.storage s) ∧ e = ⟨.unreadable s, some culprit, none⟩) ∨
    ∃ data, r.read culprit = .ok data ∧
      Source.parse culprit data (strictAt location culprit) = .error (.source e)
  /-- The error names it, and not for its format. -/
  names : e.Names culprit
  read_eq : read = earlier ++ [culprit]
  /-- No source is read twice, and none behind the culprit, unless the directory lists one twice. -/
  once : ∀ candidates, (r.listSupplementary directory).result = .ok candidates → candidates.Nodup →
    read.Nodup ∧ ∀ identifier ∈ later, identifier ∉ read

/-- A source that is rejected with a source error is named by it. -/
theorem Rejects.names {strict : Bool} {identifier : Text} (hr : r.Plain)
    (hformat : strict = true → Supplementary.isSupported identifier = true)
    (h : r.Rejects strict identifier (.source e)) :
    e.Names identifier ∧ ((∃ s, r.read identifier = .error (.storage s) ∧ e = ⟨.unreadable s, some identifier, none⟩) ∨
      ∃ data, r.read identifier = .ok data ∧ Source.parse identifier data strict = .error (.source e)) := by
  cases h with
  | unreadable hread => exact ⟨⟨rfl, by simp⟩, .inl ⟨_, hread, rfl⟩⟩
  | broken hread hother => exact (hr.read identifier e hread).elim
  | unparsable hread hparse => exact ⟨Source.only_parse hformat _ e hparse, .inr ⟨_, hread, hparse⟩⟩

/-- Where a load stops with a source error, it stops at the source that the error names. -/
theorem Stops.failsFast (hr : r.Plain) (h : r.Stops location directory read (.source e)) :
    ∃ earlier culprit later, r.FailsFast location directory e read earlier culprit later := by
  -- a directory and a fingerprint fail otherwise, so only the first way to stop is left
  generalize hfailure : Failure.source e = failure at h
  cases h with
  | @source earlier later culprit ns f hsequence hmerged hprovides hrefuses =>
    subst hfailure
    cases hrefuses with
    | rejected hrejects =>
      have hmem : culprit ∈ r.sequence location directory :=
        hsequence ▸ List.mem_append_right earlier List.mem_cons_self
      obtain ⟨hnames, hrejected⟩ := hrejects.names hr (isSupported_of_mem_sequence hmem)
      refine ⟨earlier, culprit, later, hsequence, hprovides, ⟨ns, hmerged⟩, hrejected, hnames, rfl, ?_⟩
      intro candidates hlist hnodup
      have hdistinct : (r.sequence location directory).Nodup := nodup_sequence hlist hnodup
      rw [hsequence, List.append_cons, List.nodup_append] at hdistinct
      exact ⟨hdistinct.1, fun identifier hlater hread => hdistinct.2.2 identifier hread identifier hlater rfl⟩
  | directory hlist => exact (hr.list directory e (hfailure ▸ hlist)).elim
  | fingerprint hmerged hfingerprint =>
    obtain ⟨u, rfl⟩ := Fingerprint.error_ofRaw hfingerprint
    cases hfailure

end SourceReader

namespace Configuration

variable {c : Configuration} {r : SourceReader} {start : SourceReader.Start} {directory : Text}
  {outcome : Configuration × Run Loaded}

/-- A load that is made and not remembered: by a configuration that holds nothing and has not failed, or by a seed. -/
inductive Attempts (c : Configuration) (r : SourceReader) :
    SourceReader.Start → Text → Configuration × Run Loaded → Prop
  | load (hphase : c.phase = .unloaded) :
      Attempts c r (.name c.primaryName) c.supplementaryDirectory (c.load r)
  | seed (location : Text) (directory : Option Text) :
      Attempts c r (.location location) (c.chosen directory) (c.seed r location directory)

/-- An attempt that fails reads what the load reads, and nothing new is held. -/
theorem Attempts.fails {e : Failure} (h : c.Attempts r start directory outcome) (he : outcome.2.result = .error e) :
    (r.loadAt start directory).result = .error e ∧ outcome.2.reads = (r.loadAt start directory).reads ∧
      outcome.1.loaded? = c.loaded? := by
  cases h with
  | load hphase =>
    have hresult : (r.load c.primaryName c.supplementaryDirectory).result = .error e :=
      (result_load_of_unloaded hphase).symm.trans he
    refine ⟨hresult, ?_⟩
    rw [load_of_error hphase hresult]
    split
    · -- the failure is remembered and reported, and neither is a reading
      refine ⟨?_, ?_⟩
      · show Act.reads (_ ++ [_]) = _
        rw [Act.reads_append]
        exact List.append_nil _
      · rw [loaded?, loaded?, hphase]
    · exact ⟨rfl, rfl⟩
  | seed location directory =>
    have hresult : (r.loadFrom location (c.chosen directory)).result = .error e := by
      rw [seed_eq] at he
      exact he
    rw [seed_eq]
    refine ⟨hresult, rfl, ?_⟩
    simp only [hresult]

/-- **A load that fails with a source error** names the first source that cannot be read or parsed. Those before it were
read, parsed and merged; those behind it were not read; and what the configuration holds is what it held before. -/
theorem fail_fast {e : SourceError} (hr : r.Plain) (h : c.Attempts r start directory outcome)
    (he : outcome.2.result = .error (.source e)) :
    ∃ location earlier culprit later, r.locate start = .ok location ∧
      r.FailsFast location directory e outcome.2.reads earlier culprit later ∧ outcome.1.loaded? = c.loaded? := by
  obtain ⟨hload, hreads, hheld⟩ := h.fails he
  rw [hreads]
  -- a location that is not found is no source error either
  rcases SourceReader.stops_of_loadAt (hr.quiet directory) hload with hlocate | ⟨location, hlocate, hstops⟩
  · cases start with
    | location location => cases hlocate
    | name name => exact (hr.resolve name e hlocate).elim
  · obtain ⟨earlier, culprit, later, hfails⟩ := hstops.failsFast hr
    exact ⟨location, earlier, culprit, later, hlocate, hfails, hheld⟩

end Configuration

namespace Stacked

/-- The store, where the last of the sources cannot be accessed. -/
def denied : MemoryStore :=
  { store with unreadable := [second.source] }

/-- The load from it gets past the other two sources and stops there. -/
theorem denied_fails : ((Store.reader denied).loadAt (.name primary.source) "app.d").result =
    .error (.source ⟨.unreadable (.denied "denied: app.d/20.properties"), some second.source, none⟩) := by
  have hlocate : (Store.reader denied).locate (.name primary.source) = .ok primary.source := by decide +kernel
  have hlist : ((Store.reader denied).listSupplementary "app.d").result = .ok (store.listSupplementary "app.d") := rfl
  have hsequence : (Store.reader denied).sequence primary.source "app.d" =
      [primary.source, first.source] ++ second.source :: [] := by
    rw [SourceReader.sequence_of_ok hlist,
      ← Supplementary.eq_filter_order_iff.mpr ⟨applies.sources_rest, applies.sorted_rest⟩]
    rfl
  have hprimary : (Store.reader denied).Provides false primary :=
    ⟨ascii "a=1\nb=1\n", by decide +kernel, by decide +kernel⟩
  have hfirst : ∀ l ∈ [first], (Store.reader denied).Provides true l := by
    rw [List.forall_mem_singleton]
    exact ⟨ascii "b=2\nc=2\n", by decide +kernel, by decide +kernel⟩
  have hkeyed : ∀ l ∈ [primary, first], l.Keyed := by
    unfold Layer.Keyed
    decide
  have hmerged := SourceReader.mergeAll_of_layers hprimary hfirst hkeyed
  have hread : (Store.reader denied).read second.source =
      .error (.storage (.denied "denied: app.d/20.properties")) := by
    decide +kernel
  rw [SourceReader.loadAt_of_locate hlocate]
  exact SourceReader.result_loadFrom_of_refuses hlist hsequence hmerged (.rejected (.unreadable hread))

end Stacked

/-- The last of three sources cannot be accessed. -/
theorem Configuration.fail_fast_denied :
    ∃ c : Configuration, c.phase = .unloaded ∧ c.primaryName = Stacked.primary.source ∧
      ∃ location earlier culprit later,
        (Store.reader Stacked.denied).FailsFast location c.supplementaryDirectory
          ⟨.unreadable (.denied "denied: app.d/20.properties"), some Stacked.second.source, none⟩
          (c.load (Store.reader Stacked.denied)).2.reads earlier culprit later := by
  obtain ⟨c, hphase, hname, hdirectory⟩ : ∃ c : Configuration, c.phase = .unloaded ∧
      c.primaryName = Stacked.primary.source ∧ c.supplementaryDirectory = "app.d" :=
    ⟨.new Stacked.primary.source "app.d", rfl, rfl, rfl⟩
  have hfails : (c.load (Store.reader Stacked.denied)).2.result =
      .error (.source ⟨.unreadable (.denied "denied: app.d/20.properties"), some Stacked.second.source, none⟩) := by
    rw [Configuration.result_load_of_unloaded hphase, hname, hdirectory]
    exact Stacked.denied_fails
  obtain ⟨location, earlier, culprit, later, -, hculprit, -⟩ :=
    Configuration.fail_fast (MemoryStore.plain_reader Stacked.denied) (.load hphase) hfails
  exact ⟨c, hphase, hname, location, earlier, culprit, later, hculprit⟩

end LayeredConfig
