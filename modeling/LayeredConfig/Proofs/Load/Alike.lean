import LayeredConfig.Proofs.Load.LastWins

/-!
# Loads that cannot be told apart

A load asks for the location of the primary source, for the bytes of sources, and for the candidates of a directory.
Of the candidates it uses only those in known formats, and it puts them in an order that no two identifiers share.
So two places where sources live give the same outcome, a failure included, if they differ only in how candidates
are listed and in what else is listed.

* **`result_loadFrom`** — the outcome of a load without what is reported on the way.
* **`addAll_congr`** — merging sources depends on what is read of these sources, and on nothing else.
* **`SourceReader.load_independent_of_listing`** — the two together.
-/

namespace LayeredConfig

namespace Failure

variable {α β : Type}

/-- What follows an answer matters only where there is one. -/
theorem bind_congr {x : Except Failure α} {f g : α → Except Failure β} (h : ∀ a, x = .ok a → f a = g a) :
    x >>= f = x >>= g := by
  cases x with
  | error e => rfl
  | ok a => exact h a rfl

end Failure

namespace Supplementary

/-- Two listings have the same candidates in known formats, or fail alike. -/
def SameCandidates : Except Failure (List Text) → Except Failure (List Text) → Prop
  | .ok candidates, .ok candidates' => (candidates.filter isSupported).Perm (candidates'.filter isSupported)
  | .error e, .error e' => e = e'
  | _, _ => False

/-- They are put into the same order, or fail alike. -/
theorem SameCandidates.map_order {listing listing' : Except Failure (List Text)}
    (h : SameCandidates listing listing') : listing.map order = listing'.map order := by
  cases listing with
  | error e =>
    cases listing' with
    | error e' => exact congrArg Except.error h
    | ok candidates' => exact absurd h id
  | ok candidates =>
    cases listing' with
    | error e' => exact absurd h id
    | ok candidates' => exact congrArg Except.ok (order_congr h)

/-- What is ordered is in a known format. -/
theorem isSupported_of_mem_order {candidates : List Text} {identifier : Text} (h : identifier ∈ order candidates) :
    isSupported identifier = true := by
  have hmem := (order_perm candidates).mem_iff.mp h
  exact (List.mem_filter.mp hmem).2

end Supplementary

namespace SourceReader

variable {r r' : SourceReader}

/-! ## What a load depends on -/

/-- Parsing depends on what is read. -/
theorem values_congr {identifier : Text} (h : r.read identifier = r'.read identifier) (strict : Bool) :
    r.values identifier strict = r'.values identifier strict := by
  unfold values
  rw [h]

/-- Loading the primary source depends on what is read of it. -/
theorem loadPrimary_congr {location : Text} (h : r.read location = r'.read location) :
    r.loadPrimary location = r'.loadPrimary location := by
  unfold loadPrimary
  rw [values_congr h]

/-- Merging another source depends on what is read of that. -/
theorem addSupplementary_congr {identifier : Text} (h : r.read identifier = r'.read identifier) (ns : Namespace) :
    r.addSupplementary ns identifier = r'.addSupplementary ns identifier := by
  unfold addSupplementary
  rw [values_congr h]

/-- Merging sources depends on what is read of these sources only. -/
theorem addAll_congr {identifiers : List Text}
    (h : ∀ identifier ∈ identifiers, r.read identifier = r'.read identifier) (ns : Namespace) :
    r.addAll ns identifiers = r'.addAll ns identifiers := by
  induction identifiers generalizing ns with
  | nil => rfl
  | cons identifier rest ih =>
    obtain ⟨hread, hrest⟩ := List.forall_mem_cons.mp h
    -- whatever the first source leaves, the rest is merged into it alike
    have hrest : (fun ns => r.addAll ns rest) = fun ns => r'.addAll ns rest := funext (ih hrest)
    rw [addAll, addAll, addSupplementary_congr hread, hrest]

/-- **The outcome of a load**, without what is reported on the way. The listing counts only as the order of its
candidates in known formats. -/
theorem result_loadFrom (r : SourceReader) (location directory : Text) :
    (r.loadFrom location directory).result = (do
      let primary ← (r.loadPrimary location).result
      let identifiers ← (r.listSupplementary directory).result.map Supplementary.order
      let applied := identifiers.filter (· ≠ location)
      let ns ← (r.addAll primary applied).result
      let _ ← Fingerprint.ofRaw ns.snapshot
      return ⟨ns, location, applied⟩) := by
  unfold loadFrom
  simp only [Run.result_bind]
  cases (r.loadPrimary location).result with
  | error e => rfl
  | ok primary => cases (r.listSupplementary directory).result <;> rfl

/-- A load from a location depends on what is read there, on sources in known formats, and on the candidates. -/
theorem result_loadFrom_congr {location directory : Text} (hprimary : r.read location = r'.read location)
    (hsupported : ∀ identifier, Supplementary.isSupported identifier = true → r.read identifier = r'.read identifier)
    (hlist : Supplementary.SameCandidates (r.listSupplementary directory).result
      (r'.listSupplementary directory).result) :
    (r.loadFrom location directory).result = (r'.loadFrom location directory).result := by
  rw [result_loadFrom, result_loadFrom, loadPrimary_congr hprimary, hlist.map_order]
  refine Failure.bind_congr fun primary _ => Failure.bind_congr fun identifiers hidentifiers => ?_
  -- the same list is applied, and every source on it is in a known format
  have hread : ∀ identifier ∈ identifiers.filter (· ≠ location), r.read identifier = r'.read identifier := by
    intro identifier hmem
    obtain ⟨candidates, -, rfl⟩ := Run.except_map_eq_ok.mp hidentifiers
    exact hsupported identifier (Supplementary.isSupported_of_mem_order (List.mem_filter.mp hmem).1)
  simp only [addAll_congr hread]

/-! ## Places that answer alike -/

/-- A load that starts at `start` gets the same answers of both, but for the order of the candidates and for
those in no known format. -/
structure Alike (r r' : SourceReader) (start : Start) (directory : Text) : Prop where
  /-- The primary source is found at the same place, or not found alike. -/
  locate : r.locate start = r'.locate start
  read_primary : ∀ location, r.locate start = .ok location → r.read location = r'.read location
  read_supported : ∀ identifier, Supplementary.isSupported identifier = true → r.read identifier = r'.read identifier
  candidates : Supplementary.SameCandidates (r.listSupplementary directory).result
    (r'.listSupplementary directory).result

/-- Both places give the same outcome, from either start. -/
theorem Alike.result_loadAt {start : Start} {directory : Text} (h : r.Alike r' start directory) :
    (r.loadAt start directory).result = (r'.loadAt start directory).result := by
  cases start with
  | location location => exact result_loadFrom_congr (h.read_primary location rfl) h.read_supported h.candidates
  | name name =>
    have hresolve : r.resolvePrimary name = r'.resolvePrimary name := h.locate
    show (r.load name directory).result = (r'.load name directory).result
    unfold load
    rw [Run.result_bind, Run.result_bind, ← hresolve]
    exact Failure.bind_congr fun location hlocation =>
      result_loadFrom_congr (h.read_primary location hlocation) h.read_supported h.candidates

/-! ## Every load -/

/-- **The outcome of a load does not depend on how candidates are listed**, nor on those in no known format. The
candidates that are applied are the same for every order of the listing, each as often as it is listed, by name and
then by the whole identifier. -/
theorem load_independent_of_listing {start : Start} {directory : Text} (h : r.Alike r' start directory) :
    (r.loadAt start directory).result = (r'.loadAt start directory).result ∧
      ∀ candidates candidates' : List Text, candidates.Perm candidates' →
        Supplementary.order candidates = Supplementary.order candidates' ∧
          (Supplementary.order candidates).Perm (candidates.filter Supplementary.isSupported) ∧
          (Supplementary.order candidates).Pairwise Supplementary.Before := by
  refine ⟨h.result_loadAt, fun candidates candidates' hperm => ?_⟩
  have hsame : Supplementary.order candidates = Supplementary.order candidates' :=
    Supplementary.order_congr (hperm.filter Supplementary.isSupported)
  exact ⟨hsame, Supplementary.order_perm candidates, Supplementary.order_sorted candidates⟩

end SourceReader

/-! ## Sources in memory -/

/-- Where the same sources are kept in some order besides others, those sources are read alike. -/
theorem MemoryStore.read_congr_of_perm {a b : MemoryStore} (kept : Text → Bool)
    (hfiles : (a.files.entries.filter fun e => kept e.1).Perm (b.files.entries.filter fun e => kept e.1))
    (hunreadable : ∀ identifier, kept identifier = true →
      a.unreadable.contains identifier = b.unreadable.contains identifier)
    {identifier : Text} (h : kept identifier = true) : a.read identifier = b.read identifier := by
  have hmem (data : List UInt8) : (identifier, data) ∈ a.files.entries ↔ (identifier, data) ∈ b.files.entries := by
    have hfiltered := hfiles.mem_iff (a := (identifier, data))
    rw [List.mem_filter, List.mem_filter] at hfiltered
    simpa only [h, and_true] using hfiltered
  have hget : a.files.get? identifier = b.files.get? identifier := by
    refine Option.ext fun data => ?_
    rw [OrderedMap.get?_eq_some_iff, OrderedMap.get?_eq_some_iff]
    exact hmem data
  rw [MemoryStore.read, MemoryStore.read, hget, hunreadable identifier h]

namespace Stacked

/-- The three layers in another order, with something else in no known format in the directory. -/
def relisted : MemoryStore where
  files := .ofList [("app.d/10.properties", ascii "b=2\nc=2\n"), ("app.d/README", ascii "=\\u"),
    ("app.properties", ascii "a=1\nb=1\n"), ("app.d/20.properties", ascii "b=3\n")]
  unreadable := ["app.d/README"]
  persistError := none

/-- What tells the two stores apart is of no concern to a load. -/
theorem alike : (Store.reader store).Alike (Store.reader relisted) (.name primary.source) "app.d" where
  locate := by decide +kernel
  read_primary := by
    intro location hlocate
    have hlocation : Except.ok primary.source = (Except.ok location : Except Failure Text) := hlocate
    cases hlocation
    decide +kernel
  read_supported := by
    have hfiles : (store.files.entries.filter fun e => Supplementary.isSupported e.1).Perm
        (relisted.files.entries.filter fun e => Supplementary.isSupported e.1) := by
      decide +kernel
    refine fun _ => MemoryStore.read_congr_of_perm Supplementary.isSupported hfiles ?_
    intro identifier hsupported
    have hreadme : identifier ≠ "app.d/README" := by
      rintro rfl
      revert hsupported
      decide +kernel
    simp [store, relisted, hreadme]
  candidates := by
    show (List.filter Supplementary.isSupported (store.listSupplementary "app.d")).Perm
      (List.filter Supplementary.isSupported (relisted.listSupplementary "app.d"))
    decide +kernel

end Stacked

/-- The two places list different candidates, and a load of either one gives the three layers. -/
theorem SourceReader.load_independent_of_listing_stacked :
    Stacked.store.listSupplementary "app.d" ≠ Stacked.relisted.listSupplementary "app.d" ∧
      ((Store.reader Stacked.store).loadAt (.name Stacked.primary.source) "app.d").result = .ok Stacked.loaded ∧
      ((Store.reader Stacked.relisted).loadAt (.name Stacked.primary.source) "app.d").result =
        .ok Stacked.loaded := by
  obtain ⟨hsame, -⟩ := SourceReader.load_independent_of_listing Stacked.alike
  exact ⟨by decide +kernel, Stacked.loads, hsame.symm.trans Stacked.loads⟩

end LayeredConfig
