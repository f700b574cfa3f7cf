import LayeredConfig.Proofs.Load.LastWins
import Mathlib.Data.List.Chain

/-!
# The audit of a load

Every definition of a key but its first one is an override, and all overrides of a load are on record. As with the
values, the layers tell the record without running a merge:

* **`Layer.overrides_stackOn`** — the overrides of a stack are those of each layer over the ones below
  (`Layer.audit`), in the order of its keys.
* **`Layer.length_audit`** — each definition of a key either is its first one or is on record.
* **`Layer.leads_or_nil`** — the records of one key lead from one of its definitions to the last one.
* **`SourceReader.override_audit`** — all of that for a load, and that it warns of each override once, in order.
-/

namespace LayeredConfig

/-- The records lead from one entry of a key to another one: each one replaces what the one before it left. -/
inductive Override.Leads : Entry → List Override → Entry → Prop where
  | nil (e : Entry) : Leads e [] e
  | cons {e e' : Entry} {o : Override} {os : List Override} (hold : e = ⟨o.existing, o.previousSource⟩)
      (hrest : Leads ⟨o.incoming, some o.source⟩ os e') : Leads e (o :: os) e'

namespace Override.Leads

variable {e e' : Entry} {os : List Override}

/-- Neighbours among such records are linked. -/
theorem isChain (h : Leads e os e') :
    os.IsChain fun a b => b.existing = a.incoming ∧ b.previousSource = some a.source := by
  induction h with
  | nil e => exact .nil
  | cons _ hrest ih =>
    cases hrest with
    | nil => exact .singleton _
    | cons hold _ =>
      have hlink := Entry.mk.inj hold
      exact .cons_cons ⟨hlink.1.symm, hlink.2.symm⟩ ih

/-- They lead to what the last of them says. -/
theorem eq_of_getLast? {o : Override} (h : Leads e os e') (hlast : os.getLast? = some o) :
    e' = ⟨o.incoming, some o.source⟩ := by
  induction h with
  | nil e => cases hlast
  | cons _ hrest ih =>
    cases hrest with
    | nil =>
      cases hlast
      rfl
    | cons =>
      rw [List.getLast?_cons_cons] at hlast
      exact ih hlast

end Override.Leads

namespace Layer

variable {earlier layers : List Layer} {l : Layer} {key : Text}

/-! ## The records of a layer -/

/-- The record of a key of a layer, if an earlier layer defines the key. -/
def record? (earlier : List Layer) (l : Layer) (key : Text) : Option Override :=
  (l.values.get? key).bind fun value =>
    (latest? earlier key).map fun old => ⟨key, value, old.value, l.source, old.source⟩

/-- The records of a layer over earlier ones, in the order of its keys. -/
def records (earlier : List Layer) (l : Layer) : List Override :=
  l.values.keys.filterMap (record? earlier l)

/-- The records of layers over earlier ones, each layer over all before it. -/
def audit (earlier : List Layer) : List Layer → List Override
  | [] => []
  | l :: rest => records earlier l ++ audit (earlier ++ [l]) rest

/-- What a merge finds there already is what the earlier layers say. -/
theorem overridesOf_stack (earlier : List Layer) (l : Layer) :
    (stack earlier).overridesOf l.source l.values.entries = records earlier l := by
  rw [Namespace.overridesOf, records, OrderedMap.keys, List.filterMap_map]
  refine List.filterMap_congr fun e he => ?_
  have hvalue : l.values.get? e.1 = some e.2 := OrderedMap.get?_eq_some_iff.mpr he
  show (stack earlier).override? e.1 e.2 l.source = record? earlier l e.1
  rw [Namespace.override?, get?_stack, record?, hvalue]
  rfl

/-- One more layer adds its records at the end. -/
theorem overrides_onto (earlier : List Layer) (l : Layer) :
    (onto (stack earlier) l).overrides = (stack earlier).overrides ++ records earlier l := by
  rw [← overridesOf_stack]
  rfl

/-- **The overrides of a stack**, layer by layer. -/
theorem overrides_stackOn (earlier layers : List Layer) :
    (stackOn (stack earlier) layers).overrides = (stack earlier).overrides ++ audit earlier layers := by
  induction layers generalizing earlier with
  | nil => exact (List.append_nil _).symm
  | cons l rest ih =>
    rw [stackOn_cons, ← stack_concat, ih, stack_concat, overrides_onto, audit, List.append_assoc]

/-- The first layer finds nothing below it, so it has no records. -/
theorem audit_nil_cons (primary : Layer) (rest : List Layer) : audit [] (primary :: rest) = audit [primary] rest := by
  have hnone : records [] primary = [] := by
    rw [records, List.filterMap_eq_nil_iff]
    intro key _
    cases hvalue : primary.values.get? key <;> simp [record?, hvalue]
  rw [audit, hnone, List.nil_append, List.nil_append]

/-! ## How many records there are -/

/-- A key of a layer is on record exactly if it was there before. -/
theorem isSome_record? (hkey : key ∈ l.values.keys) :
    (record? earlier l key).isSome = (stack earlier).entries.keys.contains key := by
  obtain ⟨value, hvalue⟩ := Option.isSome_iff_exists.mp (OrderedMap.isSome_get?_iff.mpr hkey)
  have hthere : (latest? earlier key).isSome = (stack earlier).entries.keys.contains key := by
    rw [Bool.eq_iff_iff, ← get?_stack, OrderedMap.isSome_get?_iff, List.contains_iff_mem]
  rw [record?, hvalue, ← hthere]
  exact Option.isSome_map

/-- A definition of a key either is the first one, and then makes the namespace larger, or is on record. -/
theorem length_records (earlier : List Layer) (l : Layer) :
    (records earlier l).length + (onto (stack earlier) l).size = (stack earlier).size + l.values.keys.length := by
  have hrecords : (records earlier l).length = l.values.keys.countP (stack earlier).entries.keys.contains := by
    rw [records, List.length_filterMap_eq_countP]
    exact List.countP_congr fun key hkey => by rw [isSome_record? hkey]
  have hkeys : (onto (stack earlier) l).entries.keys =
      (stack earlier).entries.keys ++ l.values.keys.removeAll (stack earlier).entries.keys := by
    have hnodup : (l.values.keys.removeAll (stack earlier).entries.keys).Nodup :=
      l.values.nodup_keys.sublist List.filter_sublist
    rw [onto, Namespace.keys_overlay, List.eraseDups_append,
      Entries.eraseDups_of_nodup (stack earlier).entries.nodup_keys, Entries.eraseDups_of_nodup hnodup]
  have hsize : ∀ ns : Namespace, ns.size = ns.entries.keys.length := fun ns => by
    rw [OrderedMap.keys, List.length_map]
    rfl
  have hnew : (l.values.keys.removeAll (stack earlier).entries.keys).length =
      l.values.keys.countP fun key => !(stack earlier).entries.keys.contains key := by
    rw [List.countP_eq_length_filter]
    rfl
  -- the keys of the layer are those that are there already and those that are new
  have hsplit := List.length_eq_countP_add_countP (stack earlier).entries.keys.contains (l := l.values.keys)
  rw [hrecords, hsize, hsize, hkeys, List.length_append, hnew, hsplit]
  simp only [Bool.not_eq_true, Bool.decide_eq_false]
  omega

/-- **How many records there are**: as many as definitions of keys that are not the first one. -/
theorem length_audit (earlier layers : List Layer) :
    (audit earlier layers).length + (stackOn (stack earlier) layers).size =
      (stack earlier).size + (layers.flatMap fun l => l.values.keys).length := by
  induction layers generalizing earlier with
  | nil => exact Nat.zero_add _
  | cons l rest ih =>
    have hlayer := length_records earlier l
    have hrest := ih (earlier ++ [l])
    rw [stack_concat] at hrest
    rw [audit, stackOn_cons, List.length_append, List.flatMap_cons, List.length_append]
    omega

/-! ## The records of one key -/

/-- A record is about the key it was made for. -/
theorem key_of_record? {o : Override} (h : record? earlier l key = some o) : o.key = key := by
  obtain ⟨value, -, hold⟩ := Option.bind_eq_some_iff.mp h
  obtain ⟨old, -, rfl⟩ := Option.map_eq_some_iff.mp hold
  rfl

/-- A key that the layer does not define is not on record. -/
theorem record?_eq_none (h : l.values.get? key = none) : record? earlier l key = none := by
  rw [record?, h]
  rfl

/-- A layer has one record of a key at most, since its keys are distinct. -/
theorem filter_records (earlier : List Layer) (l : Layer) (key : Text) :
    (records earlier l).filter (fun o => o.key = key) = (record? earlier l key).toList := by
  -- for any distinct keys, since the induction goes over parts of those of the layer
  have hfilter : ∀ ks : List Text, ks.Nodup →
      (ks.filterMap (record? earlier l)).filter (fun o => o.key = key) =
        if key ∈ ks then (record? earlier l key).toList else [] := by
    intro ks hnodup
    induction ks with
    | nil => rfl
    | cons k ks ih =>
      obtain ⟨hk, hks⟩ := List.nodup_cons.mp hnodup
      have hrest := ih hks
      cases hrecord : record? earlier l k with
      | none =>
        rw [List.filterMap_cons_none hrecord, hrest]
        by_cases hkey : key = k
        · subst hkey
          rw [if_neg hk, if_pos List.mem_cons_self, hrecord]
          rfl
        · simp [hkey]
      | some o =>
        have ho : o.key = k := key_of_record? hrecord
        rw [List.filterMap_cons_some hrecord, List.filter_cons, hrest, ho]
        by_cases hkey : key = k
        · subst hkey
          simp [hk, hrecord]
        · simp [hkey, Ne.symm hkey]
  rw [records, hfilter _ l.values.nodup_keys]
  by_cases hkey : key ∈ l.values.keys
  · rw [if_pos hkey]
  · rw [if_neg hkey, record?_eq_none (OrderedMap.get?_eq_none_iff.mpr hkey)]
    rfl

/-- From a definition in earlier layers on, the records of a key lead to its last definition. -/
theorem leads_audit {e : Entry} (h : latest? earlier key = some e) :
    ∃ e', latest? (earlier ++ layers) key = some e' ∧
      Override.Leads e ((audit earlier layers).filter fun o => o.key = key) e' := by
  induction layers generalizing earlier e with
  | nil => exact ⟨e, by rwa [List.append_nil], .nil e⟩
  | cons l rest ih =>
    rw [audit, List.filter_append, filter_records, List.append_cons]
    cases hvalue : l.values.get? key with
    | none =>
      have hlater : latest? (earlier ++ [l]) key = some e := by
        rw [latest?_concat, lookup?, hvalue]
        exact h
      rw [record?_eq_none hvalue]
      exact ih hlater
    -- a definition again: the record leads from the old entry to what this layer says
    | some value =>
      have hlater : latest? (earlier ++ [l]) key = some ⟨value, some l.source⟩ := by
        rw [latest?_concat, lookup?, hvalue]
        rfl
      have hrecord : record? earlier l key = some ⟨key, value, e.value, l.source, e.source⟩ := by
        rw [record?, hvalue, h]
        rfl
      obtain ⟨e', hlast, hleads⟩ := ih hlater
      rw [hrecord]
      exact ⟨e', hlast, .cons rfl hleads⟩

/-- **The records of a key**: none if it is not defined at all, and else they lead from some definition to the
last one. -/
theorem leads_or_nil (earlier layers : List Layer) (key : Text) :
    (audit earlier layers).filter (fun o => o.key = key) = [] ∨
      ∃ e e', latest? (earlier ++ layers) key = some e' ∧
        Override.Leads e ((audit earlier layers).filter fun o => o.key = key) e' := by
  induction layers generalizing earlier with
  | nil => exact .inl rfl
  | cons l rest ih =>
    cases hearlier : latest? earlier key with
    -- defined already: from here on the records lead
    | some e => exact .inr ⟨e, leads_audit hearlier⟩
    | none =>
      -- the first definition of a key, or none: this layer has no record of it
      have hrecord : record? earlier l key = none := by
        cases hvalue : l.values.get? key with
        | none => exact record?_eq_none hvalue
        | some value =>
          rw [record?, hvalue, hearlier]
          rfl
      rw [audit, List.filter_append, filter_records, hrecord, List.append_cons earlier l rest]
      exact ih (earlier ++ [l])

end Layer

/-! ## What is warned of -/

namespace Run

variable {α : Type}

/-- The warnings among what a run reports, in order. -/
def warnings (r : Run α) : List Log.Record :=
  (r.notices.map Log.Notice.record).filter fun record => record.level = .warning

/-- Warnings come in the order of what is done. -/
theorem warnings_append (acts acts' : List Act) (result : Except Failure α) :
    (Run.mk (acts ++ acts') result).warnings = (Run.mk acts result).warnings ++ (Run.mk acts' result).warnings := by
  rw [warnings, notices_append, List.map_append, List.filter_append]
  rfl

end Run

namespace Layer

variable {α : Type} (result : Except Failure α)

/-- Each override is reported by a warning of its own. -/
theorem warnings_overridden (os : List Override) :
    (Run.mk (os.map fun o => .report (.overridden o)) result).warnings =
      os.map fun o => (Log.Notice.overridden o).record := by
  have hnotices : (Run.mk (os.map fun o => Act.report (.overridden o)) result).notices = os.map .overridden := by
    rw [← Run.notices_map_report (os.map .overridden) result, List.map_map]
    rfl
  have hall : (os.map fun o => (Log.Notice.overridden o).record).filter (fun record => record.level = .warning) =
      os.map fun o => (Log.Notice.overridden o).record := by
    refine List.filter_eq_self.mpr fun record hrecord => ?_
    obtain ⟨o, -, rfl⟩ := List.mem_map.mp hrecord
    rfl
  rw [Run.warnings, hnotices, List.map_map]
  exact hall

/-- Merging layers warns of each override once, in order. -/
theorem warnings_stackActs (earlier layers : List Layer) :
    (Run.mk (stackActs (stack earlier) layers) result).warnings =
      (audit earlier layers).map fun o => (Log.Notice.overridden o).record := by
  induction layers generalizing earlier with
  | nil => rfl
  | cons l rest ih =>
    have hlayer : (Run.mk (l.actsOnto (stack earlier)) result).warnings =
        (records earlier l).map fun o => (Log.Notice.overridden o).record := by
      rw [actsOnto, Run.warnings_append, overridesOf_stack, warnings_overridden]
      rfl
    rw [stackActs, Run.warnings_append, hlayer, ← stack_concat, ih, audit, List.map_append]

/-- Candidates in no known format are reported, but not warned of. -/
theorem warnings_ignored (candidates : List Text) :
    (Run.mk ((Supplementary.ignored candidates).map .report) result).warnings = [] := by
  rw [Run.warnings, Run.notices_map_report, List.filter_eq_nil_iff]
  intro record hrecord
  obtain ⟨notice, hnotice, rfl⟩ := List.mem_map.mp hrecord
  obtain ⟨candidate, -, rfl⟩ := List.mem_map.mp hnotice
  have hlevel : Log.Level.debug ≠ Log.Level.warning := by decide
  rw [decide_eq_true_iff]
  exact hlevel

/-- A load warns of what the listing of the directory warns of, and then of each override. -/
theorem warnings_loadActs {listing : List Act} {candidates : List Text} {primary : Layer} {rest : List Layer}
    {fingerprint : Text} :
    (Run.mk (SourceReader.loadActs listing candidates primary rest fingerprint) result).warnings =
      (Run.mk listing result).warnings ++
        (audit [primary] rest).map fun o => (Log.Notice.overridden o).record := by
  have hfirst : (Run.mk [Act.report (.loading primary.source), .read primary.source] result).warnings = [] := rfl
  have hlast : (Run.mk [Act.report (.loaded (stack (primary :: rest)).size rest.length
      (stack (primary :: rest)).overrides.length fingerprint)] result).warnings = [] := rfl
  simp only [SourceReader.loadActs, Run.warnings_append, warnings_ignored, warnings_stackActs, hfirst, hlast,
    List.nil_append, List.append_nil]

end Layer

/-! ## Every load -/

/-- **The audit of a load.** The overrides on record are those of each supplementary layer over all layers below
it, and there are as many as definitions of keys that are not the first one. The records of one key are linked, and
the last one carries its final value and source. The load warns of each override once, in the same order, besides
what the listing of the directory may warn of. -/
theorem SourceReader.override_audit {r : SourceReader} {start : Start} {directory : Text} {loaded : Loaded}
    (h : (r.loadAt start directory).result = .ok loaded) :
    ∃ primary rest, r.Reads start directory loaded.location primary rest ∧
      loaded.namespace_.overrides = Layer.audit [primary] rest ∧
      loaded.namespace_.overrides.length + loaded.namespace_.size =
        ((primary :: rest).flatMap fun l => l.values.keys).length ∧
      (∀ key, (loaded.namespace_.overrides.filter fun o => o.key = key).IsChain fun a b =>
        b.existing = a.incoming ∧ b.previousSource = some a.source) ∧
      (∀ key o, (loaded.namespace_.overrides.filter fun o => o.key = key).getLast? = some o →
        loaded.namespace_.get? key = some o.incoming ∧ loaded.namespace_.sourceOf key = some o.source) ∧
      (r.loadAt start directory).warnings.map Log.Record.context =
        (r.listSupplementary directory).warnings.map Log.Record.context ++
          loaded.namespace_.overrides.map fun o =>
            [(Log.Notice.keyField, .text o.key), (Log.Notice.sourceField, .text o.source),
              (Log.Notice.previousSourceField, Log.Notice.optional o.previousSource)] := by
  obtain ⟨listing, candidates, primary, rest, fingerprint, hlist, hreads, hstack, -, hacts⟩ := exists_layers h
  have haudit : loaded.namespace_.overrides = Layer.audit [primary] rest := by
    rw [hstack, ← Layer.audit_nil_cons]
    exact Layer.overrides_stackOn [] (primary :: rest)
  refine ⟨primary, rest, hreads, haudit, ?count, fun key => ?chain, fun key o hlast => ?last, ?warnings⟩
  case count =>
    rw [haudit, hstack, ← Layer.audit_nil_cons]
    exact (Layer.length_audit [] (primary :: rest)).trans (Nat.zero_add _)
  case chain =>
    rw [haudit]
    -- no records are a chain, and records that lead from one entry to another are linked
    rcases Layer.leads_or_nil [primary] rest key with hnil | ⟨e, e', -, hleads⟩
    · rw [hnil]
      exact .nil
    · exact hleads.isChain
  case last =>
    rw [haudit] at hlast
    rcases Layer.leads_or_nil [primary] rest key with hnil | ⟨e, e', hstored, hleads⟩
    · rw [hnil] at hlast
      cases hlast
    · obtain rfl := hleads.eq_of_getLast? hlast
      have hget : loaded.namespace_.entries.get? key = some ⟨o.incoming, some o.source⟩ := by
        rw [hstack, Layer.get?_stack]
        exact hstored
      constructor
      · rw [Namespace.get?, hget]
        rfl
      · rw [Namespace.sourceOf, hget]
        rfl
  case warnings =>
    have hwarnings : (r.loadAt start directory).warnings =
        (r.listSupplementary directory).warnings ++
          loaded.namespace_.overrides.map fun o => (Log.Notice.overridden o).record := by
      rw [haudit, hlist, Run.warnings, Run.notices, hacts]
      exact Layer.warnings_loadActs (.ok candidates)
    rw [hwarnings, List.map_append, List.map_map]
    rfl

theorem SourceReader.override_audit_stacked :
    ∃ loaded, ((Store.reader Stacked.store).loadAt (.name Stacked.primary.source) "app.d").result = .ok loaded ∧
      ∃ primary rest, (Store.reader Stacked.store).Reads (.name Stacked.primary.source) "app.d" loaded.location
          primary rest ∧
        loaded.namespace_.overrides = Layer.audit [primary] rest ∧
        loaded.namespace_.overrides.length + loaded.namespace_.size =
          ((primary :: rest).flatMap fun l => l.values.keys).length := by
  obtain ⟨primary, rest, hreads, haudit, hcount, -⟩ := SourceReader.override_audit Stacked.loads
  exact ⟨Stacked.loaded, Stacked.loads, primary, rest, hreads, haudit, hcount⟩

example : Stacked.loaded.namespace_.overrides =
    [⟨"b", .text "2", .text "1", "app.d/10.properties", some "app.properties"⟩,
      ⟨"b", .text "3", .text "2", "app.d/20.properties", some "app.d/10.properties"⟩] := by decide

end LayeredConfig
