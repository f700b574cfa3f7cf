import LayeredConfig.Proofs.Json.Reader
import LayeredConfig.Proofs.Load.Parsed
import LayeredConfig.Proofs.Source.Leaves

/-!
# Documents have distinct names

No text is twice among the names of a map that was read (**`Source.distinct_document`**). An object of a JSON text is an
ordered map, and keeps the first place and the last value of a name. The maps of a YAML text are built entry by entry,
all of them in one state, and the invariant of that state is that it holds for those built so far (`Builder.Sound`).

Leaves with distinct paths have distinct keys where no name has a dot, so such a source has one entry for each leaf
(**`Source.size_parse`**).
-/

namespace LayeredConfig

open Value

/-! ## JSON -/

namespace Json

/-- Members are entries whose names are texts. -/
theorem membersToEntries_eq (members : List (Text × Json)) :
    membersToEntries members = members.map fun e => (.text e.1, e.2.toValue) := by
  induction members with
  | nil => rfl
  | cons e rest ih => rw [membersToEntries, ih, List.map_cons]

/-- What is no object has no names to speak of. -/
theorem eachMap_of_not_object {p : List Atom → Prop} {j : Json} (h : ∀ members, j ≠ .object members) :
    j.toValue.EachMap p := by
  cases j with
  | object members => exact absurd rfl (h members)
  | list items => exact .list
  | _ => exact .atom

/-- An object that keeps one member of each name. -/
theorem distinct_ofMap {members : List (Text × Json)} (h : ∀ e ∈ members, e.2.toValue.EachMap Distinct) :
    (ofMap (.ofList members)).toValue.EachMap Distinct := by
  have hkept : ∀ e ∈ (OrderedMap.ofList members).entries, e ∈ members := by
    intro e he
    have hget := OrderedMap.get?_eq_some_iff.mpr he
    rw [OrderedMap.ofList, OrderedMap.get?_putAll, OrderedMap.get?_empty, Option.or_none] at hget
    obtain ⟨before, after, heq, -⟩ := List.lookup_eq_some_iff.mp hget
    rw [← List.mem_reverse, heq]
    simp
  show (map (membersToEntries (OrderedMap.ofList members).entries)).EachMap Distinct
  rw [membersToEntries_eq]
  refine .map ?_ ?_
  · have hnames := distinct_map_text _ (OrderedMap.ofList members).nodup
    rwa [List.map_map] at hnames ⊢
  · intro e he
    obtain ⟨e', he', rfl⟩ := List.mem_map.mp he
    exact h e' (hkept e' he')

/-- What a reader of a value gives at this depth, and at the one below for the members of an object. -/
theorem distinct_readValue (fuel : Nat) :
    (∀ {c c' : Cursor} {j : Json}, readValue fuel c = .ok (j, c') → j.toValue.EachMap Distinct) ∧
      ∀ {c c' : Cursor} {members : List (Text × Json)}, readMembers fuel c = .ok (members, c') →
        ∀ e ∈ members, e.2.toValue.EachMap Distinct := by
  induction fuel with
  | zero => exact ⟨fun h => (nomatch h), fun h => (nomatch h)⟩
  | succ fuel ih =>
    obtain ⟨ihValue, ihMembers⟩ := ih
    constructor
    · intro c c' j h
      rw [readValue] at h
      -- a text, an object, an array, and what has no mark in front
      split at h
      · obtain ⟨answer, -, heq⟩ := Run.except_map_eq_ok.mp h
        cases heq
        exact .atom
      split at h
      · simp only at h
        split at h
        · cases h
          exact .map .nil fun e he => absurd he List.not_mem_nil
        · obtain ⟨⟨members, c₁⟩, hmembers, heq⟩ := Run.except_map_eq_ok.mp h
          cases heq
          exact distinct_ofMap (ihMembers hmembers)
      split at h
      · simp only at h
        split at h
        · cases h
          exact .list
        · obtain ⟨answer, -, heq⟩ := Run.except_map_eq_ok.mp h
          cases heq
          exact .list
      · exact eachMap_of_not_object (readScalar_eq_ok h).2
    · intro c c' members h
      rw [readMembers] at h
      split at h
      · cases h
      obtain ⟨⟨name, c₁⟩, -, h⟩ := Run.except_bind_eq_ok.mp h
      simp only at h
      split at h
      · cases h
      obtain ⟨⟨value, c₂⟩, hvalue, h⟩ := Run.except_bind_eq_ok.mp h
      simp only at h
      split at h
      · cases h
        exact List.forall_mem_singleton.mpr (ihValue hvalue)
      -- more members only stand behind a comma
      split at h
      · obtain ⟨⟨more, c₃⟩, hmore, heq⟩ := Run.except_bind_eq_ok.mp h
        cases heq
        exact List.forall_mem_cons.mpr ⟨ihValue hvalue, ihMembers hmore⟩
      · cases h

/-- The objects of a JSON text have distinct names. -/
theorem distinct_read {t : Text} {j : Json} (h : read t = .ok j) : j.toValue.EachMap Distinct := by
  obtain ⟨fuel, c, hvalue, -⟩ := read_eq_ok h
  exact (distinct_readValue fuel).1 hvalue

end Json

/-! ## YAML -/

namespace Yaml

/-- The names of what is built of a map. -/
def namesOf (entries : List ((Atom × Option Nat) × Built)) : List Atom :=
  entries.map fun e => e.1.1

namespace Builder

/-- No text is twice among the names of a map built so far. -/
def Sound (s : Builder) : Prop :=
  ∀ entries, Collection.map entries ∈ s.collections → Distinct (namesOf entries)

/-- The invariant is about what is built, and about nothing else in the state. -/
theorem Sound.congr {s s' : Builder} (h : s.Sound) (heq : s'.collections = s.collections) : s'.Sound := by
  unfold Sound
  rwa [heq]

/-- Putting an entry adds no name but its own. -/
theorem mem_namesOf_putEntry {key : Atom × Option Nat} {value : Built} {entries : List ((Atom × Option Nat) × Built)}
    {name : Atom} (h : name ∈ namesOf (putEntry key value entries)) : name = key.1 ∨ name ∈ namesOf entries := by
  induction entries with
  | nil => simpa [putEntry, namesOf] using h
  | cons e rest ih =>
    rw [putEntry] at h
    split at h
    · exact .inr h
    · rcases List.mem_cons.mp h with h | h
      · exact .inr (h ▸ List.mem_cons_self)
      · exact (ih h).imp_right (List.mem_cons_of_mem _)

/-- An entry takes the place of the one with the same name. -/
theorem distinct_putEntry {key : Atom × Option Nat} {value : Built} {entries : List ((Atom × Option Nat) × Built)}
    (h : Distinct (namesOf entries)) : Distinct (namesOf (putEntry key value entries)) := by
  induction entries with
  | nil => exact List.pairwise_singleton _ _
  | cons e rest ih =>
    obtain ⟨hfirst, hrest⟩ := List.pairwise_cons.mp h
    rw [putEntry]
    split
    · exact h
    · rename_i hother
      refine List.pairwise_cons.mpr ⟨fun name hname t ht => ?_, ih hrest⟩
      rcases mem_namesOf_putEntry hname with rfl | hname
      · -- equal texts are one key
        intro hkey
        refine hother ?_
        have ht : e.1.1 = .text t := ht
        rw [isSameKey, ht, hkey]
        simp [Atom.sameKey]
      · exact hfirst name hname t ht

/-! Merging changes nodes only. -/

theorem collections_flattenFrom (fuel : Nat) :
    (∀ {number index : Nat} {merged : List (Nat × Nat)} {s s' : Builder},
      flattenFrom fuel number index merged s = .ok s' → s'.collections = s.collections) ∧
    ∀ {parts : List Nat} {s s' : Builder} {groups : List (List (Nat × Nat))},
      flattenAll fuel parts s = .ok (groups, s') → s'.collections = s.collections := by
  induction fuel with
  | zero => exact ⟨fun h => (nomatch h), fun h => (nomatch h)⟩
  | succ fuel ih =>
    obtain ⟨ihFrom, ihAll⟩ := ih
    constructor
    · intro number index merged s s' h
      rw [flattenFrom] at h
      simp only at h
      split at h
      · cases h
        split
        · rfl
        · rfl
      -- a merge key names one mapping or several; a default key becomes a text; other keys stay
      split at h
      · split at h
        · obtain ⟨s₁, hvalue, h⟩ := Run.except_bind_eq_ok.mp h
          rw [ihFrom h, ihFrom hvalue]
          rfl
        · obtain ⟨⟨groups, s₁⟩, hparts, h⟩ := Run.except_bind_eq_ok.mp h
          rw [ihFrom h, ihAll hparts]
          rfl
        · cases h
      · rw [ihFrom h]
      · exact ihFrom h
    · intro parts s s' groups h
      cases parts with
      | nil =>
        cases h
        rfl
      | cons part rest =>
        rw [flattenAll] at h
        split at h
        · obtain ⟨s₁, hpart, h⟩ := Run.except_bind_eq_ok.mp h
          obtain ⟨⟨more, s₂⟩, hrest, heq⟩ := Run.except_bind_eq_ok.mp h
          cases heq
          rw [ihAll hrest, ihFrom hpart]
        · cases h

/-- Merging the pairs of a mapping builds nothing. -/
theorem collections_mergedPairs {s s' : Builder} {number : Nat} {pairs : List (Nat × Nat)}
    (h : s.mergedPairs number = .ok (pairs, s')) : s'.collections = s.collections := by
  rw [mergedPairs] at h
  split at h
  · cases h
  · obtain ⟨s₁, hflatten, heq⟩ := Run.except_bind_eq_ok.mp h
    cases heq
    exact (collections_flattenFrom _).1 hflatten

/-! What each step of building does to the invariant. -/

variable {s s' : Builder}

/-- A collection is added. -/
theorem Sound.push (h : s.Sound) {c : Collection} (hc : ∀ entries, c = .map entries → Distinct (namesOf entries)) :
    ({ s with collections := s.collections.push c } : Builder).Sound := by
  intro entries hentries
  rcases Array.mem_push.mp hentries with hold | hnew
  · exact h entries hold
  · exact hc entries hnew.symm

/-- A collection is added that is to be filled later. -/
theorem Sound.postpone (h : s.Sound) (number : Nat) (tag : Tag) {c : Collection}
    (hc : ∀ entries, c = .map entries → Distinct (namesOf entries)) : (s.postpone number tag c).2.Sound :=
  (h.push hc).congr rfl

/-- A collection is filled. -/
theorem Sound.fillWith (h : s.Sound) (number : Nat) {c : Collection}
    (hc : ∀ entries, c = .map entries → Distinct (namesOf entries)) : (s.fillWith number c).Sound := by
  intro entries hentries
  rcases Array.mem_or_eq_of_mem_setIfInBounds hentries with hold | hnew
  · exact h entries hold
  · exact hc entries hnew.symm

/-- A scalar is no collection. -/
theorem collections_buildAtom {number : Nat} {tag : Tag} {b : Built} (h : s.buildAtom number tag = .ok (b, s')) :
    s'.collections = s.collections := by
  obtain ⟨text, -, h⟩ := Run.except_bind_eq_ok.mp h
  split at h
  · cases h
  · obtain ⟨a, -, heq⟩ := Run.except_bind_eq_ok.mp h
    cases heq
    rfl

/-- A node is built. A mapping starts empty, and is filled when its turn comes. -/
theorem Sound.build (h : s.Sound) {number : Nat} {b : Built} (hb : s.build number = .ok (b, s')) : s'.Sound := by
  rw [Builder.build] at hb
  -- what was built before is not built again
  split at hb
  · cases hb
    exact h
  simp only at hb
  split at hb
  · cases hb
    exact h.postpone _ _ fun entries hc => (nomatch hc)
  · cases hb
    refine h.postpone _ _ fun entries hc => ?_
    cases hc
    exact .nil
  · cases hb
    exact h.postpone _ _ fun entries hc => (nomatch hc)
  · cases hb
    exact h.postpone _ _ fun entries hc => (nomatch hc)
  · cases hb
    exact h.postpone _ _ fun entries hc => (nomatch hc)
  · cases hb
  · cases hb
  · cases hb
  · exact h.congr (collections_buildAtom hb)

/-- The items of a sequence are built. -/
theorem Sound.buildAll {numbers : List Nat} :
    ∀ {s s' : Builder} {bs : List Built}, s.Sound → Builder.buildAll numbers s = .ok (bs, s') → s'.Sound := by
  induction numbers with
  | nil =>
    intro s s' bs h hb
    cases hb
    exact h
  | cons number rest ih =>
    intro s s' bs h hb
    obtain ⟨⟨b, s₁⟩, hfirst, hb⟩ := Run.except_bind_eq_ok.mp hb
    obtain ⟨⟨more, s₂⟩, hrest, heq⟩ := Run.except_bind_eq_ok.mp hb
    cases heq
    exact ih (h.build hfirst) hrest

/-- The pairs of an ordered map or of pairs are built. -/
theorem Sound.buildPairs {parts : List Nat} :
    ∀ {s s' : Builder}, s.Sound → Builder.buildPairs parts s = .ok s' → s'.Sound := by
  induction parts with
  | nil =>
    intro s s' h hb
    cases hb
    exact h
  | cons part rest ih =>
    intro s s' h hb
    rw [Builder.buildPairs] at hb
    split at hb
    · obtain ⟨⟨b, s₁⟩, hkey, hb⟩ := Run.except_bind_eq_ok.mp hb
      obtain ⟨⟨b', s₂⟩, hvalue, hb⟩ := Run.except_bind_eq_ok.mp hb
      exact ih ((h.build hkey).build hvalue) hb
    · cases hb

/-- The entries of a mapping, behind those that are there. -/
theorem Sound.buildEntries {pairs : List (Nat × Nat)} :
    ∀ {s s' : Builder} {entries entries' : List ((Atom × Option Nat) × Built)}, s.Sound → Distinct (namesOf entries) →
      Builder.buildEntries pairs entries s = .ok (entries', s') → s'.Sound ∧ Distinct (namesOf entries') := by
  induction pairs with
  | nil =>
    intro s s' entries entries' h hentries hb
    cases hb
    exact ⟨h, hentries⟩
  | cons pair rest ih =>
    intro s s' entries entries' h hentries hb
    obtain ⟨⟨k, s₁⟩, hkey, hb⟩ := Run.except_bind_eq_ok.mp hb
    cases k with
    | collection number => cases hb
    | atom a origin =>
      obtain ⟨⟨v, s₂⟩, hvalue, hb⟩ := Run.except_bind_eq_ok.mp hb
      exact ih ((h.build hkey).build hvalue) (distinct_putEntry hentries) hb

/-- What was postponed is filled, and only a mapping becomes a map. -/
theorem Sound.fill (h : s.Sound) {p : Pending} (hb : s.fill p = .ok s') : s'.Sound := by
  rw [Builder.fill] at hb
  -- a sequence, the two kinds of pairs, and then mappings and sets
  split at hb
  · split at hb
    · obtain ⟨⟨bs, s₁⟩, hitems, heq⟩ := Run.except_bind_eq_ok.mp hb
      cases heq
      exact (h.buildAll hitems).fillWith _ fun entries hc => (nomatch hc)
    · cases hb
  · split at hb
    · obtain ⟨s₁, hpairs, heq⟩ := Run.except_bind_eq_ok.mp hb
      cases heq
      exact (h.buildPairs hpairs).fillWith _ fun entries hc => (nomatch hc)
    · cases hb
  · split at hb
    · obtain ⟨s₁, hpairs, heq⟩ := Run.except_bind_eq_ok.mp hb
      cases heq
      exact (h.buildPairs hpairs).fillWith _ fun entries hc => (nomatch hc)
    · cases hb
  · obtain ⟨⟨pairs, s₁⟩, hmerged, hb⟩ := Run.except_bind_eq_ok.mp hb
    obtain ⟨⟨entries, s₂⟩, hentries, heq⟩ := Run.except_bind_eq_ok.mp hb
    cases heq
    have hempty : Distinct (namesOf []) := .nil
    obtain ⟨hsound, hdistinct⟩ := (h.congr (collections_mergedPairs hmerged)).buildEntries hempty hentries
    refine hsound.fillWith _ fun entries' hc => ?_
    split at hc
    · cases hc
    · cases hc
      exact hdistinct

/-- All that was postponed at one level is filled. -/
theorem Sound.fillAll {pending : List Pending} :
    ∀ {s s' : Builder}, s.Sound → Builder.fillAll pending s = .ok s' → s'.Sound := by
  induction pending with
  | nil =>
    intro s s' h hb
    cases hb
    exact h
  | cons p rest ih =>
    intro s s' h hb
    obtain ⟨s₁, hfirst, hb⟩ := Run.except_bind_eq_ok.mp hb
    exact ih (h.fill hfirst) hb

/-- What is postponed is filled level by level. -/
theorem Sound.fillLevels {fuel : Nat} :
    ∀ {s s' : Builder}, s.Sound → s.fillLevels fuel = .ok s' → s'.Sound := by
  induction fuel with
  | zero =>
    intro s s' h hb
    cases hb
    exact h
  | succ fuel ih =>
    intro s s' h hb
    rw [Builder.fillLevels] at hb
    split at hb
    · cases hb
      exact h
    · obtain ⟨s₁, hlevel, hb⟩ := Run.except_bind_eq_ok.mp hb
      have hstart : ({ s with pending := [] } : Builder).Sound := h.congr rfl
      exact ih (hstart.fillAll hlevel) hb

/-- An item is no map with names in it. -/
theorem eachMap_itemValue (s : Builder) (b : Built) : (s.itemValue b).EachMap Distinct := by
  cases b with
  | atom a origin => exact .atom
  | collection number =>
    rw [itemValue]
    split
    · exact .list
    · exact .list
    · exact .map .nil fun e he => absurd he List.not_mem_nil
    · exact .set

/-- What is made of the state has distinct names in each map, since all its maps are in the state. -/
theorem Sound.value (h : s.Sound) (fuel : Nat) : ∀ b, (s.value fuel b).EachMap Distinct := by
  induction fuel with
  | zero =>
    intro b
    cases b with
    | atom a origin => exact .atom
    | collection number => exact eachMap_itemValue s _
  | succ fuel ih =>
    intro b
    cases b with
    | atom a origin => exact .atom
    | collection number =>
      rw [Builder.value]
      split
      · exact .list
      · rename_i entries hcollection
        have hmem : Collection.map entries ∈ s.collections := by
          rw [Array.getD_eq_getD_getElem?] at hcollection
          cases hat : s.collections[number]? with
          | none =>
            rw [hat] at hcollection
            cases hcollection
          | some c =>
            rw [hat] at hcollection
            exact hcollection ▸ Array.mem_of_getElem? hat
        -- a map has the names that it has in the state, whatever is made of its values
        refine .map ?_ fun e he => ?_
        · have hnames := h entries hmem
          rwa [List.map_map]
        · obtain ⟨e', -, rfl⟩ := List.mem_map.mp he
          exact ih e'.2
      · exact .set
      · exact .list

end Builder

/-- A graph is built from a state with nothing in it. -/
theorem Graph.distinct_value {g : Graph} {v : Value} (h : g.value = .ok v) : v.EachMap Distinct := by
  obtain ⟨⟨root, s⟩, hroot, h⟩ := Run.except_bind_eq_ok.mp h
  obtain ⟨s', hlevels, heq⟩ := Run.except_bind_eq_ok.mp h
  cases heq
  have hstart : (⟨g.nodes, Array.replicate g.nodes.size none, #[], []⟩ : Builder).Sound := by
    intro entries hentries
    simp at hentries
  exact ((hstart.build hroot).fillLevels hlevels).value _ root

/-- The maps of a YAML text have distinct names. -/
theorem distinct_read {t : Text} {v : Value} (h : read t = .ok (some v)) : v.EachMap Distinct := by
  obtain ⟨g?, -, h⟩ := Run.except_bind_eq_ok.mp h
  cases g? with
  | none => cases h
  | some g =>
    obtain ⟨v', hvalue, heq⟩ := Run.except_bind_eq_ok.mp h
    cases heq
    exact g.distinct_value hvalue

end Yaml

/-! ## Documents -/

namespace Source

variable {identifier text : Text} {data : List UInt8} {v : Value} {entries : List (Atom × Value)}

/-- **The maps of a document have distinct names**, in both formats. -/
theorem distinct_document (h : document identifier text = .ok (some v)) : v.EachMap Distinct := by
  rw [document] at h
  split at h
  · rw [readYaml] at h
    split at h
    · rename_i hread
      cases h
      exact Yaml.distinct_read hread
    · cases h
    · cases h
  · rw [readJson] at h
    split at h
    · cases h
    split at h
    · rename_i hread
      cases h
      exact Json.distinct_read hread
    · cases h
    · cases h
  · cases h
  · cases h

/-- A source with a document is read as what that holds, strictly or not: it has a format. -/
theorem parse_of_document (hdecode : Utf8.decode data = .ok text) (h : document identifier text = .ok (some v))
    (strict : Bool) : parse identifier data strict = ofValue identifier (some v) := by
  rw [document] at h
  cases hformat : Format.of? identifier with
  | none =>
    rw [hformat] at h
    cases h
  | some format =>
    rw [hformat] at h
    have hnone : (strict && (some format).isNone) = false := Bool.and_false strict
    simp only [parse, hformat, hnone, Bool.false_eq_true, if_false, hdecode]
    cases format with
    | properties => cases h
    | yaml =>
      have hread : readYaml identifier text = .ok (some v) := h
      simp only [hread]
      rfl
    | json =>
      have hread : readJson identifier text = .ok (some v) := h
      simp only [hread]
      rfl

/-- **A source has one entry for each leaf** of its document if no name in that has a dot. That the names of each map
are distinct need not be asked for, as the maps were read. -/
theorem size_parse (hdecode : Utf8.decode data = .ok text)
    (h : document identifier text = .ok (some (.map entries))) (hshort : (map entries).Short)
    (hdots : (map entries).EachMap Dotless) {strict : Bool} {m : OrderedMap RawValue}
    (hparse : parse identifier data strict = .ok m) : m.size = (leaves entries).length := by
  rw [parse_of_document hdecode h] at hparse
  rw [ofValue_eq_ok hshort hparse]
  exact size_written (distinct_document h) hdots

end Source

end LayeredConfig
