import LayeredConfig.Proofs.Session
import LayeredConfig.Proofs.Text.Trim
import LayeredConfig.Proofs.View.Table
import LayeredConfig.Store.Memory

/-!
# What is set behind a prefix is shown behind it

Properties are set behind a prefix as it is given, but a view leaves out the dots at the end of its prefix. So the
view shows what was set behind those dots, and under its own keys only if there are none.

* **`View.takes_of_holds`** — changes of a namespace as a view sees them.
* **`Configuration.takes_of_setProperties`** — the same of properties that were set and saved.
* **`Configuration.not_shown`** — with a dot at its end, the prefix shows something else than what was set.
-/

namespace LayeredConfig

namespace View

/-- The changes are in the view, each key behind some dots, and nothing else is new. -/
structure Takes (v : View) (ns ns' : Namespace) (dots : Text) (changes : OrderedMap Value) : Prop where
  changed : ∀ key value, changes.get? key = some value →
    ∃ raw : RawValue, value = raw.toValue ∧ (Scope.view v).get? ns' (dots ++ key) = some raw
  kept : ∀ k, (∀ key ∈ changes.keys, k ≠ dots ++ key) → (Scope.view v).get? ns' k = (Scope.view v).get? ns k
  keys : v.keys ns' = v.keys ns ++ (changes.keys.map (dots ++ ·)).filter (· ∉ v.keys ns)

/-- What a view leaves out of a prefix. -/
def dots (n : Nat) : Text :=
  List.replicate n '.'

variable {v : View} {ns ns' : Namespace} {location lead : Text} {changes : OrderedMap Value} {n : Nat}

/-! ## Dots at the end of a prefix -/

/-- A prefix is what is trimmed of it, and then dots. -/
theorem exists_dots (lead : Text) : ∃ n, lead = trimDots lead ++ dots n := by
  obtain ⟨ending, hsplit, hdots⟩ := Text.exists_ending (· = CodePoint.ofChar '.') lead
  have hending : ending = dots ending.length :=
    List.eq_replicate_iff.mpr ⟨rfl, fun c hc => of_decide_eq_true (hdots c hc)⟩
  exact ⟨ending.length, by rw [← hending]; exact hsplit⟩

/-- A view that was made knows its prefix without the dots at the end. -/
theorem subset_eq_ok (h : Scope.whole.subset lead = .ok v) : lead ≠ [] ∧ ∃ n, lead = v.lead ++ dots n := by
  have hof : View.of lead = .ok v := h
  rw [View.of] at hof
  by_cases haccepts : accepts lead
  · rw [if_pos haccepts] at hof
    obtain rfl := Except.ok.inj hof
    refine ⟨fun hnil => ?_, exists_dots lead⟩
    rw [hnil] at haccepts
    cases haccepts
  · rw [if_neg haccepts] at hof
    cases hof

/-- The dots may stand on either side of the one that ends the prefix. -/
theorem qualify_dots (hlead : lead ≠ []) (hn : lead = v.lead ++ dots n) (key : Text) :
    Text.qualify (some lead) key = v.qualify (dots n ++ key) := by
  have hcomm : dots n ++ "." = "." ++ dots n := by
    show dots n ++ dots 1 = dots 1 ++ dots n
    simp only [dots, List.replicate_append_replicate, Nat.add_comm]
  have hqualify : Text.qualify (some lead) key = lead ++ "." ++ key := by
    cases lead with
    | nil => exact absurd rfl hlead
    | cons c cs => rfl
  calc Text.qualify (some lead) key
      = v.lead ++ (dots n ++ ".") ++ key := by rw [hqualify, hn, List.append_assoc v.lead]
    _ = v.qualify (dots n ++ key) := by
      rw [hcomm, View.qualify, View.head]
      simp only [List.append_assoc]

/-! ## Changes in a view -/

/-- New keys of the namespace are new in the view. -/
theorem filterMap_key?_new (ns : Namespace) {ks : List Text} (hks : ∀ k ∈ ks, k ≠ []) :
    ((ks.map v.qualify).filter (· ∉ ns.keys)).filterMap v.key? = ks.filter (· ∉ v.keys ns) := by
  induction ks with
  | nil => rfl
  | cons k rest ih =>
    obtain ⟨hk, hrest⟩ := List.forall_mem_cons.mp hks
    have hkey : v.key? (v.qualify k) = some k := key?_eq_some_iff.mpr ⟨hk, rfl⟩
    have hmem : k ∈ v.keys ns ↔ v.qualify k ∈ ns.keys := mem_keys_iff hk ns
    have hnew := ih hrest
    simp only [decide_not] at hnew ⊢
    by_cases hold : v.qualify k ∈ ns.keys
    · simp [hold, hmem, hnew]
    · simp [hold, hmem, hkey, hnew]

/-- **Changes behind a prefix**, as the view behind it sees them. -/
theorem takes_of_holds (hlead : lead ≠ []) (hn : lead = v.lead ++ dots n) (hkeys : ∀ key ∈ changes.keys, key ≠ [])
    (h : ns.Holds ns' location (some lead) changes) : v.Takes ns ns' (dots n) changes := by
  have hqualify := qualify_dots (v := v) hlead hn
  refine ⟨fun key value hvalue => ?_, fun k hk => ?_, ?_⟩
  · obtain ⟨raw, hraw, hget⟩ := h.changed key value hvalue
    refine ⟨raw, hraw, ?_⟩
    rw [hqualify] at hget
    rw [Scope.get?, Scope.qualify, Namespace.get?, hget]
    rfl
  · -- another key of the view is another key of the namespace
    have hother : ∀ key ∈ changes.keys, v.qualify k ≠ Text.qualify (some lead) key := by
      intro key hkey heq
      rw [hqualify] at heq
      exact hk key hkey (v.qualify_injective heq)
    rw [Scope.get?, Scope.get?, Scope.qualify, Namespace.get?, Namespace.get?, h.kept _ hother]
  · -- the new keys, seen through the view, are those behind the dots
    have hnew : changes.keys.map (Text.qualify (some lead)) = (changes.keys.map (dots n ++ ·)).map v.qualify := by
      rw [List.map_map]
      exact List.map_congr_left fun key _ => hqualify key
    have hne : ∀ k ∈ changes.keys.map (dots n ++ ·), k ≠ [] := by
      intro k hk
      obtain ⟨key, hkey, rfl⟩ := List.mem_map.mp hk
      exact List.append_ne_nil_of_right_ne_nil _ (hkeys key hkey)
    rw [View.keys, h.keys, List.filterMap_append, hnew, filterMap_key?_new ns hne]
    rfl

end View

namespace Configuration

variable {τ : Type} [Store τ] {c : Configuration} {store : τ} {l : Loaded} {changes : OrderedMap Value}

/-- Properties that were set and saved are in the namespace. -/
theorem holds_of_setProperties {lead : Option Text} (hl : (c.load (Store.reader store)).2.result = .ok l)
    (hset : (c.setProperties store lead changes).2.result = .ok ()) :
    ∃ ns, (c.setProperties store lead changes).1.1.phase = .loaded { l with namespace_ := ns } ∧
      l.namespace_.Holds ns l.location lead changes := by
  obtain ⟨ns, hadmits, rfl, -, hleft⟩ := saved_of_setProperties hl hset
  refine ⟨_, ?_, Namespace.holds_changed hadmits l.namespace_ l.location⟩
  rw [hleft]
  exact phase_withNamespace (phase_load hl) _

/-- **Properties set behind a prefix** are what the view behind it shows: behind the dots that the view leaves out of
the prefix, so under their own keys if there are none. -/
theorem takes_of_setProperties {lead : Text} {v : View} (hl : (c.load (Store.reader store)).2.result = .ok l)
    (hv : Scope.whole.subset lead = .ok v) (hkeys : ∀ key ∈ changes.keys, key ≠ [])
    (hset : (c.setProperties store (some lead) changes).2.result = .ok ()) :
    ∃ n ns, lead = v.lead ++ View.dots n ∧ (lead.getLast? ≠ some (.ofChar '.') → n = 0) ∧
      (c.setProperties store (some lead) changes).1.1.phase = .loaded { l with namespace_ := ns } ∧
      v.Takes l.namespace_ ns (View.dots n) changes := by
  obtain ⟨hlead, n, hn⟩ := View.subset_eq_ok hv
  obtain ⟨ns, hphase, hholds⟩ := holds_of_setProperties hl hset
  refine ⟨n, ns, hn, fun hlast => ?_, hphase, View.takes_of_holds hlead hn hkeys hholds⟩
  -- a dot to leave out would be the last of the prefix
  cases n with
  | zero => rfl
  | succ n =>
    refine absurd ?_ hlast
    rw [hn, View.dots, List.replicate_succ', ← List.append_assoc, List.getLast?_concat]

end Configuration

/-! A key behind a prefix, to be set again. -/

namespace Prefixed

def loaded : Loaded :=
  ⟨⟨.ofList [("src.url", ⟨.text "x", some "lsc.properties"⟩)], []⟩, "lsc.properties", []⟩

def configuration : Configuration :=
  ⟨"lsc.properties", "lsc.d", .loaded loaded⟩

def store : MemoryStore :=
  ⟨.empty, [], none⟩

def changes : OrderedMap Value :=
  .ofList [("url", .text "y")]

end Prefixed

open Prefixed in
theorem Configuration.takes_of_setProperties_prefixed :
    ∃ ns, (configuration.setProperties store (some "src") changes).1.1.phase =
        .loaded { loaded with namespace_ := ns } ∧
      (View.mk "src").Takes loaded.namespace_ ns [] changes := by
  have hkeys : ∀ key ∈ changes.keys, key ≠ [] := by decide +kernel
  have hset : (configuration.setProperties store (some "src") changes).2.result = .ok () := by decide +kernel
  obtain ⟨n, ns, -, hn, hphase, htakes⟩ :=
    Configuration.takes_of_setProperties (l := loaded) (v := ⟨"src"⟩) rfl (by decide +kernel) hkeys hset
  obtain rfl := hn (by decide +kernel)
  exact ⟨ns, hphase, htakes⟩

open Prefixed in
/-- **A dot at the end of the prefix** is tolerated by the view, but stands in the key that is set. So the view shows
the value of before. -/
theorem Configuration.not_shown :
    Scope.whole.subset "src." = .ok ⟨"src"⟩ ∧ changes.get? "url" = some (.text "y") ∧
      (configuration.setProperties store (some "src.") changes).2.result = .ok () ∧
      (configuration.setProperties store (some "src.") changes).1.1.loaded?.map
        (fun l => (Scope.view ⟨"src"⟩).get? l.namespace_ "url") = some (some (.text "x")) :=
  ⟨by decide +kernel, rfl, by decide +kernel, by decide +kernel⟩

end LayeredConfig
