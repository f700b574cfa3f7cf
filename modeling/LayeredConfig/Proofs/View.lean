import LayeredConfig.DirectorySettings
import LayeredConfig.Proofs.Namespace.Merge
import Mathlib.Data.List.Forall2
import Mathlib.Data.List.Nodup
import Mathlib.Data.List.TakeWhile

/-!
# Views are namespaces of their own

A view holds no values, yet it cannot be told from a namespace that holds what the view shows. Both are given the
same requests; a request may go through views within views. The namespace behind the view and the one of its own
are kept in step by `View.Mirrors`: what the first one stores at keys that the view shows is, without the prefix,
what the second one stores, in the same order.

* **`Behind`** relates the scope in which a request ends on either side. It is all that nesting amounts to:
  `Behind.descend` follows a path of prefixes.
* **`Mirrors.get?`**, **`Mirrors.keys`** — both sides read the same. Every answer is made of these two.
* **`Mirrors.put`** — a write keeps them in step, and what the view does not show stays as it is.
* **`Behind.access`** is the step and **`View.faithful`** the run.
-/

namespace LayeredConfig

/-! ## Requests -/

namespace Scope

/-- The number of keys. -/
def length (s : Scope) (ns : Namespace) : Nat :=
  match s with
  | .whole => ns.size
  | .view v => (v.keys ns).length

def isEmpty (s : Scope) (ns : Namespace) : Bool :=
  match s with
  | .whole => ns.keys.isEmpty
  | .view v => v.isEmpty ns

def toList (s : Scope) (ns : Namespace) : List (Text × Option Text) :=
  match s with
  | .whole => ns.keys.map fun key => (key, ns.text? key)
  | .view v => v.toList ns

/-- What is asked of a scope. The keys are also what one iterates over. -/
inductive Access
  | get (key : Text)
  | getString (key : Text) (default : Option Text)
  | getInt (key : Text) (default : Int)
  | getWords (key : Text)
  | contains (key : Text)
  | containsValue (key : Value)
  | keys
  | length
  | isEmpty
  | toList
  | settings
  | set (key : Text) (value : Value) (source : Option Text)

inductive Answer
  | value (v : Option RawValue)
  | text (t : Option Text)
  | int (n : Except Failure Int)
  | texts (ts : List Text)
  | truth (b : Bool)
  | number (n : Nat)
  | table (entries : List (Text × Option Text))
  | settings (d : Except Failure DirectorySettings)
  | done (result : Except Failure Unit)
  deriving DecidableEq

def access (s : Scope) (ns : Namespace) : Access → Namespace × Answer
  | .get key => (ns, .value (s.get? ns key))
  | .getString key default => (ns, .text (s.getString ns key default))
  | .getInt key default => (ns, .int (s.getInt ns key default))
  | .getWords key => (ns, .texts (s.getWords ns key))
  | .contains key => (ns, .truth (s.contains ns key))
  | .containsValue key => (ns, .truth (s.containsValue ns key))
  | .keys => (ns, .texts (s.keys ns))
  | .length => (ns, .number (s.length ns))
  | .isEmpty => (ns, .truth (s.isEmpty ns))
  | .toList => (ns, .table (s.toList ns))
  | .settings => (ns, .settings (DirectorySettings.of s ns))
  | .set key value source =>
    match s.set ns key value source with
    | .ok ns => (ns, .done (.ok ()))
    | .error e => (ns, .done (.error e))

/-- An access through views within views. -/
structure Request where
  /-- The prefixes of these views, the outermost one first. -/
  path : List Text
  access : Access

def request (s : Scope) (ns : Namespace) (r : Request) : Namespace × Except Failure Answer :=
  match s.descend (r.path.map Value.text) with
  | .ok t => ((t.access ns r.access).1, .ok (t.access ns r.access).2)
  | .error e => (ns, .error e)

def requests (s : Scope) : Namespace → List Request → Namespace × List (Except Failure Answer)
  | ns, [] => (ns, [])
  | ns, r :: rest =>
    ((s.requests (s.request ns r).1 rest).1, (s.request ns r).2 :: (s.requests (s.request ns r).1 rest).2)

/-- The key that an access names is not empty. -/
def Access.Named : Access → Prop
  | .get key | .getString key _ | .getInt key _ | .getWords key | .contains key | .set key _ _ => key ≠ []
  | .containsValue key => key.text? ≠ some []
  | .keys | .length | .isEmpty | .toList | .settings => True

/-- Every prefix is one that is accepted, and the key is not empty. -/
def Request.Admissible (r : Request) : Prop :=
  (∀ lead ∈ r.path, View.accepts lead = true) ∧ r.access.Named

/-- Two requests are answered, and answered alike. A value that cannot be set is refused under the key as each
side has it. -/
inductive Agrees : Except Failure Answer → Except Failure Answer → Prop where
  | same (a : Answer) : Agrees (.ok a) (.ok a)
  | misfit (key key' kind : Text) : Agrees (.ok (.done (.error (.misfit (.set key kind)))))
      (.ok (.done (.error (.misfit (.set key' kind)))))

end Scope

/-! ## What a view shows -/

namespace View

/-- The keys that start with what stands before each key of the view, and go on. -/
def shows (v : View) (key : Text) : Bool :=
  decide (v.head <+: key ∧ key ≠ v.head)

/-- The namespace `own` holds what the view shows of `ns`. -/
def Mirrors (v : View) (ns own : Namespace) : Prop :=
  own.snapshot.entries.map (fun e => (v.qualify e.1, e.2)) = ns.snapshot.entries.filter fun e => v.shows e.1

/-- What the view does not show, with its sources. -/
def hidden (v : View) (ns : Namespace) : List (Text × Entry) :=
  ns.entries.entries.filter fun e => !v.shows e.1

/-- What requests leave of `ns` and of a namespace of its own. -/
structure InStep (v : View) (ns ns' own' : Namespace) : Prop where
  mirrors : v.Mirrors ns' own'
  hidden : v.hidden ns' = v.hidden ns
  overrides : ns'.overrides = ns.overrides

/-- Two runs one after the other. -/
theorem InStep.trans {v : View} {ns ns' own' ns'' own'' : Namespace} (h : v.InStep ns ns' own')
    (h' : v.InStep ns' ns'' own'') : v.InStep ns ns'' own'' :=
  ⟨h'.mirrors, h'.hidden.trans h.hidden, h'.overrides.trans h.overrides⟩

end View

/-! ## Prefixes -/

namespace Text

/-- What stands after a prefix, if the text has it. -/
theorem after?_eq_some_iff {head t rest : Text} : after? head t = some rest ↔ t = head ++ rest := by
  induction head generalizing t with
  | nil => exact ⟨fun h => Option.some.inj h, fun h => congrArg some h⟩
  | cons c head ih =>
    cases t with
    | nil => simp [after?]
    | cons d t =>
      by_cases hc : c = d
      · simp [after?, hc, ih]
      · have hd : d ≠ c := fun h => hc h.symm
        simp [after?, hc, hd]

end Text

namespace View

variable {v w w' : View} {ns own : Namespace} {key k : Text}

/-- Different keys of a view are different keys of the namespace. -/
theorem qualify_injective (v : View) : Function.Injective v.qualify := fun _ _ h => List.append_cancel_left h

/-- No key of the namespace that a view asks for is empty. -/
theorem qualify_ne_nil (v : View) (key : Text) : v.qualify key ≠ [] := by
  unfold qualify head
  simp [Text.ofString]

/-- A view shows exactly the keys of the namespace that are keys of its own, and not empty ones. -/
theorem shows_iff : v.shows key = true ↔ ∃ k, k ≠ [] ∧ key = v.qualify k := by
  unfold shows
  rw [decide_eq_true_iff]
  constructor
  · rintro ⟨⟨k, rfl⟩, hne⟩
    exact ⟨k, fun h => hne (by rw [h, List.append_nil]), rfl⟩
  · rintro ⟨k, hk, rfl⟩
    exact ⟨⟨k, rfl⟩, fun h => hk (List.append_right_eq_self.mp h)⟩

theorem shows_qualify (hk : k ≠ []) : v.shows (v.qualify k) = true := shows_iff.mpr ⟨k, hk, rfl⟩

/-- The key of the view is what stands behind the prefix. -/
theorem key?_eq_some_iff : v.key? key = some k ↔ k ≠ [] ∧ key = v.qualify k := by
  unfold key? qualify
  rw [← Text.after?_eq_some_iff]
  cases h : Text.after? v.head key with
  | none => simp
  | some rest =>
    cases rest with
    | nil =>
      simp only [reduceCtorEq, Option.some.injEq, false_iff, not_and]
      exact fun hk hnil => hk hnil.symm
    | cons c rest =>
      simp only [Option.some.injEq]
      constructor
      · rintro rfl
        exact ⟨List.cons_ne_nil c rest, rfl⟩
      · exact fun h => h.2

/-- What is not shown has no key in the view. -/
theorem key?_eq_none (h : v.shows key = false) : v.key? key = none := by
  cases hkey : v.key? key with
  | none => rfl
  | some k =>
    obtain ⟨hk, rfl⟩ := key?_eq_some_iff.mp hkey
    rw [shows_qualify hk] at h
    cases h

/-- A key of a view within a view is qualified in two steps. -/
theorem qualify_of_head (h : w'.head = v.head ++ w.head) (key : Text) :
    w'.qualify key = v.qualify (w.qualify key) := by
  unfold qualify
  rw [h, List.append_assoc]

/-- A key of a view within a view is found in two steps. -/
theorem key?_of_head (h : w'.head = v.head ++ w.head) (key : Text) : w'.key? key = (v.key? key).bind w.key? := by
  refine Option.ext fun k => ?_
  rw [key?_eq_some_iff, Option.bind_eq_some_iff, qualify_of_head h]
  constructor
  · rintro ⟨hk, rfl⟩
    exact ⟨_, key?_eq_some_iff.mpr ⟨w.qualify_ne_nil k, rfl⟩, key?_eq_some_iff.mpr ⟨hk, rfl⟩⟩
  · rintro ⟨_, hv, hw⟩
    obtain ⟨-, rfl⟩ := key?_eq_some_iff.mp hv
    obtain ⟨hk, rfl⟩ := key?_eq_some_iff.mp hw
    exact ⟨hk, rfl⟩

/-! ## In step -/

/-- The other side has no empty key. -/
theorem Mirrors.keys_ne_nil (h : v.Mirrors ns own) : ∀ key ∈ own.keys, key ≠ [] := by
  intro key hkey
  rw [← Namespace.snapshot_keys] at hkey
  obtain ⟨e, he, rfl⟩ := List.mem_map.mp hkey
  have hmem : (v.qualify e.1, e.2) ∈ ns.snapshot.entries.filter fun e => v.shows e.1 := by
    rw [← h]
    exact List.mem_map_of_mem he
  obtain ⟨k, hk, heq⟩ := shows_iff.mp (List.mem_filter.mp hmem).2
  rw [v.qualify_injective heq]
  exact hk

/-- Both sides store the same value at a key. -/
theorem Mirrors.get? (h : v.Mirrors ns own) (hk : k ≠ []) : ns.get? (v.qualify k) = own.get? k := by
  refine Option.ext fun value => ?_
  rw [← Namespace.snapshot_get?, ← Namespace.snapshot_get?, OrderedMap.get?_eq_some_iff, OrderedMap.get?_eq_some_iff]
  have hshown : (v.qualify k, value) ∈ ns.snapshot.entries ↔
      (v.qualify k, value) ∈ ns.snapshot.entries.filter fun e => v.shows e.1 := by
    rw [List.mem_filter, shows_qualify hk, and_iff_left rfl]
  rw [hshown, ← h, List.mem_map]
  constructor
  · rintro ⟨⟨k', value'⟩, he, heq⟩
    obtain ⟨hkey, rfl⟩ := Prod.mk.inj heq
    rwa [← v.qualify_injective hkey]
  · exact fun he => ⟨(k, value), he, rfl⟩

/-- The view shows the keys of the other side, in their order. -/
theorem Mirrors.keys (h : v.Mirrors ns own) : v.keys ns = own.keys := by
  have hshown : ns.keys.filter v.shows = own.keys.map v.qualify := by
    rw [← Namespace.snapshot_keys, ← Namespace.snapshot_keys, OrderedMap.keys, OrderedMap.keys, List.map_map,
      List.filter_map]
    have hfst := congrArg (List.map Prod.fst) h
    rw [List.map_map] at hfst
    exact hfst.symm
  have hhidden : ns.keys.filterMap v.key? = (ns.keys.filter v.shows).filterMap v.key? := by
    rw [List.filterMap_filter]
    refine List.filterMap_congr fun key _ => ?_
    cases hkey : v.shows key with
    | false => exact key?_eq_none hkey
    | true => rfl
  have hback : ∀ key ∈ own.keys, (v.key? ∘ v.qualify) key = some key := fun key hkey =>
    key?_eq_some_iff.mpr ⟨h.keys_ne_nil key hkey, rfl⟩
  rw [View.keys, hhidden, hshown, List.filterMap_map, List.filterMap_congr hback, List.filterMap_some]

/-- **A write keeps both sides in step**, and reaches nothing that the view does not show. -/
theorem Mirrors.put (h : v.Mirrors ns own) (hk : k ≠ []) (value : RawValue) (source : Option Text) :
    v.Mirrors (ns.put (v.qualify k) value source) (own.put k value source) ∧
      v.hidden (ns.put (v.qualify k) value source) = v.hidden ns := by
  constructor
  · unfold Mirrors
    rw [Namespace.snapshot_put, Namespace.snapshot_put]
    show (Entries.put k value own.snapshot.entries).map (fun e => (v.qualify e.1, id e.2)) =
      (Entries.put (v.qualify k) value ns.snapshot.entries).filter fun e => v.shows e.1
    rw [Entries.put_map v.qualify_injective, Entries.filter_put_of_pos (shows_qualify hk)]
    exact congrArg (Entries.put (v.qualify k) value) h
  · have hshown : (!v.shows (v.qualify k)) = false := by rw [shows_qualify hk, Bool.not_true]
    exact @Entries.filter_put_of_neg Entry (fun key => !v.shows key) _ hshown _ _

/-- The entries of a namespace that a view shows. -/
def shownEntries (v : View) (ns : Namespace) : List (Text × RawValue) :=
  ns.snapshot.entries.filter fun e => v.shows e.1

/-- An entry under its key in the view, without its source. -/
def stripped (v : View) (e : Text × RawValue) : Text × Entry :=
  (e.1.drop v.head.length, ⟨e.2, none⟩)

/-- Behind the prefix again, the key is the one of before. -/
theorem qualify_stripped {e : Text × RawValue} (he : v.shows e.1 = true) : v.qualify (v.stripped e).1 = e.1 := by
  obtain ⟨k, -, hkey⟩ := shows_iff.mp he
  have hdrop : e.1.drop v.head.length = k := by
    rw [hkey]
    exact List.drop_left
  show v.qualify (e.1.drop v.head.length) = e.1
  rw [hdrop, ← hkey]

/-- Behind the prefix again, the entries are those that are shown. -/
theorem map_qualify_stripped (v : View) (ns : Namespace) :
    ((v.shownEntries ns).map v.stripped).map (fun e => (v.qualify e.1, e.2.value)) = v.shownEntries ns := by
  have hback : ∀ e ∈ v.shownEntries ns, (v.qualify (v.stripped e).1, (v.stripped e).2.value) = e := fun e he =>
    Prod.ext (qualify_stripped (List.mem_filter.mp he).2) rfl
  rw [List.map_map]
  exact (List.map_congr_left hback).trans (List.map_id _)

/-- What a view shows, as a namespace of its own. -/
def separate (v : View) (ns : Namespace) : Namespace where
  entries.entries := (v.shownEntries ns).map v.stripped
  entries.nodup := by
    -- keys that differ behind the prefix differ without it
    have hshown : ((v.shownEntries ns).map Prod.fst).Nodup :=
      ns.snapshot.nodup.sublist (List.filter_sublist.map Prod.fst)
    rw [← map_qualify_stripped, List.map_map] at hshown
    refine List.Nodup.of_map v.qualify ?_
    rw [List.map_map]
    exact hshown
  overrides := []

/-- There is a namespace that holds what a view shows. -/
theorem mirrors_separate (v : View) (ns : Namespace) : v.Mirrors ns (v.separate ns) := by
  show (((v.shownEntries ns).map v.stripped).map fun e => (e.1, e.2.value)).map (fun e => (v.qualify e.1, e.2)) =
    v.shownEntries ns
  rw [List.map_map]
  exact v.map_qualify_stripped ns

end View

/-! ## Views within views -/

namespace View

variable {lead : Text}

/-- Whatever stands before a prefix that is accepted. -/
theorem accepts_append (before : Text) (h : accepts lead = true) : accepts (before ++ lead) = true := by
  unfold accepts at h ⊢
  rw [List.any_append, h, Bool.or_true]

/-- What makes a prefix acceptable is not trimmed. -/
theorem accepts_trimDots (h : accepts lead = true) : accepts (trimDots lead) = true := by
  unfold accepts at h ⊢
  obtain ⟨c, hmem, hc⟩ := List.any_eq_true.mp h
  have hdot : ¬ decide (c = '.') = true := by
    intro hdot
    rw [of_decide_eq_true hdot] at hc
    exact absurd hc (by decide)
  refine List.any_eq_true.mpr ⟨c, ?_, hc⟩
  unfold trimDots Text.dropEndWhile
  rw [List.mem_reverse]
  have hsplit := List.takeWhile_append_dropWhile (p := fun d => decide (d = CodePoint.ofChar '.')) (l := lead.reverse)
  have hboth := List.mem_reverse.mpr hmem
  rw [← hsplit] at hboth
  rcases List.mem_append.mp hboth with htake | hdrop
  · exact absurd (List.mem_takeWhile_imp htake) hdot
  · exact hdrop

/-- A text that ends in a trimmed one is trimmed. -/
theorem trimDots_append (before : Text) (h : accepts lead = true) :
    trimDots (before ++ trimDots lead) = before ++ trimDots lead := by
  have hne : trimDots lead ≠ [] := by
    intro hnil
    have haccepts := accepts_trimDots h
    rw [hnil] at haccepts
    cases haccepts
  unfold trimDots Text.dropEndWhile at hne ⊢
  rw [List.reverse_append, List.reverse_reverse]
  cases hdrop : lead.reverse.dropWhile fun d => decide (d = CodePoint.ofChar '.') with
  | nil => exact absurd (congrArg List.reverse hdrop) hne
  | cons c rest =>
    have hc : decide (c = CodePoint.ofChar '.') = false := by
      have hsome : lead.reverse.dropWhile (fun d => decide (d = CodePoint.ofChar '.')) ≠ [] := by
        rw [hdrop]
        exact List.cons_ne_nil c rest
      have hhead := List.head_dropWhile_not (fun d => decide (d = CodePoint.ofChar '.')) hsome
      simpa only [hdrop, List.head_cons] using hhead
    rw [List.cons_append, List.dropWhile_cons, hc, if_neg (by decide)]
    simp

/-- The view within a view, behind a prefix that is accepted. -/
theorem within_eq (v : View) (h : accepts lead = true) : v.within lead = .ok ⟨v.qualify (trimDots lead)⟩ := by
  have haccepts : accepts (v.qualify (trimDots lead)) = true := accepts_append v.head (accepts_trimDots h)
  have htrim : trimDots (v.qualify (trimDots lead)) = v.qualify (trimDots lead) := trimDots_append v.head h
  rw [within, View.of, if_pos haccepts, htrim]

end View

namespace Scope

theorem qualify_ne_nil (s : Scope) {key : Text} (h : key ≠ []) : s.qualify key ≠ [] := by
  cases s with
  | whole => exact h
  | view w => exact w.qualify_ne_nil key

theorem toList_eq (s : Scope) (m : Namespace) :
    s.toList m = (s.keys m).map fun key => (key, m.text? (s.qualify key)) := by
  cases s with
  | whole => rfl
  | view w => rfl

theorem length_eq (s : Scope) (m : Namespace) : s.length m = (s.keys m).length := by
  cases s with
  | whole => exact (List.length_map Prod.fst).symm
  | view w => rfl

theorem isEmpty_eq (s : Scope) (m : Namespace) : s.isEmpty m = (s.keys m).isEmpty := by
  cases s with
  | whole => rfl
  | view w => rfl

theorem contains_eq (s : Scope) (m : Namespace) (key : Text) : s.contains m key = (s.get? m key).isSome := by
  unfold contains get? Namespace.contains Namespace.get? OrderedMap.contains
  rw [Option.isSome_map]

/-- A raw value is put at the qualified key. -/
theorem access_set_of_some (s : Scope) (m : Namespace) {key : Text} (hkey : key ≠ []) {value : Value} {raw : RawValue}
    (hraw : RawValue.ofValue? value = some raw) (source : Option Text) :
    s.access m (.set key value source) = (m.put (s.qualify key) raw source, .done (.ok ())) := by
  have hset : s.set m key value source = .ok (m.put (s.qualify key) raw source) :=
    m.set_of_some (s.qualify_ne_nil hkey) hraw source
  simp only [access, hset]

/-- Any other value is refused, under the qualified key. -/
theorem access_set_of_none (s : Scope) (m : Namespace) {key : Text} (hkey : key ≠ []) {value : Value}
    (hraw : RawValue.ofValue? value = none) (source : Option Text) :
    s.access m (.set key value source) = (m, .done (.error (.misfit (.set (s.qualify key) value.kind)))) := by
  have hset : s.set m key value source = .error (.misfit (.set (s.qualify key) value.kind)) :=
    m.set_of_none (s.qualify_ne_nil hkey) hraw source
  simp only [access, hset]

/-- `t` looks at a namespace of its own, `t'` at the namespace in which a view shows it. -/
inductive Behind (v : View) : Scope → Scope → Prop where
  | whole : Behind v .whole (.view v)
  | view {w w' : View} (h : w'.head = v.head ++ w.head) : Behind v (.view w) (.view w')

namespace Behind

variable {v : View} {t t' : Scope} {ns own : Namespace}

/-- The key of the scope behind is found through that of the other one. -/
theorem qualify (h : Behind v t t') (key : Text) : t'.qualify key = v.qualify (t.qualify key) := by
  cases h with
  | whole => rfl
  | view hhead => exact View.qualify_of_head hhead key

/-- The same prefix leads to views that are again one behind the other. -/
theorem subset (h : Behind v t t') {lead : Text} (hlead : View.accepts lead = true) :
    ∃ w w', t.subset lead = .ok w ∧ t'.subset lead = .ok w' ∧ Behind v (.view w) (.view w') := by
  have hwhole : View.of lead = .ok ⟨View.trimDots lead⟩ := by rw [View.of, if_pos hlead]
  cases h with
  | whole => exact ⟨_, _, hwhole, v.within_eq hlead, .view (List.append_assoc _ _ _)⟩
  | @view w w' hhead =>
    refine ⟨_, _, w.within_eq hlead, w'.within_eq hlead, .view ?_⟩
    show w'.head ++ View.trimDots lead ++ "." = v.head ++ (w.head ++ View.trimDots lead ++ ".")
    rw [hhead]
    simp only [List.append_assoc]

/-- The same prefixes lead to scopes that are again one behind the other. -/
theorem descend (h : Behind v t t') {path : List Text} (hpath : ∀ lead ∈ path, View.accepts lead = true) :
    ∃ u u', t.descend (path.map Value.text) = .ok u ∧ t'.descend (path.map Value.text) = .ok u' ∧
      Behind v u u' := by
  induction path generalizing t t' with
  | nil => exact ⟨t, t', rfl, rfl, h⟩
  | cons lead path ih =>
    obtain ⟨hlead, hpath⟩ := List.forall_mem_cons.mp hpath
    obtain ⟨w, w', hw, hw', hbehind⟩ := h.subset hlead
    obtain ⟨u, u', hu, hu', hbehind⟩ := ih hbehind hpath
    refine ⟨u, u', ?_, ?_, hbehind⟩
    · have hat : t.subsetAt (Value.text lead) = .ok w := hw
      rw [List.map_cons, Scope.descend, hat]
      exact hu
    · have hat : t'.subsetAt (Value.text lead) = .ok w' := hw'
      rw [List.map_cons, Scope.descend, hat]
      exact hu'

/-! ## One access -/

/-- Both scopes have the same keys, in the same order. -/
theorem keys (h : Behind v t t') (hm : v.Mirrors ns own) : t'.keys ns = t.keys own := by
  cases h with
  | whole => exact hm.keys
  | @view w w' hhead =>
    show ns.keys.filterMap w'.key? = own.keys.filterMap w.key?
    rw [List.filterMap_congr fun key _ => View.key?_of_head hhead key, ← List.filterMap_filterMap]
    exact congrArg (List.filterMap w.key?) hm.keys

/-- Both scopes have the same value at a key. -/
theorem get? (h : Behind v t t') (hm : v.Mirrors ns own) {key : Text} (hkey : key ≠ []) :
    t'.get? ns key = t.get? own key := by
  unfold Scope.get?
  rw [h.qualify]
  exact hm.get? (qualify_ne_nil t hkey)

theorem text? (h : Behind v t t') (hm : v.Mirrors ns own) {key : Text} (hkey : key ≠ []) :
    ns.text? (t'.qualify key) = own.text? (t.qualify key) :=
  congrArg (Option.map RawValue.decoded) (h.get? hm hkey)

theorem getString (h : Behind v t t') (hm : v.Mirrors ns own) {key : Text} (hkey : key ≠ [])
    (default : Option Text) : t'.getString ns key default = t.getString own key default :=
  congrArg (Option.or · default) (h.text? hm hkey)

theorem getInt (h : Behind v t t') (hm : v.Mirrors ns own) {key : Text} (hkey : key ≠ []) (default : Int) :
    t'.getInt ns key default = t.getInt own key default := by
  unfold Scope.getInt Namespace.getInt Namespace.int?
  rw [h.text? hm hkey]

theorem getWords (h : Behind v t t') (hm : v.Mirrors ns own) {key : Text} (hkey : key ≠ []) :
    t'.getWords ns key = t.getWords own key := by
  unfold Scope.getWords Namespace.getWords
  rw [h.text? hm hkey]

theorem contains (h : Behind v t t') (hm : v.Mirrors ns own) {key : Text} (hkey : key ≠ []) :
    t'.contains ns key = t.contains own key := by
  rw [contains_eq, contains_eq, h.get? hm hkey]

theorem containsValue (h : Behind v t t') (hm : v.Mirrors ns own) {key : Value} (hkey : key.text? ≠ some []) :
    t'.containsValue ns key = t.containsValue own key := by
  unfold Scope.containsValue
  cases htext : key.text? with
  | none => rfl
  | some k => exact h.contains hm fun hk => hkey (by rw [htext, hk])

/-- The keys of a scope are ones that an access may name. -/
theorem keys_ne_nil (hm : v.Mirrors ns own) (t : Scope) : ∀ key ∈ t.keys own, key ≠ [] := by
  cases t with
  | whole => exact hm.keys_ne_nil
  | view w =>
    intro key hkey
    obtain ⟨_, -, hkey⟩ := List.mem_filterMap.mp hkey
    exact (View.key?_eq_some_iff.mp hkey).1

theorem toList (h : Behind v t t') (hm : v.Mirrors ns own) : t'.toList ns = t.toList own := by
  rw [toList_eq, toList_eq, h.keys hm]
  refine List.map_congr_left fun key hkey => ?_
  rw [h.text? hm (keys_ne_nil hm t key hkey)]

theorem length (h : Behind v t t') (hm : v.Mirrors ns own) : t'.length ns = t.length own := by
  rw [length_eq, length_eq, h.keys hm]

theorem isEmpty (h : Behind v t t') (hm : v.Mirrors ns own) : t'.isEmpty ns = t.isEmpty own := by
  rw [isEmpty_eq, isEmpty_eq, h.keys hm]

theorem settings (h : Behind v t t') (hm : v.Mirrors ns own) :
    DirectorySettings.of t' ns = DirectorySettings.of t own := by
  unfold DirectorySettings.of
  simp (disch := decide) only [h.getString hm, h.getInt hm]

/-- Setting a value succeeds on both sides or on none, and keeps them in step. -/
theorem set (h : Behind v t t') (hm : v.Mirrors ns own) {key : Text} (hkey : key ≠ []) (value : Value)
    (source : Option Text) :
    Agrees (.ok (t'.access ns (.set key value source)).2) (.ok (t.access own (.set key value source)).2) ∧
      View.InStep v ns (t'.access ns (.set key value source)).1 (t.access own (.set key value source)).1 := by
  cases hraw : RawValue.ofValue? value with
  | none =>
    rw [access_set_of_none t' ns hkey hraw, access_set_of_none t own hkey hraw]
    exact ⟨.misfit _ _ _, hm, rfl, rfl⟩
  | some raw =>
    rw [access_set_of_some t' ns hkey hraw, access_set_of_some t own hkey hraw, h.qualify]
    obtain ⟨hmirrors, hhidden⟩ := hm.put (qualify_ne_nil t hkey) raw source
    exact ⟨.same _, hmirrors, hhidden, rfl⟩

/-- **One access.** -/
theorem access (h : Behind v t t') (hm : v.Mirrors ns own) {a : Access} (ha : a.Named) :
    Agrees (.ok (t'.access ns a).2) (.ok (t.access own a).2) ∧
      View.InStep v ns (t'.access ns a).1 (t.access own a).1 := by
  -- whatever only reads leaves both sides as they are
  have hread {answer answer' : Answer} (heq : answer' = answer) :
      Agrees (.ok answer') (.ok answer) ∧ View.InStep v ns ns own := by
    rw [heq]
    exact ⟨.same answer, hm, rfl, rfl⟩
  cases a with
  | get key => exact hread (congrArg Answer.value (h.get? hm ha))
  | getString key default => exact hread (congrArg Answer.text (h.getString hm ha default))
  | getInt key default => exact hread (congrArg Answer.int (h.getInt hm ha default))
  | getWords key => exact hread (congrArg Answer.texts (h.getWords hm ha))
  | contains key => exact hread (congrArg Answer.truth (h.contains hm ha))
  | containsValue key => exact hread (congrArg Answer.truth (h.containsValue hm ha))
  | keys => exact hread (congrArg Answer.texts (h.keys hm))
  | length => exact hread (congrArg Answer.number (h.length hm))
  | isEmpty => exact hread (congrArg Answer.truth (h.isEmpty hm))
  | toList => exact hread (congrArg Answer.table (h.toList hm))
  | settings => exact hread (congrArg Answer.settings (h.settings hm))
  | set key value source => exact h.set hm ha value source

/-! ## Runs -/

/-- **One request**, through any views within views. -/
theorem request (h : Behind v t t') (hm : v.Mirrors ns own) {r : Request} (hr : r.Admissible) :
    Agrees (t'.request ns r).2 (t.request own r).2 ∧
      View.InStep v ns (t'.request ns r).1 (t.request own r).1 := by
  obtain ⟨u, u', hu, hu', hbehind⟩ := h.descend hr.1
  unfold Scope.request
  rw [hu, hu']
  exact hbehind.access hm hr.2

/-- **A run.** -/
theorem requests (h : Behind v t t') {rs : List Request} (hrs : ∀ r ∈ rs, r.Admissible) :
    ∀ {ns own : Namespace}, v.Mirrors ns own →
      List.Forall₂ Agrees (t'.requests ns rs).2 (t.requests own rs).2 ∧
        View.InStep v ns (t'.requests ns rs).1 (t.requests own rs).1 := by
  induction rs with
  | nil => exact fun hm => ⟨.nil, hm, rfl, rfl⟩
  | cons r rs ih =>
    intro ns own hm
    obtain ⟨hr, hrs⟩ := List.forall_mem_cons.mp hrs
    obtain ⟨hagrees, hstep⟩ := h.request hm hr
    obtain ⟨hrest, hsteps⟩ := ih hrs hstep.mirrors
    exact ⟨.cons hagrees hrest, hstep.trans hsteps⟩

end Behind

end Scope

/-- **A view is faithful.** Behind any prefix that is accepted, a view answers every run of requests as a namespace
does that holds what the view shows, and the two stay in step. What the view does not show keeps its values, sources
and order, and no override is recorded. -/
theorem View.faithful {lead : Text} {v : View} (hv : Scope.whole.subset lead = .ok v) (ns : Namespace) :
    v.lead = View.trimDots lead ∧ (∃ own, v.Mirrors ns own) ∧
      ∀ own, v.Mirrors ns own → ∀ rs : List Scope.Request, (∀ r ∈ rs, r.Admissible) →
        List.Forall₂ Scope.Agrees ((Scope.view v).requests ns rs).2 (Scope.whole.requests own rs).2 ∧
          v.InStep ns ((Scope.view v).requests ns rs).1 (Scope.whole.requests own rs).1 := by
  have hlead : v.lead = View.trimDots lead := by
    have hof : View.of lead = .ok v := hv
    unfold View.of at hof
    split at hof
    · rw [← Except.ok.inj hof]
    · cases hof
  exact ⟨hlead, ⟨_, v.mirrors_separate ns⟩, fun own hm rs hrs => Scope.Behind.whole.requests hrs hm⟩

/-- The keys of a view among keys that only look like them. -/
def View.siblings : Namespace where
  entries := ⟨[("src.url", ⟨.text "a", none⟩), ("src", ⟨.text "b", none⟩), ("srcx.url", ⟨.text "c", none⟩),
    ("src.", ⟨.text "d", none⟩)], by decide⟩
  overrides := []

/-- A value that cannot be set, a write through a view within the view, and what the view then shows. -/
def View.siblingRequests : List Scope.Request :=
  [⟨[], .set "url" (.list []) none⟩, ⟨["base."], .set "dn" (.text "e") (some "app")⟩, ⟨[], .toList⟩]

theorem View.faithful_beside_siblings :
    Scope.whole.subset "src." = .ok ⟨"src"⟩ ∧
      (∃ own, View.Mirrors ⟨"src"⟩ siblings own ∧
        List.Forall₂ Scope.Agrees ((Scope.view ⟨"src"⟩).requests siblings siblingRequests).2
          (Scope.whole.requests own siblingRequests).2) ∧
      View.hidden ⟨"src"⟩ ((Scope.view ⟨"src"⟩).requests siblings siblingRequests).1 =
        ([("src", ⟨.text "b", none⟩), ("srcx.url", ⟨.text "c", none⟩), ("src.", ⟨.text "d", none⟩)] :
          List (Text × Entry)) := by
  have hsubset : Scope.whole.subset "src." = .ok ⟨"src"⟩ := by decide +kernel
  have hadmissible : ∀ r ∈ siblingRequests, r.Admissible := by
    intro r hr
    simp only [siblingRequests, List.mem_cons, List.not_mem_nil, or_false] at hr
    rcases hr with rfl | rfl | rfl
    · exact ⟨by decide, by unfold Scope.Access.Named; decide⟩
    · exact ⟨by decide, by unfold Scope.Access.Named; decide⟩
    · exact ⟨by decide, trivial⟩
  obtain ⟨-, ⟨own, hown⟩, hfaithful⟩ := View.faithful hsubset siblings
  obtain ⟨hagrees, hstep⟩ := hfaithful own hown siblingRequests hadmissible
  refine ⟨hsubset, ⟨own, hown, hagrees⟩, ?_⟩
  rw [hstep.hidden]
  decide +kernel

end LayeredConfig
