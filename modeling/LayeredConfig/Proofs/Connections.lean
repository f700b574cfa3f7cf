import LayeredConfig.Connections
import LayeredConfig.Proofs.View.Table

/-!
# The destination under writes

The parameters of the destination stand behind `dst`, or behind `ldap` if there is nothing behind `dst`. Which of the
two it is depends on the namespace, and a write through the view of the destination changes the namespace. It does not
change the choice (**`Namespace.destinationLead_put`**): behind `dst` there was something and still is, and a write
behind `ldap` is not seen behind `dst`.

* **`View.toList_eq_behind`** — a view shows what is stored behind its prefix.
* **`Scope.destinationProperties_stable`** — so a write through the view of the destination is one to its parameters,
  and those of the source stay as they are.
-/

namespace LayeredConfig

/-- The texts behind a prefix and a dot, under what is left of their keys, in the order in which the keys came. -/
def Namespace.behind (ns : Namespace) (lead : Text) : List (Text × Text) :=
  ns.snapshot.entries.filterMap fun e =>
    match Text.after? (lead ++ ".") e.1 with
    | some (c :: rest) => some (c :: rest, e.2.decoded)
    | _ => none

/-- The prefix of the destination: `ldap` where nothing is behind `dst`. -/
def Namespace.destinationLead (ns : Namespace) : Text :=
  if ns.behind "dst" = [] then "ldap" else "dst"

/-- A table of texts, as it is handed out. -/
def presented (table : List (Text × Text)) : List (Text × Option Text) :=
  table.map fun e => (e.1, some e.2)

theorem presented_injective : Function.Injective presented := by
  refine List.map_injective_iff.mpr fun e f h => ?_
  obtain ⟨hkey, htext⟩ := Prod.mk.inj h
  exact Prod.ext hkey (Option.some.inj htext)

theorem presented_put (k t : Text) (table : List (Text × Text)) :
    presented (Entries.put k t table) = Entries.put k (some t) (presented table) :=
  Entries.put_map (f := id) Function.injective_id some k t table

variable {lead lead' k : Text}

/-! ## Behind a prefix -/

namespace View

/-- **A view shows** what is stored behind its prefix. -/
theorem toList_eq_behind (lead : Text) (ns : Namespace) : (View.mk lead).toList ns = presented (ns.behind lead) := by
  rw [toList_eq_filterMap, presented, Namespace.behind, List.map_filterMap]
  refine List.filterMap_congr fun e _ => ?_
  show (key? ⟨lead⟩ e.1).map _ = _
  rw [key?, head]
  -- a key without the prefix, the prefix alone, and a key behind it
  cases Text.after? (lead ++ ".") e.1 with
  | none => rfl
  | some rest => cases rest <;> rfl

theorem isEmpty_iff (lead : Text) (ns : Namespace) : (View.mk lead).isEmpty ns = true ↔ ns.behind lead = [] := by
  rw [isEmpty, ← map_fst_toList, toList_eq_behind, presented, List.isEmpty_iff, List.map_eq_nil_iff,
    List.map_eq_nil_iff]

/-- Prefixes that begin differently hide the keys of each other. -/
theorem shows_other (hne : lead ≠ []) (hne' : lead' ≠ []) (h : lead.head? ≠ lead'.head?) (k : Text) :
    (View.mk lead).shows ((View.mk lead').qualify k) = false := by
  obtain ⟨c, rest, rfl⟩ := List.exists_cons_of_ne_nil hne
  obtain ⟨c', rest', rfl⟩ := List.exists_cons_of_ne_nil hne'
  rw [Bool.eq_false_iff, ne_eq, shows_iff]
  rintro ⟨k', -, hkey⟩
  -- a key behind both would begin with both first letters
  have hhead : c' = c := (List.cons.inj hkey).1
  exact h (congrArg some hhead.symm)

end View

namespace Namespace

/-- A write behind a prefix is one to what is behind it. -/
theorem behind_put (ns : Namespace) (lead : Text) (hk : k ≠ []) (raw : RawValue) (source : Option Text) :
    (ns.put ((View.mk lead).qualify k) raw source).behind lead = Entries.put k raw.decoded (ns.behind lead) := by
  apply presented_injective
  rw [presented_put, ← View.toList_eq_behind, View.toList_put _ ns hk, View.toList_eq_behind]

/-- A write behind one prefix is not seen behind another one that begins differently. -/
theorem behind_put_other (hne : lead ≠ []) (hne' : lead' ≠ []) (h : lead.head? ≠ lead'.head?) (ns : Namespace)
    (raw : RawValue) (source : Option Text) :
    (ns.put ((View.mk lead').qualify k) raw source).behind lead = ns.behind lead := by
  apply presented_injective
  rw [← View.toList_eq_behind, View.toList_put_of_hidden (View.shows_other hne hne' h k), View.toList_eq_behind]

theorem destinationLead_cases (ns : Namespace) :
    (ns.behind "dst" = [] ∧ ns.destinationLead = "ldap") ∨ (ns.behind "dst" ≠ [] ∧ ns.destinationLead = "dst") := by
  by_cases hempty : ns.behind "dst" = []
  · exact .inl ⟨hempty, if_pos hempty⟩
  · exact .inr ⟨hempty, if_neg hempty⟩

/-- **The choice of the destination** outlasts a write behind its prefix. -/
theorem destinationLead_put (ns : Namespace) (hk : k ≠ []) (raw : RawValue) (source : Option Text) :
    (ns.put ((View.mk ns.destinationLead).qualify k) raw source).destinationLead = ns.destinationLead := by
  rcases ns.destinationLead_cases with ⟨hempty, hlead⟩ | ⟨hsome, hlead⟩
  · -- behind `dst` there is nothing, and the write to `ldap` puts nothing there
    rw [hlead, destinationLead, behind_put_other (by decide) (by decide) (by decide), if_pos hempty]
  · -- behind `dst` there is what was written, if nothing else
    have hput : Entries.put k raw.decoded (ns.behind "dst") ≠ [] := by
      intro hnil
      have hlookup := Entries.lookup_put k k raw.decoded (ns.behind "dst")
      rw [hnil, if_pos rfl] at hlookup
      cases hlookup
    rw [hlead, destinationLead, behind_put ns "dst" hk, if_neg hput]

/-- A write behind the prefix of the destination is not seen behind that of the source. -/
theorem behind_src_put (ns : Namespace) (k : Text) (raw : RawValue) (source : Option Text) :
    (ns.put ((View.mk ns.destinationLead).qualify k) raw source).behind "src" = ns.behind "src" := by
  rcases ns.destinationLead_cases with ⟨-, hlead⟩ | ⟨-, hlead⟩
  · rw [hlead, behind_put_other (by decide) (by decide) (by decide)]
  · rw [hlead, behind_put_other (by decide) (by decide) (by decide)]

end Namespace

/-! ## Parameters -/

namespace Scope

/-- The view of the destination is the one behind its prefix. -/
theorem destinationView_eq (ns : Namespace) : whole.destinationView ns = .ok ⟨ns.destinationLead⟩ := by
  have hdst : whole.subset "dst" = .ok ⟨"dst"⟩ := by decide +kernel
  have hldap : whole.subset "ldap" = .ok ⟨"ldap"⟩ := by decide +kernel
  rw [destinationView, hdst]
  show (if (View.mk "dst").isEmpty ns = true then whole.subset "ldap" else .ok ⟨"dst"⟩) = _
  rcases ns.destinationLead_cases with ⟨hempty, hlead⟩ | ⟨hsome, hlead⟩
  · rw [if_pos ((View.isEmpty_iff "dst" ns).mpr hempty), hldap, hlead]
  · rw [if_neg fun h => hsome ((View.isEmpty_iff "dst" ns).mp h), hlead]

theorem destinationProperties_eq (ns : Namespace) :
    whole.destinationProperties ns = .ok (presented (ns.behind ns.destinationLead)) := by
  rw [destinationProperties, destinationView_eq, ← View.toList_eq_behind]
  rfl

theorem sourceProperties_eq (ns : Namespace) : whole.sourceProperties ns = .ok (presented (ns.behind "src")) := by
  have hsrc : whole.subset "src" = .ok ⟨"src"⟩ := by decide +kernel
  rw [sourceProperties, sourceView, hsrc, ← View.toList_eq_behind]
  rfl

/-- **The parameters of the destination** are those behind `dst`, or those behind `ldap` if there are none. A write
through the view of the destination is one to them, and it leaves those of the source alone. -/
theorem destinationProperties_stable (ns : Namespace) :
    whole.destinationProperties ns =
        .ok (presented (if ns.behind "dst" = [] then ns.behind "ldap" else ns.behind "dst")) ∧
      ∀ (k : Text) (raw : RawValue) (source : Option Text), k ≠ [] → ∃ v ns' table,
        whole.destinationView ns = .ok v ∧ (view v).set ns k raw.toValue source = .ok ns' ∧
        whole.destinationProperties ns = .ok table ∧
        whole.destinationProperties ns' = .ok (Entries.put k (some raw.decoded) table) ∧
        whole.sourceProperties ns' = whole.sourceProperties ns := by
  refine ⟨?_, fun k raw source hk => ?_⟩
  · rw [destinationProperties_eq, Namespace.destinationLead]
    split <;> rfl
  · -- the write is accepted, since no key of a view is empty in the namespace
    have hset : (view ⟨ns.destinationLead⟩).set ns k raw.toValue source =
        .ok (ns.put ((View.mk ns.destinationLead).qualify k) raw source) :=
      ns.set_toValue (View.qualify_ne_nil _ k) raw source
    refine ⟨_, _, _, destinationView_eq ns, hset, destinationProperties_eq ns, ?_, ?_⟩
    · rw [destinationProperties_eq, ns.destinationLead_put hk, ns.behind_put _ hk, presented_put]
    · rw [sourceProperties_eq, sourceProperties_eq, ns.behind_src_put]

/-! A namespace with nothing behind `dst`, though there are keys that look like it. -/

namespace Legacy

def held : Namespace :=
  ⟨.ofList [("dst", ⟨.text "a", none⟩), ("ldap.url", ⟨.text "b", none⟩), ("dst.", ⟨.text "c", none⟩),
    ("src.url", ⟨.text "d", none⟩), ("dstx.url", ⟨.text "e", none⟩), ("ldap.base", ⟨.text "f", none⟩)], []⟩

end Legacy

open Legacy in
/-- The second item of the older parameters is set, and they are still taken. -/
theorem destinationProperties_stable_legacy :
    ∃ ns', (view ⟨"ldap"⟩).set held "base" (RawValue.list "g" ["h"]).toValue none = .ok ns' ∧
      whole.destinationProperties ns' = .ok (presented [("url", "b"), ("base", "g,h")]) ∧
      whole.sourceProperties ns' = .ok (presented [("url", "d")]) := by
  obtain ⟨-, hwrite⟩ := destinationProperties_stable held
  obtain ⟨v, ns', table, hv, hset, htable, hdestination, hsource⟩ :=
    hwrite "base" (.list "g" ["h"]) none (by decide)
  have hview : whole.destinationView held = .ok ⟨"ldap"⟩ := by decide +kernel
  have hold : whole.destinationProperties held = .ok (presented [("url", "b"), ("base", "f")]) := by decide +kernel
  obtain rfl := Except.ok.inj (hv.symm.trans hview)
  obtain rfl := Except.ok.inj (htable.symm.trans hold)
  refine ⟨ns', hset, hdestination.trans (by decide +kernel), hsource.trans (by decide +kernel)⟩

end Scope

end LayeredConfig
