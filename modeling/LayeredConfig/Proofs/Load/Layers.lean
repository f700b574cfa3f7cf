import LayeredConfig.Proofs.Namespace.Merge

/-!
# Layers

A *layer* is a source that was read: its identifier and its values. Layers are merged one over the other, the
first of them into the empty namespace (`Layer.stack`), and two views tell what comes of it without running a
merge:

* **`keys_stack`** — the keys of all layers in the order of first appearance.
* **`get?_stack`** — at each key what the last layer that defines it says, with the source of that layer
  (`Layer.latest?`). `latest?_eq_some_iff` says what "the last layer" means: a position in the list after which no
  layer defines the key.
-/

namespace LayeredConfig

/-- A source that was read. -/
structure Layer where
  source : Text
  values : OrderedMap RawValue

namespace Layer

/-- No key of the layer is empty. -/
def Keyed (l : Layer) : Prop :=
  ∀ key ∈ l.values.keys, key ≠ []

instance (l : Layer) : Decidable l.Keyed :=
  inferInstanceAs (Decidable (∀ key ∈ l.values.keys, key ≠ []))

/-- What the layer says about a key. -/
def lookup? (l : Layer) (key : Text) : Option Entry :=
  (l.values.get? key).map fun v => ⟨v, some l.source⟩

/-- One layer over what is there. -/
def onto (ns : Namespace) (l : Layer) : Namespace :=
  ns.overlay l.source l.values

/-- Layers over what is there, one after the other. -/
def stackOn (ns : Namespace) (layers : List Layer) : Namespace :=
  layers.foldl onto ns

/-- The namespace of layers: the first one is merged into the empty namespace. -/
def stack (layers : List Layer) : Namespace :=
  stackOn .empty layers

/-- What the last layer that defines a key says about it. -/
def latest? (layers : List Layer) (key : Text) : Option Entry :=
  layers.reverse.findSome? fun l => l.lookup? key

/-! ## The last layer that defines a key -/

@[simp] theorem latest?_nil (key : Text) : latest? [] key = none := rfl

/-- One more layer on top: it decides, if it defines the key. -/
theorem latest?_concat (layers : List Layer) (l : Layer) (key : Text) :
    latest? (layers ++ [l]) key = (l.lookup? key).or (latest? layers key) := by
  rw [latest?, List.reverse_append, List.reverse_singleton, List.singleton_append, List.findSome?_cons]
  cases l.lookup? key with
  | none => rfl
  | some e => rfl

/-- One more layer below: it decides only if no other does. -/
theorem latest?_cons (l : Layer) (layers : List Layer) (key : Text) :
    latest? (l :: layers) key = (latest? layers key).or (l.lookup? key) := by
  rw [latest?, List.reverse_cons, List.findSome?_append, List.findSome?_singleton]
  rfl

/-- **The last layer that defines a key** stands at a position after which no layer defines it. -/
theorem latest?_eq_some_iff {layers : List Layer} {key : Text} {e : Entry} :
    latest? layers key = some e ↔
      ∃ (j : Nat) (l : Layer), layers[j]? = some l ∧ l.lookup? key = some e ∧
        ∀ (i : Nat) (l' : Layer), j < i → layers[i]? = some l' → l'.values.get? key = none := by
  induction layers with
  | nil => simp
  | cons l layers ih =>
    rw [latest?_cons]
    constructor
    · intro h
      cases hlater : latest? layers key with
      -- a later layer defines the key: its position moves by one
      | some e' =>
        rw [hlater, Option.some_or] at h
        obtain ⟨j, l', hj, hentry, hafter⟩ := ih.mp (hlater.trans h)
        refine ⟨j + 1, l', hj, hentry, fun i l'' hi hl'' => ?_⟩
        obtain ⟨i, rfl⟩ : ∃ k, i = k + 1 := ⟨i - 1, by omega⟩
        exact hafter i l'' (by omega) hl''
      -- no later one does, so it is the first
      | none =>
        rw [hlater, Option.none_or] at h
        refine ⟨0, l, rfl, h, fun i l'' hi hl'' => ?_⟩
        obtain ⟨i, rfl⟩ : ∃ k, i = k + 1 := ⟨i - 1, by omega⟩
        have hmem : l'' ∈ layers.reverse := by
          rw [List.mem_reverse]
          exact List.mem_of_getElem? hl''
        have hnone := List.findSome?_eq_none_iff.mp hlater l'' hmem
        exact Option.map_eq_none_iff.mp hnone
    · rintro ⟨j, l', hj, hentry, hafter⟩
      cases j with
      | zero =>
        obtain rfl : l = l' := Option.some.inj hj
        have hlater : latest? layers key = none := by
          rw [latest?, List.findSome?_eq_none_iff]
          intro l'' hl''
          obtain ⟨i, hi⟩ := List.mem_iff_getElem?.mp (List.mem_reverse.mp hl'')
          exact Option.map_eq_none_iff.mpr (hafter (i + 1) l'' (by omega) hi)
        rw [hlater, Option.none_or, hentry]
      | succ j =>
        have hlater : latest? layers key = some e :=
          ih.mpr ⟨j, l', hj, hentry, fun i l'' hi hl'' => hafter (i + 1) l'' (by omega) hl''⟩
        rw [hlater, Option.some_or]

/-! ## The two views of a stack -/

theorem stackOn_cons (ns : Namespace) (l : Layer) (layers : List Layer) :
    stackOn ns (l :: layers) = stackOn (onto ns l) layers := rfl

theorem stack_concat (layers : List Layer) (l : Layer) : stack (layers ++ [l]) = onto (stack layers) l :=
  List.foldl_append

/-- First appearances are those of the keys below, then those of the layers. -/
theorem keys_stackOn (ns : Namespace) (layers : List Layer) :
    (stackOn ns layers).entries.keys =
      (ns.entries.keys ++ layers.flatMap fun l => l.values.keys).eraseDups := by
  induction layers generalizing ns with
  | nil =>
    rw [List.flatMap_nil, List.append_nil, Entries.eraseDups_of_nodup ns.entries.nodup_keys]
    rfl
  | cons l layers ih =>
    have honto : (onto ns l).entries.keys = (ns.entries.keys ++ l.values.keys).eraseDups :=
      Namespace.keys_overlay ns l.source l.values
    -- the keys of a namespace are distinct, so taking first appearances again does nothing
    have hself : (onto ns l).entries.keys.eraseDups = (onto ns l).entries.keys :=
      Entries.eraseDups_of_nodup (onto ns l).entries.nodup_keys
    have hremove : (layers.flatMap fun l => l.values.keys).removeAll (onto ns l).entries.keys =
        (layers.flatMap fun l => l.values.keys).removeAll (ns.entries.keys ++ l.values.keys) := by
      rw [honto]
      simp [List.removeAll]
    rw [stackOn_cons, ih, List.flatMap_cons, ← List.append_assoc, List.eraseDups_append, hself, hremove,
      honto, ← List.eraseDups_append]

/-- **The keys of a stack** are the keys of its layers in the order of first appearance. -/
theorem keys_stack (layers : List Layer) :
    (stack layers).entries.keys = (layers.flatMap fun l => l.values.keys).eraseDups := by
  rw [stack, keys_stackOn]
  rfl

/-- A layer hides what is below it at its own keys, and nowhere else. -/
theorem get?_onto (ns : Namespace) (l : Layer) (key : Text) :
    (onto ns l).entries.get? key = (l.lookup? key).or (ns.entries.get? key) :=
  Namespace.get?_overlay ns l.source l.values key

/-- Below all layers is what they were put onto. -/
theorem get?_stackOn (ns : Namespace) (layers : List Layer) (key : Text) :
    (stackOn ns layers).entries.get? key = (latest? layers key).or (ns.entries.get? key) := by
  induction layers generalizing ns with
  | nil => rfl
  | cons l layers ih => rw [stackOn_cons, ih, get?_onto, latest?_cons, Option.or_assoc]

/-- **What is stored in a stack**: at each key what the last layer that defines it says. -/
theorem get?_stack (layers : List Layer) (key : Text) :
    (stack layers).entries.get? key = latest? layers key := by
  rw [stack, get?_stackOn]
  exact Option.or_none

end Layer

end LayeredConfig
