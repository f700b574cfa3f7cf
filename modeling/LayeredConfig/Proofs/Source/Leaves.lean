import LayeredConfig.Proofs.OrderedMap
import LayeredConfig.Proofs.RawValue
import LayeredConfig.Proofs.Text.Split
import LayeredConfig.Source.Parse
import Mathlib.Data.List.Nodup

/-!
# The leaves of a document

Flattening makes a map for each map in the document and writes it to the one above it. What comes of it is told here
without any levels: the document has leaves, which are the values at the ends of its paths, and one pass writes them to
one map in the order of the document.

* `Value.leavesFrom` lists the leaves with their paths.
* **`flattenFrom_eq`** — flattening is one pass over the leaves, by recursion on the document. What carries it is that a
  map made apart and then written is the same as writing its leaves right away (`foldlM_writeLeaf_update`).
* **`Text.splitOn_join`**, **`nodup_paths`** — where no name has a dot, leaves have keys of their own.
* **`Source.ofValue_leaves`** — what is read of a document, and which fault is met.
-/

namespace LayeredConfig

/-! ## Scalars and leaves -/

namespace Atom

/-- The text of a key, of any length. -/
def keyText : Atom → Text
  | .null => "None"
  | .bool b => if b then "True" else "False"
  | .int n => Text.ofInt n
  | .float x => FloatLayout.plain.write x
  | .text t => t
  | .date d => d.iso
  | .time t => t.iso ' '
  | .bytes b => Text.quotedBytes b

/-- The text of a scalar, of any length. -/
def scalar : Atom → Text
  | .null | .bytes _ => []
  | .bool b => if b then "true" else "false"
  | .int n => Text.ofInt n
  | .float x => FloatLayout.plain.write x
  | .text t => t
  | .date d => d.iso
  | .time t => t.iso 'T'

def isScalar : Atom → Bool
  | .bytes _ => false
  | _ => true

/-- An integer that has not too many digits to be written, or no integer. -/
def IsShort : Atom → Prop
  | .int n => n.natAbs < Nat.pow 10 Number.digitLimit
  | _ => True

/-- An integer of not too many digits can be written. -/
theorem writeInt_eq {n : Int} (h : IsShort (.int n)) : Number.writeInt n = .ok (Text.ofInt n) :=
  if_neg (Nat.not_le.mpr h)

/-- A short name has a text. -/
theorem label_eq {a : Atom} (h : a.IsShort) : a.label = .ok a.keyText := by
  cases a with
  | int n => exact writeInt_eq h
  | _ => rfl

/-- A short scalar has one, and bytes have none. -/
theorem scalarText_eq {a : Atom} (h : a.IsShort) (key : Text) :
    a.scalarText key = if a.isScalar then .ok a.scalar else .error (.notScalar key a.kind) := by
  cases a with
  | int n =>
    rw [scalarText, writeInt_eq h]
    rfl
  | _ => rfl

end Atom

namespace Value

def isScalar : Value → Bool
  | .atom a => a.isScalar
  | .list _ | .map _ | .set | .pair => false

/-- The text of a scalar. -/
def scalar : Value → Text
  | .atom a => a.scalar
  | .list _ | .map _ | .set | .pair => []

/-- What has to be scalar of a leaf: the items of a list, or the leaf itself. -/
def parts : Value → List Value
  | .list items => items
  | v => [v]

def IsPlain (v : Value) : Prop :=
  ∀ part ∈ v.parts, part.isScalar = true

/-- What a plain leaf is read as. -/
def raw : Value → RawValue
  | .list items => rawList (items.map scalar)
  | v => .text v.scalar

/-- The first part of a leaf that is no scalar. -/
def misfit? (v : Value) : Option Value :=
  v.parts.find? fun part => !part.isScalar

/-- A leaf without a misfit is plain. -/
theorem misfit?_eq_none_iff {v : Value} : v.misfit? = none ↔ v.IsPlain := by
  simp [misfit?, IsPlain]

mutual

/-- The leaves of a value at a path, with their own paths. -/
def leavesAt (path : List Atom) : Value → List (List Atom × Value)
  | .map entries => leavesFrom path entries
  | .atom a => [(path, .atom a)]
  | .list items => [(path, .list items)]
  | .set => [(path, .set)]
  | .pair => [(path, .pair)]

def leavesFrom (path : List Atom) : List (Atom × Value) → List (List Atom × Value)
  | [] => []
  | (k, v) :: rest => leavesAt (path ++ [k]) v ++ leavesFrom path rest

end

/-- The leaves of a document, in its order. -/
def leaves (entries : List (Atom × Value)) : List (List Atom × Value) :=
  leavesFrom [] entries

/-- The texts of the names on a path, joined by dots. -/
def keyOf (path : List Atom) : Text :=
  Text.join "." (path.map Atom.keyText)

/-- No integer has too many digits to be written, in names and in scalars. -/
inductive Short : Value → Prop where
  | atom {a : Atom} (h : a.IsShort) : Short (.atom a)
  | list {items : List Value} (h : ∀ v ∈ items, Short v) : Short (.list items)
  | map {entries : List (Atom × Value)} (hnames : ∀ e ∈ entries, e.1.IsShort) (hvalues : ∀ e ∈ entries, Short e.2) :
      Short (.map entries)
  | set : Short .set
  | pair : Short .pair

/-- Something holds of the names of each map. Maps in lists have no part in what is read. -/
inductive EachMap (p : List Atom → Prop) : Value → Prop where
  | map {entries : List (Atom × Value)} (hnames : p (entries.map Prod.fst)) (hvalues : ∀ e ∈ entries, EachMap p e.2) :
      EachMap p (.map entries)
  | atom {a : Atom} : EachMap p (.atom a)
  | list {items : List Value} : EachMap p (.list items)
  | set : EachMap p .set
  | pair : EachMap p .pair

/-- No text is there twice. -/
def Distinct (names : List Atom) : Prop :=
  names.Pairwise fun j k => ∀ t, j = .text t → k ≠ .text t

/-- Texts without a dot. -/
def Dotless (names : List Atom) : Prop :=
  ∀ name ∈ names, ∃ t, name = .text t ∧ CodePoint.ofChar '.' ∉ t

/-- Different texts are different names. -/
theorem distinct_map_text (ts : List Text) (h : ts.Nodup) : Distinct (ts.map Atom.text) := by
  refine List.pairwise_map.mpr (h.imp fun hne u hj hk => hne ?_)
  rw [Atom.text.inj hj, Atom.text.inj hk]

theorem dotless_map_text (ts : List Text) (h : ∀ t ∈ ts, CodePoint.ofChar '.' ∉ t) : Dotless (ts.map Atom.text) := by
  intro name hname
  obtain ⟨t, ht, rfl⟩ := List.mem_map.mp hname
  exact ⟨t, rfl, h t ht⟩

/-! ## One pass -/

/-- Reads a leaf that is to have a key. -/
def readLeaf (key : Text) : Value → Except FlattenError RawValue
  | .list items => (items.mapM (scalarText key)).map rawList
  | v => (v.scalarText key).map .text

/-- Writes a leaf to a map. -/
def writeLeaf (out : OrderedMap RawValue) (l : List Atom × Value) : Except FlattenError (OrderedMap RawValue) :=
  (readLeaf (keyOf l.1) l.2).map (out.put (keyOf l.1))

/-- What is there already has no part in what is written. -/
theorem foldlM_writeLeaf_update (m : OrderedMap RawValue) (ls : List (List Atom × Value)) :
    ∀ n, ls.foldlM writeLeaf (m.update n) = (ls.foldlM writeLeaf n).map m.update := by
  induction ls with
  | nil => exact fun _ => rfl
  | cons l ls ih =>
    intro n
    rw [List.foldlM_cons, List.foldlM_cons, writeLeaf, writeLeaf]
    cases readLeaf (keyOf l.1) l.2 with
    | error e => rfl
    | ok raw =>
      show ls.foldlM writeLeaf ((m.update n).put _ raw) = (ls.foldlM writeLeaf (n.put _ raw)).map m.update
      rw [← OrderedMap.update_put]
      exact ih _

/-- What stands before the names in the map at a path. -/
def leadOf (path : List Atom) : Text :=
  if path = [] then [] else keyOf path ++ "."

/-- One more name on a path goes behind what stands before the names there. -/
theorem keyOf_concat (path : List Atom) (k : Atom) : keyOf (path ++ [k]) = leadOf path ++ k.keyText := by
  rw [keyOf, List.map_append, List.map_singleton, Text.join_concat, leadOf, keyOf]
  simp only [List.map_eq_nil_iff]

/-- That is the key of the path and a dot, but for the path of the document itself. -/
theorem leadOf_concat (path : List Atom) (k : Atom) : leadOf (path ++ [k]) = keyOf (path ++ [k]) ++ "." :=
  if_neg (List.concat_ne_nil k path)

/-! The recursion is that of the document. It is over every map written so far, since each entry is written to what
the one before it left. -/

mutual

theorem flattenAt_eq {path : List Atom} {k : Atom} :
    ∀ {v : Value}, v.Short → ∀ out,
      v.flattenAt (keyOf (path ++ [k])) out = (leavesAt (path ++ [k]) v).foldlM writeLeaf out
  | .map entries, .map hnames hvalues, out => by
    have hpass := flattenFrom_eq (path ++ [k]) hnames hvalues .empty
    have hwrite := foldlM_writeLeaf_update out (leavesFrom (path ++ [k]) entries) .empty
    rw [OrderedMap.update_empty] at hwrite
    rw [flattenAt, ← leadOf_concat, hpass, leavesAt, hwrite]
    rfl
  | .list items, _, out => by
    rw [flattenAt, leavesAt, List.foldlM_cons, writeLeaf, readLeaf]
    cases items.mapM (scalarText (keyOf (path ++ [k]))) with
    | error e => rfl
    | ok texts => rfl
  | .atom a, _, out => by
    simp only [flattenAt, leavesAt, List.foldlM_cons, writeLeaf, readLeaf]
    cases (Value.atom a).scalarText (keyOf (path ++ [k])) with
    | error e => rfl
    | ok text => rfl
  | .set, _, out => rfl
  | .pair, _, out => rfl

theorem flattenFrom_eq (path : List Atom) :
    ∀ {entries : List (Atom × Value)}, (∀ e ∈ entries, e.1.IsShort) → (∀ e ∈ entries, e.2.Short) → ∀ out,
      flattenFrom (leadOf path) out entries = (leavesFrom path entries).foldlM writeLeaf out
  | [], _, _, out => rfl
  | (k, v) :: rest, hnames, hvalues, out => by
    obtain ⟨hname, hnames⟩ := List.forall_mem_cons.mp hnames
    obtain ⟨hvalue, hvalues⟩ := List.forall_mem_cons.mp hvalues
    rw [flattenFrom, leavesFrom, List.foldlM_append, Atom.label_eq hname]
    show ((v.flattenAt (leadOf path ++ k.keyText) out).bind fun out => flattenFrom (leadOf path) out rest) = _
    rw [← keyOf_concat, flattenAt_eq hvalue]
    exact congrArg _ (funext (flattenFrom_eq path hnames hvalues))

end

/-- A short scalar has a text, and nothing else has one. -/
theorem scalarText_eq {v : Value} (h : v.Short) (key : Text) :
    v.scalarText key = if v.isScalar then .ok v.scalar else .error (.notScalar key v.kind) := by
  cases h with
  | atom h => exact Atom.scalarText_eq h key
  | _ => rfl

/-- The items of a list are read up to the first one that is no scalar. -/
theorem mapM_scalarText (key : Text) {items : List Value} (h : ∀ v ∈ items, v.Short) :
    items.mapM (scalarText key) =
      match items.find? fun v => !v.isScalar with
      | none => .ok (items.map scalar)
      | some v => .error (.notScalar key v.kind) := by
  induction items with
  | nil => rfl
  | cons v rest ih =>
    obtain ⟨hv, hrest⟩ := List.forall_mem_cons.mp h
    rw [List.mapM_cons, scalarText_eq hv, ih hrest, List.find?_cons]
    cases v.isScalar with
    | false => rfl
    | true =>
      cases rest.find? fun v => !v.isScalar with
      | none => rfl
      | some misfit => rfl

/-- A leaf is read if it is plain, and else its first misfit is refused. -/
theorem readLeaf_eq {v : Value} (h : v.Short) (key : Text) :
    v.readLeaf key =
      match v.misfit? with
      | none => .ok v.raw
      | some part => .error (.notScalar key part.kind) := by
  cases h with
  | @list items hitems =>
    rw [readLeaf, mapM_scalarText key hitems, misfit?, Value.parts]
    cases items.find? fun v => !v.isScalar with
    | none => rfl
    | some part => rfl
  | @atom a ha =>
    have hparts : (atom a).parts = [atom a] := rfl
    show ((atom a).scalarText key).map RawValue.text = _
    rw [scalarText_eq (.atom ha), misfit?, hparts, List.find?_singleton]
    cases (atom a).isScalar with
    | false => rfl
    | true => rfl
  | _ => rfl

/-- What is written for a plain leaf. -/
def written (l : List Atom × Value) : Text × RawValue :=
  (keyOf l.1, l.2.raw)

/-- Plain leaves are all written. -/
theorem foldlM_writeLeaf_plain {ls : List (List Atom × Value)} (hshort : ∀ l ∈ ls, l.2.Short)
    (hplain : ∀ l ∈ ls, l.2.IsPlain) :
    ∀ out, ls.foldlM writeLeaf out = .ok (out.putAll (ls.map written)) := by
  induction ls with
  | nil => exact fun _ => rfl
  | cons l ls ih =>
    intro out
    obtain ⟨hl, hshort⟩ := List.forall_mem_cons.mp hshort
    obtain ⟨hfits, hplain⟩ := List.forall_mem_cons.mp hplain
    rw [List.foldlM_cons, writeLeaf, readLeaf_eq hl, misfit?_eq_none_iff.mpr hfits]
    exact ih hshort hplain (out.put (keyOf l.1) l.2.raw)

/-- The first leaf that is not plain ends the pass. -/
theorem foldlM_writeLeaf_misfit {before after : List (List Atom × Value)} {l : List Atom × Value} {part : Value}
    (hshort : ∀ l' ∈ before ++ l :: after, l'.2.Short) (hplain : ∀ l' ∈ before, l'.2.IsPlain)
    (hpart : l.2.misfit? = some part) (out : OrderedMap RawValue) :
    (before ++ l :: after).foldlM writeLeaf out = .error (.notScalar (keyOf l.1) part.kind) := by
  have hbefore : ∀ l' ∈ before, l'.2.Short := fun l' hl' => hshort l' (List.mem_append_left _ hl')
  have hl : l.2.Short := hshort l (by simp)
  have hmisfit (out : OrderedMap RawValue) : writeLeaf out l = .error (.notScalar (keyOf l.1) part.kind) := by
    rw [writeLeaf, readLeaf_eq hl, hpart]
    rfl
  rw [List.foldlM_append, foldlM_writeLeaf_plain hbefore hplain]
  show (l :: after).foldlM writeLeaf _ = _
  rw [List.foldlM_cons, hmisfit]
  rfl

/-- If not all leaves are plain, there is a first one that is not. -/
theorem exists_misfit {ls : List (List Atom × Value)} (h : ∃ l ∈ ls, ¬ l.2.IsPlain) :
    ∃ before after l part, ls = before ++ l :: after ∧ (∀ l' ∈ before, l'.2.IsPlain) ∧ l.2.misfit? = some part := by
  have hfind : (ls.find? fun l => l.2.misfit?.isSome).isSome := by
    simpa [Option.isSome_iff_ne_none, misfit?_eq_none_iff] using h
  obtain ⟨l, hl⟩ := Option.isSome_iff_exists.mp hfind
  obtain ⟨hmisfit, before, after, hsplit, hbefore⟩ := List.find?_eq_some_iff_append.mp hl
  obtain ⟨part, hpart⟩ := Option.isSome_iff_exists.mp hmisfit
  refine ⟨before, after, l, part, hsplit, fun l' hl' => ?_, hpart⟩
  exact misfit?_eq_none_iff.mp (by simpa using hbefore l' hl')

/-! ## Paths -/

/-- The leaves of a map are those of its values. -/
theorem mem_leavesFrom {path : List Atom} {entries : List (Atom × Value)} {l : List Atom × Value} :
    l ∈ leavesFrom path entries ↔ ∃ e ∈ entries, l ∈ leavesAt (path ++ [e.1]) e.2 := by
  induction entries with
  | nil => simp [leavesFrom]
  | cons e rest ih => simp [leavesFrom, ih]

/-- The leaves of a short value are short. -/
theorem Short.leaf {v : Value} (h : v.Short) :
    ∀ {path : List Atom} {l : List Atom × Value}, l ∈ leavesAt path v → l.2.Short := by
  induction h with
  | map _ _ ih =>
    intro path l hl
    obtain ⟨e, he, hl⟩ := mem_leavesFrom.mp hl
    exact ih e he hl
  | _ =>
    -- the value is its own only leaf
    intro path l hl
    rw [List.mem_singleton.mp hl]
    constructor
    all_goals assumption

/-- The path of a leaf goes on from where its value is, by texts without a dot. -/
theorem EachMap.path {v : Value} (h : v.EachMap Dotless) :
    ∀ {path : List Atom} {l : List Atom × Value}, l ∈ leavesAt path v →
      ∃ names : List Text, l.1 = path ++ names.map Atom.text ∧ ∀ name ∈ names, CodePoint.ofChar '.' ∉ name := by
  induction h with
  | map hnames _ ih =>
    intro path l hl
    obtain ⟨e, he, hl⟩ := mem_leavesFrom.mp hl
    obtain ⟨more, hpath, hmore⟩ := ih e he hl
    obtain ⟨name, hname, hdot⟩ := hnames e.1 (List.mem_map_of_mem he)
    refine ⟨name :: more, ?_, List.forall_mem_cons.mpr ⟨hdot, hmore⟩⟩
    rw [hpath, hname, List.append_assoc]
    rfl
  | _ =>
    intro path l hl
    rw [List.mem_singleton.mp hl]
    exact ⟨[], (List.append_nil path).symm, by simp⟩

/-- Names that are texts and distinct are different. -/
theorem Distinct.nodup {names : List Atom} (h : Distinct names) (hdots : Dotless names) : names.Nodup := by
  refine List.Pairwise.imp_of_mem ?_ h
  rintro j k hj - hne rfl
  obtain ⟨t, rfl, -⟩ := hdots j hj
  exact hne t rfl rfl

/-- The paths of a map are different if those of each value are. -/
theorem nodup_leavesFrom (path : List Atom) {entries : List (Atom × Value)} (hnodup : (entries.map Prod.fst).Nodup)
    (hdots : ∀ e ∈ entries, e.2.EachMap Dotless)
    (hvalues : ∀ e ∈ entries, ((leavesAt (path ++ [e.1]) e.2).map Prod.fst).Nodup) :
    ((leavesFrom path entries).map Prod.fst).Nodup := by
  induction entries with
  | nil => exact .nil
  | cons e rest ih =>
    obtain ⟨k, v⟩ := e
    rw [List.map_cons, List.nodup_cons] at hnodup
    obtain ⟨hv, hrest⟩ := List.forall_mem_cons.mp hdots
    obtain ⟨hleaves, hmore⟩ := List.forall_mem_cons.mp hvalues
    rw [leavesFrom, List.map_append, List.nodup_append]
    refine ⟨hleaves, ih hnodup.2 hrest hmore, ?_⟩
    rintro p hp q hq rfl
    -- two paths that part at this map
    obtain ⟨l, hl, rfl⟩ := List.mem_map.mp hp
    obtain ⟨l', hl', hsame⟩ := List.mem_map.mp hq
    obtain ⟨e, he, hl'⟩ := mem_leavesFrom.mp hl'
    obtain ⟨_, hpath, -⟩ := hv.path hl
    obtain ⟨_, hpath', -⟩ := (hrest e he).path hl'
    rw [hpath, hpath', List.append_assoc, List.append_assoc, List.append_cancel_left_eq, List.singleton_append,
      List.singleton_append, List.cons.injEq] at hsame
    have hmem : e.1 ∈ rest.map Prod.fst := List.mem_map_of_mem he
    exact hnodup.1 (hsame.1 ▸ hmem)

/-- **Leaves have paths of their own** where the names of each map are distinct texts. -/
theorem nodup_paths {v : Value} (h : v.EachMap Distinct) :
    v.EachMap Dotless → ∀ path, ((leavesAt path v).map Prod.fst).Nodup := by
  induction h with
  | map hdistinct _ ih =>
    intro hdots path
    cases hdots with
    | map hnames hvalues =>
      exact nodup_leavesFrom path (hdistinct.nodup hnames) hvalues fun e he => ih e he (hvalues e he) _
  | _ => exact fun _ path => List.nodup_singleton path

/-- The names on a path can be told from its key. -/
theorem splitOn_keyOf {names : List Text} (hne : names ≠ []) (hdots : ∀ name ∈ names, CodePoint.ofChar '.' ∉ name) :
    Text.splitOn '.' (keyOf (names.map Atom.text)) = names := by
  have htexts : (names.map Atom.text).map Atom.keyText = names := by
    rw [List.map_map]
    exact List.map_id names
  rw [keyOf, htexts]
  exact Text.splitOn_join hne hdots

/-- **Leaves have keys of their own** where no name has a dot. -/
theorem nodup_written {entries : List (Atom × Value)} (h : (map entries).EachMap Distinct)
    (hdots : (map entries).EachMap Dotless) : (((leaves entries).map written).map Prod.fst).Nodup := by
  have hpath : ∀ p ∈ (leaves entries).map Prod.fst, (Text.splitOn '.' (keyOf p)).map Atom.text = p := by
    intro p hp
    obtain ⟨l, hl, rfl⟩ := List.mem_map.mp hp
    obtain ⟨names, hnames, hnone⟩ := hdots.path hl
    -- the document itself is no leaf
    have hne : names ≠ [] := by
      rintro rfl
      cases hdots with
      | map _ hvalues =>
        obtain ⟨e, he, hat⟩ := mem_leavesFrom.mp hl
        obtain ⟨more, hmore, -⟩ := (hvalues e he).path hat
        rw [hmore] at hnames
        cases hnames
    rw [hnames, List.nil_append, splitOn_keyOf hne hnone]
  have hkeys : ((leaves entries).map written).map Prod.fst = ((leaves entries).map Prod.fst).map keyOf := by
    rw [List.map_map, List.map_map]
    rfl
  rw [hkeys]
  refine (nodup_paths h hdots []).map_on fun p hp q hq hsame => ?_
  rw [← hpath p hp, hsame, hpath q hq]

end Value

/-! ## What is read of a document -/

/-- A map without maps in it, as a document. -/
def OrderedMap.asDocument (m : OrderedMap RawValue) : List (Atom × Value) :=
  m.entries.map fun e => (.text e.1, e.2.toValue)

namespace Value

/-- **Flattening is one pass over the leaves.** -/
theorem flatten_eq {entries : List (Atom × Value)} (h : (map entries).Short) :
    flatten entries = (leaves entries).foldlM writeLeaf .empty := by
  cases h with
  | map hnames hvalues => exact flattenFrom_eq [] hnames hvalues .empty

/-- Texts are read as they are. -/
theorem mapM_scalarText_texts (key : Text) (texts : List Text) :
    (texts.map Value.text).mapM (scalarText key) = .ok texts := by
  have hshort : ∀ v ∈ texts.map Value.text, v.Short := by
    intro v hv
    obtain ⟨t, -, rfl⟩ := List.mem_map.mp hv
    exact .atom trivial
  have hscalars : ((texts.map Value.text).find? fun v => !v.isScalar) = none := by
    rw [List.find?_eq_none]
    intro v hv
    obtain ⟨t, -, rfl⟩ := List.mem_map.mp hv
    exact Bool.false_ne_true
  rw [mapM_scalarText key hshort, hscalars, List.map_map]
  exact congrArg Except.ok (List.map_id texts)

/-- A map without maps in it is flattened as it is. -/
theorem flattenFrom_asDocument (es : List (Text × RawValue)) :
    ∀ out, flattenFrom [] out (es.map fun e => (.text e.1, e.2.toValue)) = .ok (out.putAll es) := by
  induction es with
  | nil => exact fun _ => rfl
  | cons e es ih =>
    intro out
    obtain ⟨key, raw⟩ := e
    have hat : flattenAt key out raw.toValue = .ok (out.put key raw) := by
      cases raw with
      | text t => rfl
      | list head tail =>
        rw [RawValue.toValue, flattenAt, mapM_scalarText_texts]
        rfl
    rw [List.map_cons, flattenFrom]
    show (flattenAt key out raw.toValue).bind _ = _
    rw [hat]
    exact ih _

end Value

namespace Source

open Value

variable {entries : List (Atom × Value)}

/-- If all leaves are plain, a document is read as what is written for them. -/
theorem ofValue_of_plain (h : (map entries).Short) (hplain : ∀ l ∈ leaves entries, l.2.IsPlain) (identifier : Text) :
    ofValue identifier (some (.map entries)) = .ok (.ofList ((leaves entries).map written)) := by
  have hshort : ∀ l ∈ leaves entries, l.2.Short := fun l hl => h.leaf hl
  rw [ofValue, flatten_eq h, foldlM_writeLeaf_plain hshort hplain]
  rfl

/-- Otherwise the first misfit is refused with the key of its leaf. -/
theorem ofValue_of_misfit (h : (map entries).Short) {before after : List (List Atom × Value)} {l : List Atom × Value}
    {part : Value} (hsplit : leaves entries = before ++ l :: after) (hbefore : ∀ l' ∈ before, l'.2.IsPlain)
    (hpart : l.2.misfit? = some part) (identifier : Text) :
    ofValue identifier (some (.map entries)) =
      .error (.source ⟨.notScalar (keyOf l.1) part.kind, some identifier, none⟩) := by
  have hshort : ∀ l' ∈ before ++ l :: after, l'.2.Short := fun l' hl' => h.leaf (hsplit ▸ hl')
  rw [ofValue, flatten_eq h, hsplit, foldlM_writeLeaf_misfit hshort hbefore hpart]
  rfl

/-- What a document is read as, if it is read: no leaf is a misfit then. -/
theorem ofValue_eq_ok (h : (map entries).Short) {identifier : Text} {m : OrderedMap RawValue}
    (hm : ofValue identifier (some (.map entries)) = .ok m) : m = .ofList ((leaves entries).map written) := by
  by_cases hplain : ∀ l ∈ leaves entries, l.2.IsPlain
  · rw [ofValue_of_plain h hplain] at hm
    exact (Except.ok.inj hm).symm
  · obtain ⟨before, after, l, part, hsplit, hbefore, hpart⟩ := exists_misfit (by simpa using hplain)
    rw [ofValue_of_misfit h hsplit hbefore hpart] at hm
    cases hm

/-- What was read, as a document, is read as it is. -/
theorem ofValue_asDocument (m : OrderedMap RawValue) (identifier : Text) :
    ofValue identifier (some (.map m.asDocument)) = .ok m := by
  rw [ofValue, flatten, OrderedMap.asDocument, flattenFrom_asDocument]
  exact congrArg Except.ok (OrderedMap.ofList_entries m)

/-- With keys of their own, no leaf takes the place of another one. -/
theorem size_written (h : (map entries).EachMap Distinct) (hdots : (map entries).EachMap Dotless) :
    (OrderedMap.ofList ((leaves entries).map written)).size = (leaves entries).length := by
  have hentries := OrderedMap.entries_putAll_of_disjoint .empty _ (nodup_written h hdots) (by simp)
  rw [OrderedMap.size, OrderedMap.ofList, hentries]
  exact List.length_map _

/-- **A document is read as its leaves**, if these are plain: at each key as the last leaf there, in the order of the
first ones. Otherwise the first part that is no scalar is refused, with the key of its leaf. -/
theorem ofValue_leaves (h : (map entries).Short) (identifier : Text) :
    ((∀ l ∈ leaves entries, l.2.IsPlain) → ∃ m, ofValue identifier (some (.map entries)) = .ok m ∧
      m.keys = ((leaves entries).map fun l => keyOf l.1).eraseDups ∧
      (∀ key, m.get? key = ((leaves entries).reverse.map written).lookup key) ∧
      ((map entries).EachMap Distinct → (map entries).EachMap Dotless → m.size = (leaves entries).length) ∧
      ofValue identifier (some (.map m.asDocument)) = .ok m) ∧
    ((∃ e, ofValue identifier (some (.map entries)) = .error e) ↔ ∃ l ∈ leaves entries, ¬ l.2.IsPlain) ∧
    ∀ e, ofValue identifier (some (.map entries)) = .error e →
      ∃ before after l part, leaves entries = before ++ l :: after ∧ (∀ l' ∈ before, l'.2.IsPlain) ∧
        l.2.misfit? = some part ∧ e = .source ⟨.notScalar (keyOf l.1) part.kind, some identifier, none⟩ := by
  have hrefused {e : Failure} (he : ofValue identifier (some (.map entries)) = .error e) :
      ∃ l ∈ leaves entries, ¬ l.2.IsPlain := by
    -- a document of plain leaves is read, so one that is refused has another leaf
    by_contra hnone
    simp only [not_exists, not_and, not_not] at hnone
    rw [ofValue_of_plain h hnone] at he
    cases he
  refine ⟨fun hplain => ⟨_, ofValue_of_plain h hplain identifier, ?_, fun key => ?_, size_written,
    ofValue_asDocument _ identifier⟩, ⟨fun ⟨e, he⟩ => hrefused he, fun hsome => ?_⟩, fun e he => ?_⟩
  · rw [OrderedMap.keys_ofList, List.map_map]
    rfl
  · rw [OrderedMap.ofList, OrderedMap.get?_putAll, OrderedMap.get?_empty, Option.or_none, List.map_reverse]
  · obtain ⟨before, after, l, part, hsplit, hbefore, hpart⟩ := exists_misfit hsome
    exact ⟨_, ofValue_of_misfit h hsplit hbefore hpart identifier⟩
  · obtain ⟨before, after, l, part, hsplit, hbefore, hpart⟩ := exists_misfit (hrefused he)
    rw [ofValue_of_misfit h hsplit hbefore hpart] at he
    exact ⟨before, after, l, part, hsplit, hbefore, hpart, (Except.error.inj he).symm⟩

/-! A document with a map in a map, an empty one, and lists. -/

namespace Nested

def inner : List (Atom × Value) :=
  [(.text "b", .int 1), (.text "c", .map [])]

def document : List (Atom × Value) :=
  [(.text "a", .map inner), (.text "d", .list [.atom (.bool true), .null]), (.text "e", .list [])]

theorem short : (map document).Short := by
  have hone : Atom.IsShort (.int 1) := by
    show (1 : Int).natAbs < Nat.pow 10 Number.digitLimit
    decide +kernel
  have hempty : (map []).Short := .map (by simp) (by simp)
  have hinner : (map inner).Short := by
    refine .map (by simp [inner, Atom.IsShort]) ?_
    exact List.forall_mem_cons.mpr ⟨.atom hone, List.forall_mem_singleton.mpr hempty⟩
  have hitems : ∀ v ∈ [Value.atom (.bool true), .null], v.Short :=
    List.forall_mem_cons.mpr ⟨.atom trivial, List.forall_mem_singleton.mpr (.atom trivial)⟩
  refine .map (by simp [document, Atom.IsShort]) ?_
  exact List.forall_mem_cons.mpr ⟨hinner, List.forall_mem_cons.mpr
    ⟨.list hitems, List.forall_mem_singleton.mpr (.list (by simp))⟩⟩

theorem eachMap {p : List Atom → Prop} (hempty : p []) (hinner : p (inner.map Prod.fst))
    (hdocument : p (document.map Prod.fst)) : (map document).EachMap p := by
  have hnone : (map []).EachMap p := .map hempty (by simp)
  have hmap : (map inner).EachMap p :=
    .map hinner (List.forall_mem_cons.mpr ⟨.atom, List.forall_mem_singleton.mpr hnone⟩)
  refine .map hdocument ?_
  exact List.forall_mem_cons.mpr ⟨hmap, List.forall_mem_cons.mpr ⟨.list, List.forall_mem_singleton.mpr .list⟩⟩

end Nested

theorem ofValue_leaves_nested : ∃ m, ofValue "app.json" (some (.map Nested.document)) = .ok m ∧
    m.keys = (["a.b", "d", "e"] : List Text) ∧ m.get? "d" = some (.list "true" [[]]) ∧ m.get? "e" = some (.text []) ∧
    m.size = 3 := by
  have hdistinct : (map Nested.document).EachMap Distinct :=
    Nested.eachMap .nil (distinct_map_text ["b", "c"] (by decide))
      (distinct_map_text ["a", "d", "e"] (by decide))
  have hdots : (map Nested.document).EachMap Dotless :=
    Nested.eachMap (by simp [Dotless]) (dotless_map_text ["b", "c"] (by decide))
      (dotless_map_text ["a", "d", "e"] (by decide))
  have hplain : ∀ l ∈ leaves Nested.document, l.2.IsPlain := by
    have hnone : (leaves Nested.document).all fun l => l.2.misfit?.isNone := by decide
    intro l hl
    exact misfit?_eq_none_iff.mp (Option.isNone_iff_eq_none.mp (List.all_eq_true.mp hnone l hl))
  obtain ⟨hgood, -, -⟩ := ofValue_leaves Nested.short "app.json"
  obtain ⟨m, hm, hkeys, hget, hsize, -⟩ := hgood hplain
  refine ⟨m, hm, ?_, ?_, ?_, ?_⟩
  · rw [hkeys]
    decide +kernel
  · rw [hget]
    decide +kernel
  · rw [hget]
    decide +kernel
  · rw [hsize hdistinct hdots]
    rfl

end Source

end LayeredConfig
