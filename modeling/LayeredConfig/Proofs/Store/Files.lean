import LayeredConfig.Proofs.Store.Memory
import LayeredConfig.Proofs.Text.Split
import LayeredConfig.Store.Files

/-!
# Sources in a file tree: what saving leaves

A save fills a temporary file beside the source and moves it to the place of the source. Where directories lead to
both (`FileTree.Plain`) and the temporary file is no link, the source then has the bytes that were written.

* **`walk_plain`**, **`walk_single`** — a walk through directories, and its last step.
* **`nodeAt?_put`**, **`nodeAt?_erase`** — what a change does to other locations.
* **`FileStore.read_persist`** — the source after a save that succeeded.
-/

namespace LayeredConfig

namespace FileTree

variable {t t' : FileTree} {l k current : Location} {node : Node} {name : Text} {above : List Text}

/-! ## Changes of a tree -/

/-- What is filtered out by its location is not found. -/
theorem lookup_filter (p : Location → Bool) (k : Location) (nodes : List (Location × Node)) :
    (nodes.filter fun e => p e.1).lookup k = if p k then nodes.lookup k else none := by
  induction nodes with
  | nil => simp
  | cons e rest ih =>
    obtain ⟨j, node⟩ := e
    by_cases hk : k = j
    · subst hk
      by_cases hp : p k <;> simp [hp, ih]
    · have hne : (k == j) = false := by simpa using hk
      by_cases hp : p j <;> simp [hp, ih, List.lookup_cons, hne]

/-- A change at a location is seen there and nowhere else. -/
theorem nodeAt?_put (hl : l ≠ []) (t : FileTree) (node : Node) (k : Location) :
    (t.put l node).nodeAt? k = if k = l then some node else t.nodeAt? k := by
  have hlookup : (t.put l node).nodes.lookup k = if k = l then some node else t.nodes.lookup k := by
    show ((t.nodes.filter fun e => decide (e.1 ≠ l)) ++ [(l, node)]).lookup k = _
    rw [List.lookup_append, lookup_filter (fun k => decide (k ≠ l))]
    by_cases hk : k = l
    · simp [hk]
    · have hne : (k == l) = false := by simpa using hk
      simp [hk, List.lookup_cons, hne]
  cases k with
  | nil =>
    have hne : [] ≠ l := hl.symm
    simp [nodeAt?, hne]
  | cons part rest =>
    rw [nodeAt?, nodeAt?, hlookup]
    rfl

/-- What was put in a directory is there. -/
theorem nodeAt?_put_self (t : FileTree) (dir : Location) (last : Text) (node : Node) :
    (t.put (dir ++ [last]) node).nodeAt? (dir ++ [last]) = some node := by
  rw [nodeAt?_put (List.append_ne_nil_of_right_ne_nil _ (List.cons_ne_nil _ _)), if_pos rfl]

/-- What is taken away goes with all that stands below it. -/
theorem nodeAt?_erase (hl : l ≠ []) (t : FileTree) (k : Location) :
    (t.erase l).nodeAt? k = if l.isPrefixOf k then none else t.nodeAt? k := by
  have hlookup : (t.erase l).nodes.lookup k = if l.isPrefixOf k then none else t.nodes.lookup k := by
    show (t.nodes.filter fun e => !l.isPrefixOf e.1).lookup k = _
    rw [lookup_filter fun k => !l.isPrefixOf k]
    cases l.isPrefixOf k <;> rfl
  cases k with
  | nil =>
    have hnot : l.isPrefixOf [] = false := by
      cases l with
      | nil => exact absurd rfl hl
      | cons part rest => rfl
    rw [hnot]
    rfl
  | cons part rest =>
    rw [nodeAt?, nodeAt?, hlookup]
    rfl

/-! ## Walking through directories -/

/-- From a location on, each part names a directory. -/
def Plain (t : FileTree) : Location → List Text → Prop
  | _, [] => True
  | current, part :: rest =>
    part ≠ ".." ∧ isTooLong part = false ∧ t.nodeAt? (current ++ [part]) = some .directory ∧
      Plain t (current ++ [part]) rest

/-- What stands further down does not matter. -/
theorem Plain.congr (h : t.Plain current above)
    (hsame : ∀ k, k.length ≤ current.length + above.length → t'.nodeAt? k = t.nodeAt? k) :
    t'.Plain current above := by
  induction above generalizing current with
  | nil => trivial
  | cons part rest ih =>
    obtain ⟨hpart, hlong, hnode, hrest⟩ := h
    refine ⟨hpart, hlong, ?_, ih hrest fun k hk => hsame k ?_⟩
    · rw [hsame _ (by simp), hnode]
    · simp only [List.length_append, List.length_cons, List.length_nil] at hk ⊢
      omega

/-- A walk goes through directories as the path names them. -/
theorem walk_plain (h : t.Plain current above) (followLast : Bool) (links : Nat) (rest : List Text) :
    t.walk followLast links current (above ++ rest) = t.walk followLast links (current ++ above) rest := by
  induction above generalizing current with
  | nil => simp
  | cons part above ih =>
    obtain ⟨hpart, hlong, hnode, habove⟩ := h
    rw [List.cons_append, walk]
    simp only [hpart, if_false, hlong, Bool.false_eq_true, hnode]
    rw [ih habove]
    simp

/-- What stands at a location in a directory. -/
def place (t : FileTree) (l : Location) : Place :=
  match t.nodeAt? l with
  | some node => .taken l node
  | none => .free l

/-- The last step of a walk, if it follows no link. -/
theorem walk_single {followLast : Bool} (links : Nat) (hlast : ∀ target,
    t.nodeAt? (current ++ [name]) = some (.link target) → followLast = false) :
    t.walk followLast links current [name] =
      if name = ".." then .ok (.taken current.dropLast .directory)
      else if isTooLong name then .error .nameTooLong
      else .ok (t.place (current ++ [name])) := by
  rw [walk]
  split
  · rw [walk]
  · split
    · rfl
    · rw [place]
      cases hnode : t.nodeAt? (current ++ [name]) with
      | none => rfl
      | some node =>
        cases node with
        | directory => simp only [walk]
        | file data => rfl
        | link target =>
          rw [hlast target hnode]
          rfl

/-! ## Access to a file in such a directory -/

/-- Where a walk along a path begins. -/
def start (t : FileTree) (p : Path) : Location :=
  if p.isAbsolute then [] else t.workingDirectory

/-- Looking whether a directory is there changes nothing. -/
theorem acceptDirectory_fst (t : FileTree) (e : PathFault) (p : Path) : (t.acceptDirectory e p).1 = t := by
  rw [acceptDirectory]
  split <;> rfl

/-- Directories that are there are not made again. -/
theorem makeDirectories_of_plain {p : Path} (h : t.Plain (t.start p) p.parts) : (t.makeDirectories p).1 = t := by
  rw [makeDirectories]
  cases hparts : p.parts.reverse with
  | nil => exact acceptDirectory_fst t _ _
  | cons part above =>
    have hpath : Path.mk p.root (part :: above).reverse = p := by rw [← hparts, List.reverse_reverse]
    have hwalk : t.locate false p = .ok (.taken (t.start p ++ p.parts) .directory) := by
      have hplain := walk_plain h false linkLimit []
      rw [List.append_nil] at hplain
      exact hplain.trans (by rw [walk])
    rw [makeAll, hpath]
    cases checkPath p with
    | error e => rfl
    | ok u =>
      rw [makeDirectory, hwalk]
      exact acceptDirectory_fst t _ _

/-- The path ends in a name, and directories lead to where that is looked for. -/
def At (t : FileTree) (p : Path) (dir : Location) (name : Text) : Prop :=
  ∃ above, p.parts = above ++ [name] ∧ dir = t.start p ++ above ∧ t.Plain (t.start p) above

variable {p source target : Path} {dir : Location}

/-- Where a path leads is settled by what stands above its end. -/
theorem At.congr (h : t.At p dir name) (hworking : t'.workingDirectory = t.workingDirectory)
    (hsame : ∀ k, k.length ≤ dir.length → t'.nodeAt? k = t.nodeAt? k) : t'.At p dir name := by
  obtain ⟨above, hparts, rfl, hplain⟩ := h
  have hstart : t'.start p = t.start p := by rw [start, start, hworking]
  refine ⟨above, hparts, by rw [hstart], ?_⟩
  rw [hstart]
  exact hplain.congr fun k hk => hsame k (by simpa using hk)

/-- What changes in the last directory does not move the path. -/
theorem At.put (h : t.At p dir name) (last : Text) (node : Node) : (t.put (dir ++ [last]) node).At p dir name := by
  refine h.congr rfl fun k hk => ?_
  have hne : k ≠ dir ++ [last] := by
    rintro rfl
    rw [List.length_append, List.length_singleton] at hk
    omega
  rw [nodeAt?_put (List.append_ne_nil_of_right_ne_nil _ (List.cons_ne_nil _ _)), if_neg hne]

/-- What is taken away in the last directory does not move the path. -/
theorem At.erase (h : t.At p dir name) (last : Text) : (t.erase (dir ++ [last])).At p dir name := by
  refine h.congr rfl fun k hk => ?_
  have hkept : (dir ++ [last]).isPrefixOf k = false := by
    refine Bool.eq_false_iff.mpr fun hprefix => ?_
    have hle := (List.isPrefixOf_iff_prefix.mp hprefix).length_le
    rw [List.length_append, List.length_singleton] at hle
    omega
  rw [nodeAt?_erase (List.append_ne_nil_of_right_ne_nil _ (List.cons_ne_nil _ _)), hkept, if_neg Bool.false_ne_true]

/-- Where such a path leads, if its last part is no link that is followed. -/
theorem locate_eq (followLast : Bool) (h : t.At p dir name) (hlast : ∀ target,
    t.nodeAt? (dir ++ [name]) = some (.link target) → followLast = false) :
    t.locate followLast p =
      if name = ".." then .ok (.taken dir.dropLast .directory)
      else if isTooLong name then .error .nameTooLong
      else .ok (t.place (dir ++ [name])) := by
  obtain ⟨above, hparts, rfl, hplain⟩ := h
  have hwalk := walk_plain hplain followLast linkLimit [name]
  rw [← hparts] at hwalk
  exact hwalk.trans (walk_single linkLimit hlast)

/-- A file that could be opened for writing is empty then, at the place of its path. -/
theorem openFile_eq_ok (hat : t.At p dir name) (hlink : ∀ target, t.nodeAt? (dir ++ [name]) ≠ some (.link target))
    (h : t.openFile p = .ok (l, t')) :
    checkPath p = .ok () ∧ name ≠ ".." ∧ isTooLong name = false ∧ l = dir ++ [name] ∧ t' = t.put l (.file []) := by
  have hlocate := locate_eq true hat fun target hnode => absurd hnode (hlink target)
  rw [openFile] at h
  cases hcheck : checkPath p with
  | error e =>
    rw [hcheck] at h
    cases h
  | ok u =>
    rw [hcheck, hlocate] at h
    by_cases hname : name = ".."
    · rw [if_pos hname] at h
      cases h
    · rw [if_neg hname] at h
      cases hlong : isTooLong name with
      | true =>
        rw [hlong] at h
        cases h
      | false =>
        rw [hlong, place] at h
        refine ⟨rfl, hname, rfl, ?_⟩
        -- a file is made where there is nothing, and one that is there is emptied
        cases hnode : t.nodeAt? (dir ++ [name]) with
        | none =>
          rw [hnode] at h
          cases h
          exact ⟨rfl, rfl⟩
        | some node =>
          rw [hnode] at h
          cases node with
          | directory => cases h
          | link target => exact absurd hnode (hlink target)
          | file data =>
            cases h
            exact ⟨rfl, rfl⟩

/-- A file that is renamed stands at its new path, and no longer at the old one. -/
theorem rename_eq_ok {old : Text} {data : List UInt8} (hsource : t.At source dir old) (htarget : t.At target dir name)
    (hold : old ≠ "..") (hlong : isTooLong old = false) (hfile : t.nodeAt? (dir ++ [old]) = some (.file data))
    (h : t.rename source target = .ok t') :
    name ≠ ".." ∧ isTooLong name = false ∧ t' = (t.erase (dir ++ [old])).put (dir ++ [name]) (.file data) := by
  have hfrom : t.locate false source = .ok (.taken (dir ++ [old]) (.file data)) := by
    rw [locate_eq _ hsource fun _ _ => rfl, if_neg hold, hlong, place, hfile]
    rfl
  have hname : target.name = name := by
    obtain ⟨above, hparts, -⟩ := htarget
    rw [Path.name, hparts, List.getLastD_concat]
  -- a rename that succeeds is a move that does
  have hmove : t.move source target = .ok t' := by
    rw [rename] at h
    cases hmove : t.move source target with
    | error e =>
      rw [hmove] at h
      cases h
    | ok t'' =>
      rw [hmove] at h
      exact congrArg Except.ok (Except.ok.inj h)
  rw [move, hname, hfrom, locate_eq _ htarget fun _ _ => rfl] at hmove
  by_cases hdots : name = ".."
  · rw [if_pos hdots] at hmove
    cases hmove
  · rw [if_neg hdots, if_neg hdots] at hmove
    cases hlong' : isTooLong name with
    | true =>
      rw [hlong'] at hmove
      cases hmove
    | false =>
      rw [hlong', place] at hmove
      refine ⟨hdots, rfl, ?_⟩
      cases hnode : t.nodeAt? (dir ++ [name]) with
      | none =>
        rw [hnode] at hmove
        exact (Except.ok.inj hmove).symm
      | some node =>
        rw [hnode] at hmove
        cases node with
        | directory => cases hmove
        | file data => exact (Except.ok.inj hmove).symm
        | link target => exact (Except.ok.inj hmove).symm

/-- A file is read at its path. -/
theorem read_of_file {data : List UInt8} (hat : t.At p dir name) (hname : name ≠ "..") (hlong : isTooLong name = false)
    (hfile : t.nodeAt? (dir ++ [name]) = some (.file data)) (hcheck : checkPath p = .ok ()) : t.read p = .ok data := by
  have hlocate : t.locate true p = .ok (.taken (dir ++ [name]) (.file data)) := by
    rw [locate_eq _ hat (fun target hlink => nomatch hfile.symm.trans hlink), if_neg hname, hlong, place, hfile]
    rfl
  rw [read, hcheck, find, hlocate]
  rfl

/-- A file that took the place of another one is what is read there. -/
theorem read_of_rename {old : Text} {data : List UInt8} (hsource : t.At source dir old) (htarget : t.At target dir name)
    (hold : old ≠ "..") (hlong : isTooLong old = false) (hfile : t.nodeAt? (dir ++ [old]) = some (.file data))
    (hcheck : checkPath target = .ok ()) (h : t.rename source target = .ok t') : t'.read target = .ok data := by
  obtain ⟨hname, hlong', rfl⟩ := rename_eq_ok hsource htarget hold hlong hfile h
  have hat := (htarget.erase old).put name (.file data)
  exact read_of_file hat hname hlong' (nodeAt?_put_self _ dir name (.file data)) hcheck

/-! ## A file and the one beside it -/

/-- A longer name is a longer last part. -/
theorem parts_extend {above : List Text} (h : p.parts = above ++ [name]) (tail : Text) :
    (p.extend tail).parts = above ++ [name ++ tail] := by
  rw [Path.extend, Path.child, Path.parent, Path.name, h, List.dropLast_concat, List.getLastD_concat]

/-- The file with the longer name is in the same directory. -/
theorem At.extend (h : t.At p dir name) (tail : Text) : t.At (p.extend tail) dir (name ++ tail) := by
  obtain ⟨above, hparts, rfl, hplain⟩ := h
  exact ⟨above, parts_extend hparts tail, rfl, hplain⟩

/-- With a longer name, the text of a path is longer by as much. -/
theorem toText_extend (h : t.At p dir name) (tail : Text) : (p.extend tail).toText = p.toText ++ tail := by
  obtain ⟨above, hparts, -, -⟩ := h
  have hextended : (p.extend tail).parts = above ++ [name ++ tail] := parts_extend hparts tail
  have hroot : (p.extend tail).root = p.root := rfl
  have hshown : ∀ q : Path, q.parts ≠ [] → q.toText = q.root ++ Text.join "/" q.parts := by
    intro q hq
    rw [Path.toText, if_neg]
    simp [hq]
  rw [hshown _ (by simp [hextended]), hshown p (by simp [hparts]), hextended, hroot, hparts, Text.join_concat,
    Text.join_concat]
  simp only [List.append_assoc]

/-- A path can be used if it can with something at its end. -/
theorem checkPath_of_extend {tail : Text} (hat : t.At p dir name) (h : checkPath (p.extend tail) = .ok ()) :
    checkPath p = .ok () := by
  rw [checkPath, toText_extend hat] at h
  cases hencode : Utf8.encode (p.toText ++ tail) with
  | error e =>
    rw [hencode] at h
    cases h
  | ok bytes =>
    obtain ⟨hwritable, hbytes⟩ := Utf8.encode_eq_ok_iff.mp hencode
    have hpath := Utf8.encode_eq_ok_iff.mpr ⟨(Text.writable_append.mp hwritable).1, rfl⟩
    have hzero : bytes.contains 0 = false := by
      rw [hencode] at h
      refine Bool.eq_false_iff.mpr fun hcontains => ?_
      simp only [hcontains, if_true] at h
      cases h
    rw [hbytes, List.flatMap_append, List.contains_eq_mem, decide_eq_false_iff_not, List.mem_append, not_or] at hzero
    rw [checkPath, hpath]
    simp only [List.contains_eq_mem, hzero.1, decide_false, Bool.false_eq_true, if_false]

end FileTree

namespace FileStore

open FileTree

variable {s : FileStore} {location : Text} {values : OrderedMap Value}

/-- Directories lead to the source, and there is no link at the place of the temporary file. -/
structure Regular (s : FileStore) (location : Text) : Prop where
  directories : s.tree.Plain (s.tree.start (Path.ofText location)) (Path.ofText location).parent.parts
  temporary : ∀ target, s.tree.nodeAt? (s.tree.start (Path.ofText location) ++ (Path.ofText location).parent.parts ++
    [(Path.ofText location).name ++ ".tmp"]) ≠ some (.link target)

/-- The place of the source, once it is known to have a name. -/
theorem Regular.at (h : s.Regular location) (hname : (Path.ofText location).name ≠ []) :
    s.tree.At (Path.ofText location) (s.tree.start (Path.ofText location) ++ (Path.ofText location).parent.parts)
      (Path.ofText location).name := by
  refine ⟨(Path.ofText location).parent.parts, ?_, rfl, h.directories⟩
  rcases List.eq_nil_or_concat (Path.ofText location).parts with hnil | ⟨above, last, hparts⟩
  · rw [Path.name, hnil] at hname
    exact absurd rfl hname
  · rw [Path.parent, Path.name, hparts, List.concat_eq_append, List.dropLast_concat, List.getLastD_concat]

/-- What a file that takes the place of a source leaves. -/
theorem read_replace {t t' : FileTree} {source : Path} {dir : Location} {name text : Text}
    (hat : t.At source dir name) (hlink : ∀ target, t.nodeAt? (dir ++ [name ++ ".tmp"]) ≠ some (.link target))
    (h : replace t source (source.extend ".tmp") text = (t', .ok ())) :
    ∃ data, Utf8.encode text = .ok data ∧ t'.read source = .ok data := by
  rw [replace] at h
  cases hopen : t.openFile (source.extend ".tmp") with
  | error e =>
    rw [hopen] at h
    cases h
  | ok opened =>
    obtain ⟨l, t₁⟩ := opened
    obtain ⟨hcheck, hdots, hlong, rfl, rfl⟩ := openFile_eq_ok (hat.extend ".tmp") hlink hopen
    rw [hopen] at h
    cases hencode : Utf8.encode text with
    | error e =>
      rw [hencode] at h
      cases h
    | ok data =>
      refine ⟨data, rfl, ?_⟩
      simp only [hencode] at h
      split at h
      · rename_i t₂ hrename
        obtain ⟨rfl, -⟩ := Prod.mk.inj h
        -- the temporary file is made and then filled, and neither moves the two paths
        have hfilled := (hat.put (name ++ ".tmp") (.file [])).put (name ++ ".tmp") (.file data)
        exact read_of_rename (hfilled.extend ".tmp") hfilled hdots hlong (nodeAt?_put_self _ dir _ _)
          (checkPath_of_extend hat hcheck) hrename
      · cases h

/-- A path without a name has no temporary file beside it. -/
theorem temporary_of_nameless {p : Path} (h : p.name = []) : temporary p = .error (.namelessPath p.toText) := by
  rw [temporary, h]
  rfl

/-- Beside a path with a name there is a temporary file, with a longer name. -/
theorem temporary_of_named {p : Path} (h : p.name ≠ []) : temporary p = .ok (p.extend ".tmp") := by
  rw [temporary, if_neg]
  simpa using h

/-- **A save that succeeded**: the source has the bytes of the text that was written. -/
theorem read_persist {values : OrderedMap RawValue} (hregular : s.Regular location)
    (h : (s.persist location (values.mapValues RawValue.toValue)).result = .ok ()) :
    ∃ data, Utf8.encode (Properties.write (values.mapValues RawValue.decoded) []) = .ok data ∧
      (s.persist location (values.mapValues RawValue.toValue)).state.read location = .ok data := by
  have hmade : (s.tree.makeDirectories (Path.ofText location).parent).1 = s.tree :=
    makeDirectories_of_plain hregular.directories
  have hsave : ∃ t', save s.tree (Path.ofText location) (values.mapValues RawValue.toValue) = (t', .ok ()) ∧
      (s.persist location (values.mapValues RawValue.toValue)).state.tree = t' := by
    rw [persist] at h ⊢
    exact ⟨_, Prod.ext rfl h, rfl⟩
  obtain ⟨t', hsave, htree⟩ := hsave
  rw [save] at hsave
  rcases hdirectories : s.tree.makeDirectories (Path.ofText location).parent with ⟨t, e | u⟩
  · rw [hdirectories] at hsave
    cases hsave
  · rw [hdirectories] at hsave hmade
    obtain rfl : t = s.tree := hmade
    -- a path without a name has no temporary file beside it, so nothing is written there
    by_cases hname : (Path.ofText location).name = []
    · rw [temporary_of_nameless hname] at hsave
      cases hsave
    · rw [temporary_of_named hname, Properties.dump_toValue] at hsave
      obtain ⟨data, hencode, hread⟩ := read_replace (hregular.at hname) hregular.temporary hsave
      refine ⟨data, hencode, ?_⟩
      rw [read, htree]
      exact hread

end FileStore

end LayeredConfig
