import LayeredConfig.Proofs.Log.Line
import LayeredConfig.Proofs.Text.Utf8

/-!
# What log files tell

Files that are rotated lose the oldest events, and nothing else of what is written to them. They are the last ones of a
series in which each tells of a part of the events, in order, with no line divided between two files
(`LogFiles.Tell`). Rotating the files and adding a line to them keep this (`LogFiles.Tell.rotate`,
`LogFiles.Tell.add`), so it holds after every run (**`Output.tell_files`**).

An event whose line has a surrogate is not among those that are told of, though it is admitted (`Output.keeps_iff`).
-/

namespace LayeredConfig.Log

variable {e : Event} {events : List Event} {f : LogFiles} {line : Text}

/-! ## A log that grows -/

theorem tells_nil : Tells [] [] :=
  ⟨[], rfl, .nil⟩

/-- One more line is one more event that is told of. -/
theorem Tells.append {log : Text} (h : Tells log events) (hline : e.Reported line) :
    Tells (log ++ (line ++ [CodePoint.ofChar '\n'])) (events ++ [e]) := by
  obtain ⟨lines, hsplit, hlines⟩ := h
  refine ⟨lines ++ [line], ?_, List.rel_append hlines (.cons hline .nil)⟩
  rw [Text.splitOn_append_of_ended hsplit, Text.splitOn_append hline.plain.notMem_newline, List.append_assoc]
  rfl

/-- The bytes of a log of events. -/
def TellsBytes (bytes : List UInt8) (events : List Event) : Prop :=
  ∃ log, Utf8.encode log = .ok bytes ∧ Tells log events

theorem tellsBytes_nil : TellsBytes [] [] :=
  ⟨[], rfl, tells_nil⟩

/-- The bytes of one more line, behind those of the log. -/
theorem TellsBytes.append {bytes more : List UInt8} (h : TellsBytes bytes events) (hline : e.Reported line)
    (hmore : Utf8.encode (line ++ [CodePoint.ofChar '\n']) = .ok more) :
    TellsBytes (bytes ++ more) (events ++ [e]) := by
  obtain ⟨log, hlog, htells⟩ := h
  exact ⟨_, Utf8.encode_append hlog hmore, htells.append hline⟩

/-! ## Files that are rotated -/

namespace LogFiles

/-- The files are the last ones of a series. Each of it tells of a part of the events, and only so many of the full ones
are left. -/
def Tell (f : LogFiles) (events : List Event) : Prop :=
  ∃ full parts last, f.earlier = full.reverse.take earlierLimit ∧ List.Forall₂ TellsBytes full parts ∧
    TellsBytes f.current last ∧ events = parts.flatten ++ last

theorem tell_empty : empty.Tell [] :=
  ⟨[], [], [], rfl, .nil, tellsBytes_nil, rfl⟩

/-- Putting the file aside moves it to the full ones, and the new one tells of nothing yet. -/
theorem Tell.rotate (h : f.Tell events) : f.rotate.Tell events := by
  obtain ⟨full, parts, last, hearlier, hparts, hlast, rfl⟩ := h
  refine ⟨full ++ [f.current], parts ++ [last], [], ?_, List.rel_append hparts (.cons hlast .nil), tellsBytes_nil, ?_⟩
  · show (f.current :: f.earlier).take earlierLimit = _
    -- what is cut off twice is cut off once
    rw [hearlier, List.reverse_append, List.reverse_singleton, List.singleton_append, earlierLimit,
      List.take_succ_cons, List.take_succ_cons, List.take_take]
    rfl
  · rw [List.flatten_append, List.flatten_singleton, List.append_nil]

/-- Whether or not there was room, nothing is told otherwise. -/
theorem Tell.makeRoom (h : f.Tell events) (line : Text) : (f.makeRoom line).Tell events := by
  rw [LogFiles.makeRoom]
  split
  · exact h.rotate
  · exact h

/-- A line without bytes adds nothing, though the files may have been rotated for it. -/
theorem Tell.add_of_not_writable (h : f.Tell events) (hline : ¬ line.Writable) : (f.add line).Tell events := by
  have hroom := h.makeRoom line
  rw [LogFiles.add]
  cases hencode : Utf8.encode line with
  | error fault => exact hroom
  | ok bytes => exact absurd (Utf8.encode_eq_ok_iff.mp hencode).1 hline

/-- **The line of an event** that has bytes is told of by the file that is written. -/
theorem Tell.add (h : f.Tell events) (hline : e.Reported line) (hwritable : line.Writable) :
    (f.add (line ++ [CodePoint.ofChar '\n'])).Tell (events ++ [e]) := by
  have hended : (line ++ [CodePoint.ofChar '\n']).Writable :=
    Text.writable_append.mpr ⟨hwritable, by decide⟩
  have hencode := Utf8.encode_eq_ok_iff.mpr ⟨hended, rfl⟩
  -- after making room the line goes into the file that is written, whole
  obtain ⟨full, parts, last, hearlier, hparts, hlast, hevents⟩ := h.makeRoom (line ++ [CodePoint.ofChar '\n'])
  rw [LogFiles.add, hencode]
  exact ⟨full, parts, last ++ [e], hearlier, hparts, hlast.append hline hencode, by rw [hevents, List.append_assoc]⟩

/-- As long as no file was put aside, the one that is written tells of everything. -/
theorem Tell.whole (h : f.Tell events) (hnone : f.earlier = []) : TellsBytes f.current events := by
  obtain ⟨full, parts, last, hearlier, hparts, hlast, rfl⟩ := h
  obtain rfl : full = [] := by simpa [earlierLimit] using hnone.symm.trans hearlier
  obtain rfl := List.forall₂_nil_left_iff.mp hparts
  exact hlast

end LogFiles

/-! ## The files of an output -/

namespace Output

variable {o : Output}

/-- Whether the line of an event gets into the files. -/
def keeps (o : Output) (e : Event) : Bool :=
  o.admits e && !o.isLost e

/-- A line is lost for a surrogate, and for nothing else. -/
theorem isLost_eq_false_iff : o.isLost e = false ↔ (e.line o.form).Writable := by
  rw [isLost, List.any_eq_false]
  exact forall₂_congr fun c _ => iff_of_eq (Bool.not_eq_true _)

/-- The files get the events that are admitted and have no surrogate in their texts. -/
theorem keeps_iff (hform : o.form = .json) (h : e.Textual) :
    o.keeps e = true ↔ o.admits e = true ∧ ∀ name t, e.text? name = some t → t.Writable := by
  rw [keeps, Bool.and_eq_true, Bool.not_eq_true', isLost_eq_false_iff, hform, ← Event.writable_jsonLine h]
  rfl

/-- What one event adds to what the files tell of. -/
theorem tell_fileStep (hform : o.form = .json) (h : e.Textual) (hf : f.Tell events) :
    (o.fileStep f e).Tell (events ++ [e].filter o.keeps) := by
  have hended : o.ended e = e.jsonLine ++ [CodePoint.ofChar '\n'] := ended_eq hform e
  have hline : e.line o.form = e.jsonLine := by rw [hform]; rfl
  rw [fileStep, List.filter_singleton, keeps]
  cases hadmits : o.admits e with
  | false => simpa using hf
  | true =>
    rw [if_pos rfl, hended]
    cases hlost : o.isLost e with
    | true =>
      have hnot : ¬ (e.jsonLine ++ [CodePoint.ofChar '\n']).Writable := by
        rw [Text.writable_append, ← hline, ← isLost_eq_false_iff, hlost]
        simp
      simpa using hf.add_of_not_writable hnot
    | false =>
      have hwritable : e.jsonLine.Writable := hline ▸ isLost_eq_false_iff.mp hlost
      exact hf.add (Event.reported_jsonLine h) hwritable

/-- **The log files** after a run tell of what they told of before, and then of the events that get into them. -/
theorem tell_files (hform : o.form = .json) (h : ∀ e ∈ events, e.Textual) {start : LogFiles} {past : List Event}
    (hstart : start.Tell past) : (o.files start events).Tell (past ++ events.filter o.keeps) := by
  induction events generalizing start past with
  | nil => simpa [files] using hstart
  | cons e rest ih =>
    obtain ⟨he, hrest⟩ := List.forall_mem_cons.mp h
    have hsplit : (e :: rest).filter o.keeps = [e].filter o.keeps ++ rest.filter o.keeps :=
      List.filter_append [e] rest
    rw [hsplit, ← List.append_assoc]
    exact ih hrest (tell_fileStep hform he hstart)

/-- A log that began without files and has put none aside is all in one file. -/
theorem tellsBytes_files (hform : o.form = .json) (h : ∀ e ∈ events, e.Textual)
    (hnone : (o.files .empty events).earlier = []) :
    TellsBytes (o.files .empty events).current (events.filter o.keeps) :=
  (tell_files hform h LogFiles.tell_empty).whole hnone

end Output

end LayeredConfig.Log
