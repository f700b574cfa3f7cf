import LayeredConfig.Log.Output
import LayeredConfig.Proofs.Json.Plain
import LayeredConfig.Proofs.Json.Sorted
import LayeredConfig.Proofs.Text.Split

/-!
# Logs of JSON lines

In the JSON form the line of an event is an object whose members have the texts of the event, and it has no line break.
Keys, sources, and the values in messages come from configuration files, so nothing is assumed of what is in the texts.
What is written under distinct names is a map (`Event.report`), and maps are read as they were written
(`Json.read_write`); lines without a line break are told from each other where the log is split (`Text.splitOn_lines`).

* `Event.text?` says what an event has under each name.
* **`Event.reported_jsonLine`** — what the line of one event is read as.
* **`tells_lines`** — what a log of many is read as.
* **`Output.one_object_per_line`** — each line, and the text that every place of an output is given.
* `Output.console_eq_given` — when the console has that text and nothing else. What becomes of it in files is told with
  their rotation.
-/

namespace LayeredConfig

/-! ## Maps over names -/

namespace OrderedMap

variable {α : Type}

/-- What a function has under some names. -/
def ofNames (names : List Text) (hnames : names.Nodup) (f : Text → Option α) : OrderedMap α where
  entries := names.filterMap fun name => (f name).map (name, ·)
  nodup := by
    have hkeys : (names.filterMap fun name => (f name).map (name, ·)).map Prod.fst =
        names.filter fun name => (f name).isSome := by
      rw [List.map_filterMap, ← List.filterMap_eq_filter]
      refine List.filterMap_congr fun name _ => ?_
      cases hf : f name <;> simp [Option.guard, hf]
    rw [hkeys]
    exact hnames.filter _

/-- The names are enough if there is nothing under any other. -/
theorem get?_ofNames {names : List Text} (hnames : names.Nodup) {f : Text → Option α}
    (hf : ∀ name value, f name = some value → name ∈ names) (name : Text) :
    (ofNames names hnames f).get? name = f name := by
  refine Option.ext fun value => ?_
  rw [get?_eq_some_iff, ofNames, List.mem_filterMap]
  constructor
  · rintro ⟨name', -, h⟩
    obtain ⟨value', hvalue, hpair⟩ := Option.map_eq_some_iff.mp h
    obtain ⟨rfl, rfl⟩ := Prod.mk.inj hpair
    exact hvalue
  · intro h
    exact ⟨name, hf name value h, by rw [h]; rfl⟩

end OrderedMap

namespace Log

namespace Event

/-! ## What an event has under a name -/

/-- A text of the context; nothing else counts. -/
def contextText? (e : Event) (name : Text) : Option Text :=
  match e.record.context.lookup name with
  | some (.text t) => some t
  | _ => none

/-- The texts of an event under their names: four that each event has, those of the context, and its error. -/
def text? (e : Event) (name : Text) : Option Text :=
  if name = "time" then some e.moment
  else if name = "level" then some e.record.level.name
  else if name = "logger" then some e.record.logger
  else if name = "message" then some e.record.message
  else if name ∈ contextFields then e.contextText? name
  else if name = "error" then e.error
  else none

/-- The context that is written holds texts, or no value. -/
def Textual (e : Event) : Prop :=
  ∀ name ∈ contextFields, ∀ j, e.record.context.lookup name = some j → j = .null ∨ ∃ t, j = .text t

/-- A line that is read as an object with the texts of the event, and that has no line break. -/
structure Reported (e : Event) (line : Text) : Prop where
  plain : line.Plain
  object : ∃ m : OrderedMap Text, Json.read line = .ok (.ofMap (m.mapValues .text)) ∧
    ∀ name, m.get? name = e.text? name

/-- The names of the texts that each event has. -/
def fixedNames : List Text :=
  ["time", "level", "logger", "message"]

/-- All names under which an event can have a text. -/
def names : List Text :=
  fixedNames ++ contextFields ++ [Text.ofString "error"]

theorem nodup_names : names.Nodup := by decide

variable {e : Event}

/-- There is nothing under any other name. -/
theorem mem_names_of_text? (name t : Text) (h : e.text? name = some t) : name ∈ names := by
  by_contra hnot
  simp only [names, fixedNames, List.mem_append, List.mem_cons, List.not_mem_nil, or_false, not_or] at hnot
  obtain ⟨⟨⟨htime, hlevel, hlogger, hmessage⟩, hcontext⟩, herror⟩ := hnot
  rw [text?, if_neg htime, if_neg hlevel, if_neg hlogger, if_neg hmessage, if_neg hcontext, if_neg herror] at h
  cases h

/-- A name of the context is none of the four that each event has. -/
theorem text?_context {name : Text} (h : name ∈ contextFields) : e.text? name = e.contextText? name := by
  have hother : ∀ name ∈ contextFields, name ≠ "time" ∧ name ≠ "level" ∧ name ≠ "logger" ∧ name ≠ "message" := by
    decide
  obtain ⟨htime, hlevel, hlogger, hmessage⟩ := hother name h
  rw [text?, if_neg htime, if_neg hlevel, if_neg hlogger, if_neg hmessage, if_pos h]

/-- The event as a map. -/
def report (e : Event) : OrderedMap Text :=
  .ofNames names nodup_names e.text?

/-- The map says under each name what the event has there. -/
theorem get?_report (name : Text) : e.report.get? name = e.text? name :=
  OrderedMap.get?_ofNames nodup_names mem_names_of_text? name

/-! ## The line of an event -/

/-- A member of the context is written where there is a text, and a missing value is left out. -/
theorem contextMember?_eq (h : e.Textual) {name : Text} (hname : name ∈ contextFields) :
    e.contextMember? name = (e.contextText? name).map fun t => (name, .text t) := by
  rw [contextMember?, contextText?]
  cases hlookup : e.record.context.lookup name with
  | none => rfl
  | some j =>
    obtain rfl | ⟨t, rfl⟩ := h name hname j hlookup
    · rfl
    · rfl

/-- The members are those of the map, in the order of the names. -/
theorem members_eq (h : e.Textual) : e.members = (e.report.mapValues Json.text).entries := by
  have hreport : (e.report.mapValues Json.text).entries =
      names.filterMap fun name => (e.text? name).map fun t => (name, .text t) := by
    show (names.filterMap fun name => (e.text? name).map (name, ·)).map (fun m => (m.1, Json.text m.2)) = _
    rw [List.map_filterMap]
    refine List.filterMap_congr fun name _ => ?_
    rw [Option.map_map]
    rfl
  -- the names come in three groups, as the members do; the first one needs no case
  have hcontext : (contextFields.filterMap fun name => (e.text? name).map fun t => (name, Json.text t)) =
      e.contextMembers := by
    refine List.filterMap_congr fun name hname => ?_
    rw [text?_context hname, contextMember?_eq h hname]
  have herror : ([Text.ofString "error"].filterMap fun name => (e.text? name).map fun t => (name, Json.text t)) =
      e.errorMembers := by
    have htext : e.text? "error" = e.error := rfl
    rw [errorMembers, List.filterMap_cons, List.filterMap_nil, htext]
    cases e.error <;> rfl
  rw [hreport, names, List.filterMap_append, List.filterMap_append, hcontext, herror]
  rfl

/-- **The line of an event** is one object with the texts of the event. -/
theorem reported_jsonLine (h : e.Textual) : e.Reported e.jsonLine := by
  have hline : e.jsonLine = (Json.ofTextsMap (e.report.mapValues .inl)).write .spaced := by
    rw [jsonLine, members_eq h, Json.ofTextsMap, OrderedMap.mapValues_mapValues]
    rfl
  -- members are written in the order of their names, so the map that is read is the sorted one
  refine ⟨Json.plain_write JsonLayout.plain_spaced _, e.report.sorted, ?_, fun name => ?_⟩
  · rw [hline, Json.read_write JsonLayout.legible_spaced, Json.ofTextsMap, OrderedMap.sorted_mapValues,
      OrderedMap.mapValues_mapValues]
    rfl
  · rw [OrderedMap.get?_sorted, get?_report]

/-- A line has bytes if the texts of the event have. -/
theorem writable_jsonLine (h : e.Textual) :
    e.jsonLine.Writable ↔ ∀ name t, e.text? name = some t → t.Writable := by
  have hall : ∀ name ∈ names, name.Writable := by decide
  rw [jsonLine, members_eq h, Json.writable_object JsonLayout.writable_spaced, OrderedMap.mapValues,
    List.forall_mem_map]
  constructor
  · intro hentries name t ht
    -- every text is an entry of the map, so it is in the line
    have hentry : (name, t) ∈ e.report.entries := OrderedMap.get?_eq_some_iff.mp ((get?_report name).trans ht)
    exact (Json.writable_writeText t).mp (hentries _ hentry).2
  · rintro htexts ⟨name, t⟩ hentry
    have ht : e.text? name = some t := (get?_report name).symm.trans (OrderedMap.get?_eq_some_iff.mpr hentry)
    exact ⟨hall name (mem_names_of_text? name t ht), (Json.writable_writeText t).mpr (htexts name t ht)⟩

end Event

/-- What the library reports has texts as its context. -/
theorem Notice.textual (n : Notice) (time offset : Int) (error : Option Text) :
    Event.Textual ⟨n.record, time, offset, error⟩ := by
  have hcontext : ∀ entry ∈ n.record.context, entry.2 = .null ∨ ∃ t, entry.2 = .text t := by
    have hoptional (t : Option Text) : Notice.optional t = .null ∨ ∃ u, Notice.optional t = .text u := by
      cases t <;> simp [Notice.optional]
    cases n <;> simp [Notice.record, hoptional]
  intro name _ j hlookup
  obtain ⟨before, after, hsplit, -⟩ := List.lookup_eq_some_iff.mp hlookup
  have hentry : (name, j) ∈ n.record.context := hsplit ▸ by simp
  exact hcontext _ hentry

/-! ## The lines of a log -/

/-- A log that splits into one line for each event, in order, with nothing behind the last one. -/
def Tells (log : Text) (events : List Event) : Prop :=
  ∃ lines, Text.splitOn '\n' log = lines ++ [[]] ∧ List.Forall₂ Event.Reported events lines

/-- **Lines of events** that each have an end are a log of the events. -/
theorem tells_lines {events : List Event} {line : Event → Text} (h : ∀ e ∈ events, e.Reported (line e)) :
    Tells (events.flatMap fun e => line e ++ [CodePoint.ofChar '\n']) events := by
  refine ⟨events.map line, ?_, ?_⟩
  · rw [← List.flatMap_map line (· ++ [CodePoint.ofChar '\n'])]
    refine Text.splitOn_lines ?_
    rw [List.forall_mem_map]
    exact fun e he => (h e he).plain.notMem_newline
  · rw [List.forall₂_map_right_iff, List.forall₂_same]
    exact h

namespace Output

variable {o : Output} {events : List Event}

/-- In the JSON form nothing but the end of the line stands behind it. -/
theorem ended_eq (hform : o.form = .json) (e : Event) : o.ended e = e.jsonLine ++ [CodePoint.ofChar '\n'] := by
  rw [ended, hform]
  rfl

/-- The lines that are given are those of the events that are admitted. -/
theorem given_eq (o : Output) (events : List Event) : o.given events = (events.filter o.admits).flatMap o.ended := by
  induction events with
  | nil => rfl
  | cons e rest ih =>
    rw [given, List.flatMap_cons, ← given, ih, passed]
    cases hadmits : o.admits e <;> simp [hadmits]

/-- **One JSON object per line**: the line of every event is one, and the text that each place of an output is given
splits into the lines of the events that are admitted, in order. -/
theorem one_object_per_line (hform : o.form = .json) (h : ∀ e ∈ events, e.Textual) :
    (∀ e ∈ events, e.Reported e.jsonLine) ∧ Tells (o.given events) (events.filter o.admits) := by
  refine ⟨fun e he => Event.reported_jsonLine (h e he), ?_⟩
  rw [given_eq, funext (ended_eq hform)]
  exact tells_lines fun e he => Event.reported_jsonLine (h e (List.mem_of_mem_filter he))

namespace Forged

/-- A key from a file, which reads like the end of a line and the start of another one. -/
def key : Text := "a\"\n\x7b\"level\": \"DEBUG\\"

def conflict : Event where
  record := (Notice.overridden ⟨key, .text "2", .text "1", "10.yaml", none⟩).record
  time := 0
  offset := -12600
  error := none

/-- A failure whose error takes two lines. -/
def failure : Event where
  record := (Notice.unloadable "app.yaml" (.notFound "app.yaml" none)).record
  time := 1
  offset := 7200
  error := some (valueErrorText "first\nsecond")

end Forged

open Forged in
/-- A key cannot forge a line. -/
theorem one_object_per_line_forged :
    (∀ e ∈ [conflict, failure], e.Reported e.jsonLine) ∧
      Tells (given ⟨.warning, .json, true⟩ [conflict, failure]) [conflict, failure] := by
  have htextual : ∀ e ∈ [conflict, failure], e.Textual := by
    rw [List.forall_mem_cons, List.forall_mem_singleton]
    exact ⟨Notice.textual _ _ _ _, Notice.textual _ _ _ _⟩
  obtain ⟨hreported, hgiven⟩ := @one_object_per_line ⟨.warning, .json, true⟩ [conflict, failure] rfl htextual
  have hadmits : ∀ e ∈ [conflict, failure], admits ⟨.warning, .json, true⟩ e = true := by decide +kernel
  rw [List.filter_eq_self.mpr hadmits] at hgiven
  exact ⟨hreported, hgiven⟩

/-! ## The console -/

/-- **The console** has the text that is given if no event of another logger shows there and no report of a line that
the files lose. -/
theorem console_eq_given {report : Event → Text} (hown : ∀ e ∈ events, isOwn e.record.logger = true)
    (hkept : o.toFile = true → ∀ e ∈ events, o.admits e = true → o.isLost e = false) :
    o.console report events = o.given events := by
  refine List.flatMap_congr fun e he => ?_
  -- what the other two would add to the text is nothing
  have hforeign : foreign e = [] := by
    rw [foreign, hown e he]
    rfl
  have hcomplaint : o.complaint report e = [] := by
    rw [complaint, if_neg]
    simp only [Bool.and_eq_true, not_and, Bool.not_eq_true, and_imp]
    exact fun hfile hadmits => hkept hfile e he hadmits
  rw [hforeign, hcomplaint, List.append_nil, List.append_nil]

end Output

end Log

end LayeredConfig
