import LayeredConfig.Calendar
import LayeredConfig.Json.Writer
import LayeredConfig.Log.Notice

/-!
# Lines of a log

An `Event` is a log record at a moment, with the wording of an error if it carries one. It is written in one of
two forms:

* `Event.textLine`: the local time, the level in brackets, the logger and the message, and the error on lines of its
  own;
* `Event.jsonLine`: one JSON object on one line. Of the context of the record, only the names that the library
  uses are members, and only those that have a value.
-/

namespace LayeredConfig.Log

/-- A record at a moment. -/
structure Event where
  record : Record
  /-- The moment, in seconds since the start of 1970. -/
  time : Int
  /-- How far local time is ahead of UTC at that moment, in seconds. -/
  offset : Int
  /-- The wording of the error that the record carries. -/
  error : Option Text

inductive LineForm
  | text
  | json
  deriving DecidableEq

/-- The wording of an error of a value, with its reason if one is given. -/
def valueErrorText (reason : Text) : Text :=
  if reason.isEmpty then "ValueError" else "ValueError: " ++ reason

namespace Event

/-- The names under which context is written. -/
def contextFields : List Text :=
  [Notice.keyField, Notice.sourceField, Notice.previousSourceField]

/-- The member for a name of the context; `null` is no value. -/
def contextMember? (e : Event) (name : Text) : Option (Text × Json) :=
  match e.record.context.lookup name with
  | none | some .null => none
  | some j => some (name, j)

def contextMembers (e : Event) : List (Text × Json) :=
  contextFields.filterMap e.contextMember?

def errorMembers (e : Event) : List (Text × Json) :=
  match e.error with
  | some t => [("error", .text t)]
  | none => []

def localTime (e : Event) : DateTime :=
  DateTime.ofUnix (e.time + e.offset)

/-- The distance of local time from UTC: its sign, and two digits each for hours and minutes. -/
def zone (e : Event) : Text :=
  (if e.offset < 0 then "-" else "+" : Text) ++ Text.padded 2 (e.offset.natAbs / 3600) ++
    Text.padded 2 (e.offset.natAbs / 60 % 60)

/-- The moment in the ISO form, in local time. -/
def moment (e : Event) : Text :=
  e.localTime.iso 'T' ++ e.zone

def fixedMembers (e : Event) : List (Text × Json) :=
  [("time", .text e.moment), ("level", .text e.record.level.name), ("logger", .text e.record.logger),
    ("message", .text e.record.message)]

def members (e : Event) : List (Text × Json) :=
  e.fixedMembers ++ e.contextMembers ++ e.errorMembers

/-- An event as a JSON object on one line. -/
def jsonLine (e : Event) : Text :=
  (Json.object e.members).write .spaced

/-- What stands before the error of an event. -/
def headLine (e : Event) : Text :=
  e.localTime.iso ' ' ++ " [" ++ e.record.level.name ++ "] " ++ e.record.logger ++ ": " ++
    e.record.message

/-- A text followed by the wording of an error, which starts on a new line. -/
def withError (t : Text) (error : Option Text) : Text :=
  match error with
  | none => t
  | some e => if t.getLast? = some (CodePoint.ofChar '\n') then t ++ e else t ++ "\n" ++ e

/-- An event for people. -/
def textLine (e : Event) : Text :=
  withError e.headLine e.error

def line (e : Event) : LineForm → Text
  | .text => e.textLine
  | .json => e.jsonLine

end Event

end LayeredConfig.Log
