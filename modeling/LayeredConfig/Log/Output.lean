import LayeredConfig.Log.Line
import LayeredConfig.Log.Rotation

/-!
# Output of a log

An `Output` says which events are written, and how. An event is admitted if its level reaches the level of the output.
An output without a level takes the one that holds where nothing is set, and events without a level are never written.
The line of an admitted event goes to the console and then, if files are wanted, to the log files (`LogFiles`). Both are
given the same text (`Output.given`), and each event ends its line.

The files are written in UTF-8, so a line with a surrogate does not get there; this is reported on the console. The
wording of the report, which shows the calls under way, is a parameter.

Events of loggers that are not the library's own have no output. Only the message of a warning or of something
graver is shown on the console.
-/

namespace LayeredConfig.Log

/-- Which events are written, and how. -/
structure Output where
  level : Level
  form : LineForm
  /-- Whether files get the lines as well. -/
  toFile : Bool

namespace Output

/-- The number of places to which each line is written. -/
def places (o : Output) : Nat :=
  if o.toFile then 2 else 1

/-- The level that holds where none is set. -/
def levelByDefault : Level := Level.warning

/-- The level that events have to reach. -/
def threshold (o : Output) : Level :=
  if o.level = 0 then levelByDefault else o.level

def isOwn (logger : Text) : Bool :=
  logger = rootLogger || logger.startsWith (rootLogger ++ ".")

def admits (o : Output) (e : Event) : Bool :=
  isOwn e.record.logger && 0 < e.record.level && o.threshold ≤ e.record.level

/-- The line of an event with its end. -/
def ended (o : Output) (e : Event) : Text :=
  e.line o.form ++ "\n"

/-- What an event gives to each place of an output. -/
def passed (o : Output) (e : Event) : Text :=
  if o.admits e then o.ended e else []

/-- The text that events give to each place of an output. -/
def given (o : Output) (events : List Event) : Text :=
  events.flatMap o.passed

/-- Whether the line of an event has no bytes. -/
def isLost (o : Output) (e : Event) : Bool :=
  (e.line o.form).any CodePoint.isSurrogate

/-- What an event of another logger shows on the console. -/
def foreign (e : Event) : Text :=
  if !isOwn e.record.logger && levelByDefault ≤ e.record.level then
    Event.withError e.record.message e.error ++ "\n"
  else []

variable (report : Event → Text)

/-- What a line that the files lose shows on the console, in the wording of `report`. -/
def complaint (o : Output) (e : Event) : Text :=
  if o.toFile && o.admits e && o.isLost e then report e else []

/-- The console after events. -/
def console (o : Output) (events : List Event) : Text :=
  events.flatMap fun e => o.passed e ++ o.complaint report e ++ foreign e

/-- The log files after an event. -/
def fileStep (o : Output) (files : LogFiles) (e : Event) : LogFiles :=
  if o.admits e then files.add (o.ended e) else files

/-- The log files after events. -/
def files (o : Output) (start : LogFiles) (events : List Event) : LogFiles :=
  events.foldl o.fileStep start

end Output

end LayeredConfig.Log
