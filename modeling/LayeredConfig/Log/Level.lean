import LayeredConfig.Failure
import LayeredConfig.Json.Shown
import LayeredConfig.Text.UpperCase

/-!
# Levels of a log

A level is an integer, and the greater it is, the graver the record. Five levels and the absence of one have
names, two of them a second one.
-/

namespace LayeredConfig.Log

/-- The gravity of a record. -/
abbrev Level := Int

namespace Level

def debug : Level := 10

def info : Level := 20

def warning : Level := 30

def error : Level := 40

def critical : Level := 50

/-- The name of a level; one without a name shows its number. -/
def name (level : Level) : Text :=
  if level = critical then "CRITICAL"
  else if level = error then "ERROR"
  else if level = warning then "WARNING"
  else if level = info then "INFO"
  else if level = debug then "DEBUG"
  else if level = 0 then "NOTSET"
  else "Level " ++ Text.ofInt level

/-- The levels by their names in upper case. -/
def byName : List (Text × Level) :=
  [("CRITICAL", critical), ("FATAL", critical), ("ERROR", error), ("WARNING", warning), ("WARN", warning),
    ("INFO", info), ("DEBUG", debug), ("NOTSET", 0)]

/-- The level that a value asks for: an integer, or a name in any case. -/
def ofJson (j : Json) : Except Failure Level :=
  match j with
  | .int n => .ok n
  | .bool b => .ok b.toInt
  | .text t =>
    match byName.lookup t.upperCase with
    | some level => .ok level
    | none => .error (.unknownLevel t.upperCase)
  | j => .error (.badLevel j.shown)

end Level

end LayeredConfig.Log
