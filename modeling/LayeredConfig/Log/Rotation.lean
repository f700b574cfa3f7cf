import LayeredConfig.Text.Utf8

/-!
# Rotation of log files

A log goes to one file and, when that is full, to a new one. The full one is put aside; only so many of those are kept,
and the oldest one goes. No line is divided between two files.
-/

namespace LayeredConfig.Log

/-- The size that a line must not bring a log file to. -/
def fileLimit : Nat := 5000000

/-- How many earlier files are kept. -/
def earlierLimit : Nat := 3

/-- The bytes of the file to which lines are written, and of the earlier ones, the newest first. -/
structure LogFiles where
  current : List UInt8
  earlier : List (List UInt8)
  few : earlier.length ≤ earlierLimit

namespace LogFiles

def empty : LogFiles :=
  ⟨[], [], Nat.zero_le _⟩

/-- Whether a line does not fit. The file is measured in bytes, the line in code points. -/
def isFull (f : LogFiles) (line : Text) : Bool :=
  fileLimit ≤ f.current.length + line.length

/-- A new file, with the one before it put aside. -/
def rotate (f : LogFiles) : LogFiles where
  current := []
  earlier := (f.current :: f.earlier).take earlierLimit
  few := List.length_take_le _ _

/-- The files with room for a line. -/
def makeRoom (f : LogFiles) (line : Text) : LogFiles :=
  if f.isFull line then f.rotate else f

/-- Adds a line, with its end. Room is made for it even if it turns out to have no bytes; then nothing is added. -/
def add (f : LogFiles) (line : Text) : LogFiles :=
  match Utf8.encode line with
  | .ok bytes => { f.makeRoom line with current := (f.makeRoom line).current ++ bytes }
  | .error _ => f.makeRoom line

end LogFiles

end LayeredConfig.Log
