import LayeredConfig.Json.Shown

/-!
# Message templates

A message can be given as a template with places for values. `%s` is the place of a value as messages show it,
`%d` that of a number without its fraction, and `%%` stands for a percent sign. Values are taken in order
(`Template.fill`). A message without values is no template and stays as it is (`Template.message`).
-/

namespace LayeredConfig.Log

inductive Piece
  /-- A code point of the message. -/
  | literal (c : CodePoint)
  | value
  | number
  deriving DecidableEq

namespace Piece

/-- The place that a code point after a percent sign names. -/
def ofDirective? (c : CodePoint) : Option Piece :=
  if c = 's' then some .value
  else if c = 'd' then some .number
  else if c = '%' then some (.literal '%')
  else none

/-- How a place is written in a template. -/
def source : Piece → Text
  | .literal c => [c]
  | .value => "%s"
  | .number => "%d"

end Piece

namespace Template

/-- The parts of a template. A percent sign that names no place stands for itself. -/
def pieces : Text → List Piece
  | [] => []
  | [c] => [.literal c]
  | c :: d :: rest =>
    if c = '%' then
      match Piece.ofDirective? d with
      | some piece => piece :: pieces rest
      | none => .literal c :: pieces (d :: rest)
    else .literal c :: pieces (d :: rest)

def integer? : Json → Option Int
  | .bool b => some b.toInt
  | .int n => some n
  | .float x => some x.truncated
  | _ => none

/-- A value at the place of a number. -/
def numberText (j : Json) : Text :=
  match integer? j with
  | some n => Text.ofInt n
  | none => j.asText

/-- The text of parts with the values in their places. A place without a value stays as it is written. -/
def fillPieces : List Piece → List Json → Text
  | [], _ => []
  | .literal c :: rest, values => c :: fillPieces rest values
  | .value :: rest, j :: values => j.asText ++ fillPieces rest values
  | .number :: rest, j :: values => numberText j ++ fillPieces rest values
  | piece :: rest, [] => piece.source ++ fillPieces rest []

def fill (template : Text) (values : List Json) : Text :=
  fillPieces (pieces template) values

/-- The message of a template; without values it is taken as it is. -/
def message (template : Text) (values : List Json) : Text :=
  if values.isEmpty then template else fill template values

end Template

end LayeredConfig.Log
