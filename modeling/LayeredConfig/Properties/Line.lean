import LayeredConfig.Text.CodePoint

/-!
# Lines of a properties text

A properties text is read in three steps that know nothing of keys and values.

* A *physical line* ends at a line feed, a carriage return, or the two in this order (`physicalLines`).
* A physical line *continues* when it ends in an odd number of backslashes (`continues`): the last of them is
  not part of an escape. It is joined with the next one, whose leading blanks are dropped.
* A *logical line* is what such joining makes; blank lines and comments give none (`logicalLines`). It is
  numbered by the physical line on which it starts.
-/

namespace LayeredConfig.Properties

/-- The blanks of a properties text: the space, the tab and the form feed. -/
def isBlank (c : CodePoint) : Bool :=
  c = ' ' || c = '\t' || c = '\x0C'

/-- The physical lines of a text. A line end at the end of the text opens one more, empty line. -/
def physicalLines : Text → List Text
  | [] => [[]]
  | c :: rest =>
    if c = '\n' then [] :: physicalLines rest
    else if c = '\r' then
      match rest with
      | [] => [[], []]
      | d :: tail => if d = '\n' then [] :: physicalLines tail else [] :: physicalLines (d :: tail)
    else Text.consHead c (physicalLines rest)

def startsWithOddBackslashes : Text → Bool
  | [] => false
  | c :: rest => if c = '\\' then !startsWithOddBackslashes rest else false

/-- Whether a line ends in an odd number of backslashes. -/
def continues (line : Text) : Bool :=
  startsWithOddBackslashes line.reverse

/-- Whether a line without leading blanks is empty or a comment. -/
def isSkipped : Text → Bool
  | [] => true
  | c :: _ => c = '#' || c = '!'

structure LogicalLine where
  /-- The number of the physical line on which it starts, counted from one. -/
  number : Nat
  /-- Its text, without the backslashes that continued it. -/
  text : Text
  deriving DecidableEq

/-- The logical lines that physical lines make, the first of which has the given number. `pending` is a
logical line whose last physical line asked for continuation. -/
def logicalLines (pending : Option LogicalLine) (number : Nat) : List Text → List LogicalLine
  | [] => pending.toList
  | physical :: rest =>
    let line := physical.dropWhile isBlank
    match pending with
    | none =>
      if isSkipped line then logicalLines none (number + 1) rest
      else if continues line then
        logicalLines (some ⟨number, line.dropLast⟩) (number + 1) rest
      else ⟨number, line⟩ :: logicalLines none (number + 1) rest
    | some begun =>
      if continues line then
        logicalLines (some ⟨begun.number, begun.text ++ line.dropLast⟩) (number + 1) rest
      else ⟨begun.number, begun.text ++ line⟩ :: logicalLines none (number + 1) rest

end LayeredConfig.Properties
