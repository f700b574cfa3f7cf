import LayeredConfig.Calendar
import LayeredConfig.Number.Digits
import LayeredConfig.Yaml.Cursor

/-!
# Timestamps

The written form of a date, with or without a time of day. `Timestamp.read?` takes a text apart; whether the
parts are in their ranges is for the calendar to say (`Timestamp.toAtom`). A plain scalar is taken for a
timestamp only in the canonical form: a bare date needs two digits for month and day.
-/

namespace LayeredConfig.Yaml

structure TimeOfDay where
  hour : Text
  minute : Text
  second : Text
  /-- The digits of the fraction of a second. -/
  fraction : Text
  /-- The distance from UTC in minutes, if given. -/
  offset : Option Int

/-- The parts of a timestamp. -/
structure Timestamp where
  year : Text
  month : Text
  day : Text
  /-- The time of day, if given. -/
  time : Option TimeOfDay

namespace Timestamp

/-- Between `least` and `most` digits, as many as there are. -/
def digits? (least most : Nat) (t : Text) : Option (Text × Text) :=
  let digits := (t.take most).takeWhile CodePoint.isDigit
  if digits.length < least then none else some (digits, t.drop digits.length)

def mark? (c : CodePoint) (t : Text) : Option Text :=
  match t with
  | [] => none
  | d :: rest => if d = c then some rest else none

def number (digits : Text) : Nat :=
  Number.ofDigits 10 (Number.digitValues digits)

/-- The distance from UTC at the end of a timestamp: the letter Z, or a sign with hours and minutes. -/
def offset? (t : Text) : Option Int :=
  match t with
  | [] => none
  | c :: rest =>
    if c = 'Z' then if rest.isEmpty then some 0 else none
    else if c = '+' || c = '-' then do
      let (hours, rest) ← digits? 1 2 rest
      let minutes ←
        match rest with
        | [] => some 0
        | _ => do
          let (minutes, rest) ← digits? 2 2 (← mark? ':' rest)
          if rest.isEmpty then some (number minutes) else none
      some (Number.signed (c = '-') (number hours * 60 + minutes))
    else none

def time? (t : Text) : Option TimeOfDay := do
  let (hour, t) ← digits? 1 2 t
  let (minute, t) ← digits? 2 2 (← mark? ':' t)
  let (second, t) ← digits? 2 2 (← mark? ':' t)
  let (fraction, t) :=
    match mark? '.' t with
    | some t => (t.takeWhile CodePoint.isDigit, t.dropWhile CodePoint.isDigit)
    | none => ([], t)
  if t.isEmpty then return ⟨hour, minute, second, fraction, none⟩
  else return ⟨hour, minute, second, fraction, some (← offset? (t.dropWhile isBlank))⟩

def read? (t : Text) : Option Timestamp := do
  let (year, t) ← digits? 4 4 t
  let (month, t) ← digits? 1 2 (← mark? '-' t)
  let (day, t) ← digits? 1 2 (← mark? '-' t)
  match t with
  | [] => return ⟨year, month, day, none⟩
  | c :: rest =>
    let clock ←
      if c = 'T' || c = 't' then some rest
      else if isBlank c then some (rest.dropWhile isBlank)
      else none
    return ⟨year, month, day, some (← time? clock)⟩

/-- Whether a timestamp is in the form in which a plain scalar is taken for one. -/
def isCanonical (s : Timestamp) : Bool :=
  s.time.isSome || (s.month.length == 2 && s.day.length == 2)

/-- The microseconds that the digits of a fraction name; further digits are dropped. -/
def microseconds (fraction : Text) : Nat :=
  let digits := fraction.take 6
  number digits * Nat.pow 10 (6 - digits.length)

end Timestamp

end LayeredConfig.Yaml
