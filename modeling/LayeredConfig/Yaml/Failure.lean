import LayeredConfig.Calendar
import LayeredConfig.Number.Digits
import LayeredConfig.Text.Quoted

/-!
# Failures of reading YAML

A document is refused as malformed, whatever the rule it breaks; or it is well formed and the text of one of its
scalars cannot be converted to the kind of value that its tag asks for, which a `ScalarError` explains.
-/

namespace LayeredConfig.Yaml

/-- Why the text of a scalar cannot be converted. -/
inductive ScalarError
  | integer (base : Nat) (t : Text)
  | float (t : Text)
  /-- A number without any digit. -/
  | emptyNumber
  | bool (t : Text)
  | timestamp
  /-- A date is not given by a scalar. -/
  | structuredTimestamp
  /-- A place value beyond all floating point numbers. -/
  | placeValue
  /-- An escape names a number that is no code point; `wide` if it has more than 31 bits. -/
  | codePoint (wide : Bool)
  /-- An integer with too many digits. -/
  | digits (e : DigitLimitError)
  /-- A part of a date out of its range. -/
  | calendar (e : CalendarError)
  deriving DecidableEq

def ScalarError.message : ScalarError → Text
  | .integer base t =>
    "invalid literal for int() with base " ++ Text.ofNat base ++ ": " ++ t.quoted.take 200
  | .float t => "could not convert string to float: " ++ t.quoted
  | .emptyNumber => "string index out of range"
  | .bool t => t.quoted
  | .timestamp => "'NoneType' object has no attribute 'groupdict'"
  | .structuredTimestamp => "expected string or bytes-like object, got 'list'"
  | .placeValue => "int too large to convert to float"
  | .codePoint wide =>
    if wide then "Python int too large to convert to C int" else "chr() arg not in range(0x110000)"
  | .digits e => e.message
  | .calendar e => e.message

/-- Why a document is not read. -/
inductive Failure
  /-- The text breaks a rule of the format. -/
  | malformed
  | scalar (e : ScalarError)
  deriving DecidableEq

end LayeredConfig.Yaml
