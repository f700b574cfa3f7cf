import LayeredConfig.Text.CodePoint

/-!
# Integers and their decimal texts

Reading a decimal text and writing one take time that grows with the square of the number of digits, so
both are limited to 4300 digits. Leading zeros count. `readDecimal` and `writeInt` are the two directions;
texts in base two, eight or sixteen are not limited.
-/

namespace LayeredConfig

inductive DigitLimitError
  /-- A text with this many digits was to be read. -/
  | reading (digits : Nat)
  | writing
  deriving DecidableEq

namespace Number

def digitLimit : Nat := 4300

end Number

def DigitLimitError.message (e : DigitLimitError) : Text :=
  let size : Text :=
    match e with
    | .reading digits => ": value has " ++ Text.ofNat digits ++ " digits"
    | .writing => []
  "Exceeds the limit (" ++ Text.ofNat Number.digitLimit ++
    " digits) for integer string conversion" ++ size ++
    "; use sys.set_int_max_str_digits() to increase the limit"

namespace Number

/-- The number with the given digits, most significant first. -/
def ofDigits (base : Nat) (digits : List Nat) : Nat :=
  digits.foldl (fun n d => n * base + d) 0

def digitValues (t : Text) : List Nat :=
  t.map (·.toNat - 48)

def readDecimal (digits : Text) : Except DigitLimitError Nat :=
  if digits.length ≤ digitLimit then .ok (ofDigits 10 (digitValues digits))
  else .error (.reading digits.length)

def signed (negative : Bool) (n : Nat) : Int :=
  if negative then -(n : Int) else n

def writeInt (n : Int) : Except DigitLimitError Text :=
  if Nat.pow 10 digitLimit ≤ n.natAbs then .error .writing else .ok (Text.ofInt n)

end Number

end LayeredConfig
