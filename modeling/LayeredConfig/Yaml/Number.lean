import LayeredConfig.Number.Binary64
import LayeredConfig.Text.DecimalDigit
import LayeredConfig.Text.LowerCase
import LayeredConfig.Text.WhiteSpace
import LayeredConfig.Yaml.Failure

/-!
# The numbers that scalars name

A scalar with the tag of a number is converted even if its text is not in the form that plain numbers have: digits
may be those of any script, white space around a number is passed over, and a sign may follow a sign. Integers
are read in base ten, sixty, two (`0b`), eight (`0`) and sixteen (`0x`); floating point numbers in base ten and
sixty.
-/

namespace LayeredConfig.Yaml

/-- White space around a number: that of ASCII without the separators, and all beyond. -/
def isNumberSpace (c : CodePoint) : Bool :=
  (9 ≤ c.toNat && c.toNat ≤ 13) || c = ' ' || (127 < c.toNat && c.isWhiteSpace)

/-- A text with the digits of all scripts turned into those of ASCII, without white space around it. -/
def normalizeNumeral (t : Text) : Text :=
  let ascii := t.map fun c =>
    match c.digitValue? with
    | some d => CodePoint.ofNat (48 + d)
    | none => c
  Text.dropEndWhile isNumberSpace (ascii.dropWhile isNumberSpace)

/-- A text behind its sign, and whether that is a minus. -/
def splitSign (t : Text) : Bool × Text :=
  match t with
  | [] => (false, [])
  | c :: rest => if c = '-' then (true, rest) else if c = '+' then (false, rest) else (false, t)

/-- The letter behind a zero that announces a base. -/
def baseLetter? (base : Nat) : Option CodePoint :=
  if base = 2 then some 'b' else if base = 8 then some 'o' else if base = 16 then some 'x' else none

/-- A text behind the mark of its base, which it need not have. -/
def dropBaseMark (base : Nat) (t : Text) : Text :=
  match t with
  | zero :: letter :: rest =>
    if zero = '0' && baseLetter? base = some letter.asciiLower then rest else t
  | _ => t

def digitIn? (base : Nat) (c : CodePoint) : Option Nat :=
  c.hexValue?.filter (· < base)

def integer (base : Nat) (t : Text) : Except ScalarError Int :=
  let (negative, body) := splitSign (normalizeNumeral t)
  let body := dropBaseMark base body
  let digits := body.takeWhile fun c => (digitIn? base c).isSome
  if base = 10 && Number.digitLimit < digits.length then .error (.digits (.reading digits.length))
  else if digits.isEmpty || digits.length < body.length then .error (.integer base t)
  else .ok (Number.signed negative (Number.ofDigits base (digits.filterMap (digitIn? base))))

/-- The sum of the places of a number in base sixty, the last place first. -/
def sexagesimal : List Int → Int
  | [] => 0
  | d :: rest => d + 60 * sexagesimal rest

/-- The integer that a scalar names. -/
def readInteger (text : Text) : Except ScalarError Int := do
  let t := text.without '_'
  if t.isEmpty then throw .emptyNumber
  let (negative, body) := splitSign t
  let sign (n : Int) : Int := if negative then -n else n
  match body with
  | [] => throw .emptyNumber
  | c :: rest =>
    if c = '0' then
      match rest with
      | [] => return 0
      | d :: more =>
        if d = 'b' then return sign (← integer 2 more)
        else if d = 'x' then return sign (← integer 16 more)
        else return sign (← integer 8 body)
    else if body.contains ':' then
      let places ← (Text.splitOn ':' body).mapM (integer 10)
      return sign (sexagesimal places.reverse)
    else return sign (← integer 10 body)

/-- The words that name the numbers without digits. -/
def floatWord? (t : Text) : Option Binary64 :=
  if t = ("inf" : Text) || t = ("infinity" : Text) then some (.infinite false)
  else if t = ("nan" : Text) then some .nan
  else none

/-- The exponent behind the digits of a floating point number; no text is the exponent zero. -/
def exponent? (t : Text) : Option Int :=
  match t with
  | [] => some 0
  | e :: rest =>
    let (negative, digits) := splitSign rest
    if e.asciiLower = 'e' && !digits.isEmpty && digits.all CodePoint.isDigit then
      some (Number.signed negative (Number.ofDigits 10 (Number.digitValues digits)))
    else none

/-- The floating point number that a text names in base ten. -/
def decimal? (t : Text) : Option Binary64 := do
  let (negative, body) := splitSign (normalizeNumeral t)
  match floatWord? (body.map CodePoint.asciiLower) with
  | some x => return if negative then x.neg else x
  | none =>
    let whole := body.takeWhile CodePoint.isDigit
    let rest := body.drop whole.length
    let (fraction, rest) :=
      match rest with
      | [] => ([], [])
      | c :: tail =>
        if c = '.' then (tail.takeWhile CodePoint.isDigit, tail.dropWhile CodePoint.isDigit)
        else ([], rest)
    if whole.isEmpty && fraction.isEmpty then none
    else
      let e ← exponent? rest
      let digits := Number.ofDigits 10 (Number.digitValues (whole ++ fraction))
      return Binary64.ofDecimal negative digits (e - fraction.length)

/-- The floating point number that a text names in base ten, or the reason why it names none. -/
def decimal (t : Text) : Except ScalarError Binary64 :=
  match decimal? t with
  | some x => .ok x
  | none => .error (.float t)

/-- The sum of the places of a floating point number in base sixty, the last place first; each place is
multiplied with `base` and added to `total`. -/
def sexagesimalFloat (total : Binary64) (base : Nat) : List Binary64 → Except ScalarError Binary64
  | [] => .ok total
  | d :: rest =>
    match Binary64.ofInt? base with
    | some b => sexagesimalFloat (total.add (d.mul b)) (base * 60) rest
    | none => .error .placeValue

/-- The floating point number that a scalar names. -/
def readFloat (text : Text) : Except ScalarError Binary64 := do
  let t := (text.without '_').lowerCase
  if t.isEmpty then throw .emptyNumber
  let (negative, body) := splitSign t
  let sign (x : Binary64) : Binary64 := if negative then x.neg else x
  if body = (".inf" : Text) then return .infinite negative
  else if body = (".nan" : Text) then return .nan
  else if body.contains ':' then
    let places ← (Text.splitOn ':' body).mapM decimal
    return sign (← sexagesimalFloat (Binary64.zero false) 1 places.reverse)
  else return sign (← decimal body)

end LayeredConfig.Yaml
