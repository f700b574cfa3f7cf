import LayeredConfig.Number.Binary64

/-!
# Shortest decimal texts

The text of a floating point number has the fewest digits that read back as the same number, and of those the
digits nearest to its value, the even ones on a tie. `Shortest.search` looks for them on the decimal grids of
one, two, … seventeen digits: on each grid only the two neighbours of the value can read back. How the digits
are laid out is a `FloatLayout`.
-/

namespace LayeredConfig

/-- A decimal `digits · 10 ^ exponent`. -/
structure Decimal where
  digits : Nat
  /-- The power of ten of the last digit. -/
  exponent : Int
  deriving DecidableEq

namespace Shortest

/-- The floor of `num / den · 10 ^ -unit`, and what is left of it as a ratio over the same denominator. -/
def onGrid (num den : Nat) (unit : Int) : Nat × Nat × Nat :=
  let (n, d) := if 0 ≤ unit then (num, den * Nat.pow 10 unit.toNat) else (num * Nat.pow 10 (-unit).toNat, den)
  (n / d, n % d, d)

/-- Of the two neighbours of `num / den` on the grid of multiples of `10 ^ unit`, the nearer one that reads
back as `x`. -/
def neighbour? (x : Binary64) (num den : Nat) (unit : Int) : Option Decimal :=
  let (low, rest, d) := onGrid num den unit
  let reads (n : Nat) : Bool := Binary64.ofDecimal false n unit = x
  let lowFirst := 2 * rest < d || (2 * rest == d && low % 2 == 0)
  let (first, second) := if lowFirst then (low, low + 1) else (low + 1, low)
  if first != 0 && reads first then some ⟨first, unit⟩
  else if second != 0 && reads second then some ⟨second, unit⟩
  else none

/-- The power of ten just above `num / den`: the least `p` from `guess` on with `num / den < 10 ^ p`. -/
def magnitude (num den : Nat) : Nat → Int → Int
  | 0, guess => guess
  | fuel + 1, guess =>
    if (onGrid num den guess).1 = 0 then guess else magnitude num den fuel (guess + 1)

/-- Tries the grids of `count` digits and more, `fuel` of them. -/
def search (x : Binary64) (num den : Nat) (top : Int) : Nat → Nat → Option Decimal
  | 0, _ => none
  | fuel + 1, count =>
    match neighbour? x num den (top - count) with
    | some d => some d
    | none => search x num den top fuel (count + 1)

/-- Moves zeros at the end of the digits into the exponent. -/
def normalize : Nat → Decimal → Decimal
  | 0, d => d
  | fuel + 1, d =>
    if d.digits % 10 = 0 && d.digits != 0 then normalize fuel ⟨d.digits / 10, d.exponent + 1⟩ else d

/-- The shortest decimal that reads back as `mantissa · 2 ^ exponent`. -/
def decimal (mantissa : Nat) (exponent : Int) : Decimal :=
  let (num, den) :=
    if 0 ≤ exponent then (mantissa * Nat.pow 2 exponent.toNat, 1)
    else (mantissa, Nat.pow 2 (-exponent).toNat)
  -- `2 ^ b ≤ num / den < 2 ^ (b + 2)` for the difference `b` of the logarithms less one
  let bits : Int := (num.log2 : Int) - den.log2 - 1
  let top := magnitude num den 4 ((bits * 30103).fdiv 100000)
  normalize 400 ((search (.finite false mantissa exponent) num den top 18 1).getD ⟨0, 0⟩)

end Shortest

structure FloatLayout where
  /-- The least power of ten of the first digit that is written without an exponent. -/
  leastPositional : Int
  /-- The greatest power of ten of the first digit that is written without an exponent. -/
  greatestPositional : Int
  /-- How many digits an exponent has at least. -/
  exponentWidth : Nat
  infinity : Text
  /-- The text of what is not a number. -/
  notANumber : Text

namespace FloatLayout

/-- Digits with the point after the first `point` of them; zeros fill a gap on either side. -/
def positional (digits : Text) (point : Int) : Text :=
  if point ≤ 0 then "0." ++ List.replicate (-point).toNat (CodePoint.ofChar '0') ++ digits
  else
    let whole := digits.take point.toNat
    let fraction := digits.drop point.toNat
    whole ++ List.replicate (point.toNat - whole.length) (CodePoint.ofChar '0') ++ "." ++
      (if fraction.isEmpty then ("0" : Text) else fraction)

/-- Digits with the point after the first one, and the power of ten of that digit. -/
def scientific (width : Nat) (digits : Text) (power : Int) : Text :=
  let fraction : Text := if digits.length ≤ 1 then [] else "." ++ digits.drop 1
  let sign : Text := if power < 0 then "e-" else "e+"
  digits.take 1 ++ fraction ++ sign ++ Text.padded width power.natAbs

def write (layout : FloatLayout) : Binary64 → Text
  | .nan => layout.notANumber
  | .infinite negative => (if negative then ("-" : Text) else []) ++ layout.infinity
  | .finite negative mantissa exponent =>
    let d : Decimal := if mantissa = 0 then ⟨0, 0⟩ else Shortest.decimal mantissa exponent
    let digits := Text.ofNat d.digits
    let point := d.exponent + digits.length
    let magnitude :=
      if layout.leastPositional ≤ point - 1 ∧ point - 1 ≤ layout.greatestPositional then
        positional digits point
      else scientific layout.exponentWidth digits (point - 1)
    (if negative then ("-" : Text) else []) ++ magnitude

/-- The layout of numbers in values and keys: positional from `0.0001` to below `10 ^ 16`. -/
def plain : FloatLayout where
  leastPositional := -4
  greatestPositional := 15
  exponentWidth := 2
  infinity := "inf"
  notANumber := "nan"

/-- The layout of numbers in JSON: as `plain`, with the names that JSON readers take. -/
def json : FloatLayout where
  leastPositional := -4
  greatestPositional := 15
  exponentWidth := 2
  infinity := "Infinity"
  notANumber := "NaN"

end FloatLayout

end LayeredConfig
