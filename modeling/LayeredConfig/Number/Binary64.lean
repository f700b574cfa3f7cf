import LayeredConfig.Number.Digits

/-!
# Binary floating point of 64 bits

A `Binary64` is an infinity, not a number, or `± mantissa · 2 ^ exponent` with a mantissa below `2 ^ 53` and an
exponent from -1074 to 971; a mantissa below `2 ^ 52` occurs with the exponent -1074 only, so each value is
written in one way. Every operation computes the exact ratio first and rounds it once, to the nearest value
and a half to the even mantissa (`Binary64.ofRatio`).
-/

namespace LayeredConfig

inductive Binary64
  | nan
  /-- Beyond the greatest finite number, of either sign. -/
  | infinite (negative : Bool)
  /-- `± mantissa · 2 ^ exponent`. -/
  | finite (negative : Bool) (mantissa : Nat) (exponent : Int)
  deriving DecidableEq

namespace Binary64

def leastExponent : Int := -1074

def greatestExponent : Int := 971

def zero (negative : Bool) : Binary64 :=
  .finite negative 0 leastExponent

/-- `num / den` rounded to an integer, a half to the even one. -/
def roundDiv (num den : Nat) : Nat :=
  let q := num / den
  let r := num % den
  if den < 2 * r || (2 * r == den && q % 2 == 1) then q + 1 else q

/-- `num / (den · 2 ^ e)` as a ratio of two natural numbers. -/
def unscale (num den : Nat) (e : Int) : Nat × Nat :=
  if 0 ≤ e then (num, den * Nat.pow 2 e.toNat) else (num * Nat.pow 2 (-e).toNat, den)

/-- The exponent at which `num / den` has a mantissa of 53 bits, or the least exponent if that is
greater. -/
def exponentFor (num den : Nat) : Int :=
  let guess : Int := (num.log2 : Int) - den.log2 - 52
  let (n, d) := unscale num den guess
  max leastExponent (if n / d < Nat.pow 2 52 then guess - 1 else guess)

/-- The number nearest to `± num / den`; `den` is not zero. -/
def ofRatio (negative : Bool) (num den : Nat) : Binary64 :=
  if num = 0 then zero negative
  else
    let e := exponentFor num den
    let (n, d) := unscale num den e
    let m := roundDiv n d
    let (m, e) := if m = Nat.pow 2 53 then (Nat.pow 2 52, e + 1) else (m, e)
    if greatestExponent < e then .infinite negative else .finite negative m e

/-- The number nearest to `± n · 2 ^ e`. -/
def ofScaled (negative : Bool) (n : Nat) (e : Int) : Binary64 :=
  if 0 ≤ e then ofRatio negative (n * Nat.pow 2 e.toNat) 1
  else ofRatio negative n (Nat.pow 2 (-e).toNat)

/-- The number nearest to `± digits · 10 ^ exponent`. Beyond `10 ^ 310` it is infinite and below `10 ^ -400`
zero, so no greater power of ten is ever computed. -/
def ofDecimal (negative : Bool) (digits : Nat) (exponent : Int) : Binary64 :=
  if digits = 0 then zero negative
  else
    let magnitude := exponent + (Nat.toDigits 10 digits).length
    if 310 < magnitude then .infinite negative
    else if magnitude < -400 then zero negative
    else if 0 ≤ exponent then ofRatio negative (digits * Nat.pow 10 exponent.toNat) 1
    else ofRatio negative digits (Nat.pow 10 (-exponent).toNat)

/-- The number nearest to an integer, unless that is beyond all finite numbers. -/
def ofInt? (n : Int) : Option Binary64 :=
  match ofRatio (n < 0) n.natAbs 1 with
  | .infinite _ => none
  | x => some x

def neg : Binary64 → Binary64
  | .nan => .nan
  | .infinite s => .infinite !s
  | .finite s m e => .finite (!s) m e

/-- The sum, rounded once. -/
def add : Binary64 → Binary64 → Binary64
  | .nan, _ => .nan
  | _, .nan => .nan
  | .infinite s, .infinite t => if s = t then .infinite s else .nan
  | .infinite s, _ => .infinite s
  | _, .infinite t => .infinite t
  | .finite s m e, .finite t n f =>
    let low := min e f
    let sum := Number.signed s (m * Nat.pow 2 (e - low).toNat) +
      Number.signed t (n * Nat.pow 2 (f - low).toNat)
    if sum = 0 then zero (s && t) else ofScaled (sum < 0) sum.natAbs low

/-- The product, rounded once. -/
def mul : Binary64 → Binary64 → Binary64
  | .nan, _ => .nan
  | _, .nan => .nan
  | .infinite s, .infinite t => .infinite (s != t)
  | .infinite s, .finite t n _ => if n = 0 then .nan else .infinite (s != t)
  | .finite s m _, .infinite t => if m = 0 then .nan else .infinite (s != t)
  | .finite s m e, .finite t n f => ofScaled (s != t) (m * n) (e + f)

def equalsInt (x : Binary64) (n : Int) : Bool :=
  match x with
  | .finite s m e =>
    if 0 ≤ e then Number.signed s (m * Nat.pow 2 e.toNat) == n
    else Number.signed s m == n * Nat.pow 2 (-e).toNat
  | _ => false

/-- Whether two numbers are equal: both zeros are, and nothing is equal to what is not a number. -/
def equals : Binary64 → Binary64 → Bool
  | .finite s m e, .finite t n f => (m == 0 && n == 0) || (s == t && m == n && e == f)
  | .infinite s, .infinite t => s == t
  | _, _ => false

/-- The integer that is left when the fraction is cut off; what is no finite number gives zero. -/
def truncated : Binary64 → Int
  | .finite s m e =>
    if 0 ≤ e then Number.signed s (m * Nat.pow 2 e.toNat)
    else Number.signed s (m / Nat.pow 2 (-e).toNat)
  | _ => 0

end Binary64

end LayeredConfig
