/-!
# Code points and texts

Configuration texts come from files, so they may hold any code point, a lone surrogate included: an
escape such as `\uD83D` names one by its number. A `Text` is therefore a list of code points rather
than a `String`, and reading, writing and comparing are recursions on that list.

* `CodePoint`: a number below `0x110000`.
* `Text`: a list of code points; string literals coerce to it.
* `Text.join`, `Text.splitOn`, `Text.replaceAll`: the glue that readers and printers share.
-/

namespace LayeredConfig

/-- A code point: any number below `0x110000`, the surrogates included. -/
structure CodePoint where
  toNat : Nat
  /-- Code points end below `0x110000`. -/
  isLt : toNat < 0x110000
  deriving DecidableEq

namespace CodePoint

def ofChar (c : Char) : CodePoint where
  toNat := c.toNat
  isLt := by
    have h := c.valid
    simp only [UInt32.isValidChar, Nat.isValidChar] at h
    show c.val.toNat < 0x110000
    omega

instance : Coe Char CodePoint := ⟨ofChar⟩

def ofNat? (n : Nat) : Option CodePoint :=
  if h : n < 0x110000 then some ⟨n, h⟩ else none

/-- The code point with number `n`; numbers out of range give U+FFFD. -/
def ofNat (n : Nat) : CodePoint :=
  (ofNat? n).getD '\uFFFD'

instance : Inhabited CodePoint := ⟨'\x00'⟩

instance : LT CodePoint := ⟨fun a b => a.toNat < b.toNat⟩

instance : LE CodePoint := ⟨fun a b => a.toNat ≤ b.toNat⟩

instance (a b : CodePoint) : Decidable (a < b) := inferInstanceAs (Decidable (a.toNat < b.toNat))

instance (a b : CodePoint) : Decidable (a ≤ b) := inferInstanceAs (Decidable (a.toNat ≤ b.toNat))

@[ext] theorem ext {a b : CodePoint} (h : a.toNat = b.toNat) : a = b := by
  cases a; cases b; simp_all

def isDigit (c : CodePoint) : Bool :=
  48 ≤ c.toNat && c.toNat ≤ 57

/-- The value of a hexadecimal digit, in either case. -/
def hexValue? (c : CodePoint) : Option Nat :=
  if 48 ≤ c.toNat ∧ c.toNat ≤ 57 then some (c.toNat - 48)
  else if 97 ≤ c.toNat ∧ c.toNat ≤ 102 then some (c.toNat - 87)
  else if 65 ≤ c.toNat ∧ c.toNat ≤ 70 then some (c.toNat - 55)
  else none

/-- The code point that four hexadecimal digits name. -/
def ofHex? (a b c d : CodePoint) : Option CodePoint := do
  let a ← a.hexValue?
  let b ← b.hexValue?
  let c ← c.hexValue?
  let d ← d.hexValue?
  ofNat? (((a * 16 + b) * 16 + c) * 16 + d)

/-- A code point of the two surrogate blocks, which UTF-8 cannot write. -/
def isSurrogate (c : CodePoint) : Bool :=
  0xD800 ≤ c.toNat && c.toNat ≤ 0xDFFF

/-- A surrogate that opens a pair. -/
def isHighSurrogate (c : CodePoint) : Bool :=
  0xD800 ≤ c.toNat && c.toNat ≤ 0xDBFF

/-- A surrogate that closes a pair. -/
def isLowSurrogate (c : CodePoint) : Bool :=
  0xDC00 ≤ c.toNat && c.toNat ≤ 0xDFFF

/-- The ASCII lower case of an ASCII letter; every other code point as it is. -/
def asciiLower (c : CodePoint) : CodePoint :=
  if h : 65 ≤ c.toNat ∧ c.toNat ≤ 90 then ⟨c.toNat + 32, by omega⟩ else c

end CodePoint

/-- A text: code points in order. -/
abbrev Text := List CodePoint

namespace Text

def ofString (s : String) : Text :=
  s.toList.map CodePoint.ofChar

instance : Coe String Text := ⟨ofString⟩

/-- The decimal digits of a number, without leading zeros. -/
def ofNat (n : Nat) : Text :=
  (Nat.toDigits 10 n).map CodePoint.ofChar

/-- A sign where the number is negative, and its decimal digits. -/
def ofInt : Int → Text
  | .ofNat n => ofNat n
  | .negSucc n => CodePoint.ofChar '-' :: ofNat (n + 1)

/-- The digits of `n` in lower-case hexadecimal, at least `width` of them. -/
def hex (width n : Nat) : Text :=
  let digits := Nat.toDigits 16 n
  (List.replicate (width - digits.length) '0' ++ digits).map CodePoint.ofChar

/-- The decimal digits of `n`, at least `width` of them. -/
def padded (width n : Nat) : Text :=
  let digits := Nat.toDigits 10 n
  (List.replicate (width - digits.length) '0' ++ digits).map CodePoint.ofChar

/-- The texts in order, with `separator` between each two. -/
def join (separator : Text) : List Text → Text
  | [] => []
  | [t] => t
  | t :: u :: rest => t ++ separator ++ join separator (u :: rest)

/-- Puts `c` in front of the first text of a list. -/
def consHead (c : CodePoint) : List Text → List Text
  | [] => [[c]]
  | t :: rest => (c :: t) :: rest

/-- The pieces of a text between the occurrences of `separator`, empty ones included. -/
def splitOn (separator : CodePoint) : Text → List Text
  | [] => [[]]
  | c :: rest =>
    if c = separator then [] :: splitOn separator rest
    else consHead c (splitOn separator rest)

/-- Leaves out every occurrence of `c`. -/
def without (c : CodePoint) (t : Text) : Text :=
  t.filter (· ≠ c)

/-- Leaves out the code points at the end for which `p` holds. -/
def dropEndWhile (p : CodePoint → Bool) (t : Text) : Text :=
  (t.reverse.dropWhile p).reverse

/-- What follows `head` in a text that starts with it. -/
def after? (head : Text) : Text → Option Text :=
  match head with
  | [] => some
  | c :: head => fun
    | [] => none
    | d :: rest => if c = d then after? head rest else none

def startsWith (t head : Text) : Bool :=
  (after? head t).isSome

/-- Replaces every occurrence of `old`, from the left and without overlap; `old` is not empty. -/
def replaceAll (old new : Text) (t : Text) : Text :=
  go t.length t
where
  /-- At most `fuel` steps; each step moves on by one code point at least. -/
  go : Nat → Text → Text
    | 0, rest => rest
    | _ + 1, [] => []
    | fuel + 1, c :: rest =>
      match after? old (c :: rest) with
      | some tail => new ++ go fuel tail
      | none => c :: go fuel rest

/-- Texts in the order of their code points, a proper initial part first. -/
def le (t u : Text) : Bool :=
  decide (t ≤ u)

/-- The string of a text; surrogates, which a string cannot hold, become U+FFFD. -/
def toString (t : Text) : String :=
  String.ofList (t.map fun c => if c.isSurrogate then '\uFFFD' else Char.ofNat c.toNat)

end Text

end LayeredConfig
