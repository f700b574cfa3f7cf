import LayeredConfig.Text.CodePoint

/-!
# Runs of a case mapping

The simple case mappings of Unicode change most letters by a constant distance over a whole run of an
alphabet, taking every code point of the run or every second one. A `CaseRun` states one such run, and a
table of runs in ascending order is a mapping.
-/

namespace LayeredConfig

/-- The code points `first`, `first + step`, … up to `last` are shifted by `shift`. -/
structure CaseRun where
  first : Nat
  last : Nat
  /-- The distance between two code points of the run. -/
  step : Nat
  /-- What is added to each of them. -/
  shift : Int

namespace CaseRun

def ofTuple : Nat × Nat × Nat × Int → CaseRun
  | (first, last, step, shift) => ⟨first, last, step, shift⟩

/-- Whether a run takes the code point with number `n`. -/
def contains (r : CaseRun) (n : Nat) : Bool :=
  r.first ≤ n && n ≤ r.last && (n - r.first) % r.step == 0

/-- What a table makes of `n`; a code point in none of its runs stays as it is. -/
def apply (table : List CaseRun) (n : Nat) : Nat :=
  match table.find? (·.contains n) with
  | some r => (n + r.shift).toNat
  | none => n

end CaseRun

/-- Whether `n` lies in one of the closed ranges of a table. -/
def inRanges (table : List (Nat × Nat)) (n : Nat) : Bool :=
  table.any fun (first, last) => first ≤ n && n ≤ last

end LayeredConfig
