import LayeredConfig.Text.CodePoint

/-!
# Base 64

Bytes written with sixty-four characters, four for three bytes. Other characters are passed over. Padding ends the
bytes once a group of two or three characters is filled up; an open group at the end is a fault.
-/

namespace LayeredConfig.Yaml.Base64

/-- The six bits that a character stands for. -/
def sextet? (c : CodePoint) : Option Nat :=
  let n := c.toNat
  if 65 ≤ n ∧ n ≤ 90 then some (n - 65)
  else if 97 ≤ n ∧ n ≤ 122 then some (n - 71)
  else if 48 ≤ n ∧ n ≤ 57 then some (n + 4)
  else if n = 43 then some 62
  else if n = 47 then some 63
  else none

/-- Reads from a place within a group on: `count` characters of the group were read, of which `bits` are left
over, and `pads` padding characters stand just before. -/
def readFrom (count bits pads : Nat) : Text → Option (List UInt8)
  | [] => if count = 0 then some [] else none
  | c :: rest =>
    if c = '=' then
      if 2 ≤ count then
        if 4 ≤ count + pads + 1 then some [] else readFrom count bits (pads + 1) rest
      else readFrom count bits pads rest
    else
      match sextet? c with
      | none => readFrom count bits pads rest
      | some s =>
        match count with
        | 0 => readFrom 1 s 0 rest
        | 1 => (readFrom 2 (s % 16) 0 rest).map (UInt8.ofNat (bits * 4 + s / 16) :: ·)
        | 2 => (readFrom 3 (s % 4) 0 rest).map (UInt8.ofNat (bits * 16 + s / 4) :: ·)
        | _ => (readFrom 0 0 0 rest).map (UInt8.ofNat (bits * 64 + s) :: ·)

/-- The bytes that a text stands for; a text beyond ASCII stands for none. -/
def read? (t : Text) : Option (List UInt8) :=
  if t.all (·.toNat < 128) then readFrom 0 0 0 t else none

end LayeredConfig.Yaml.Base64
