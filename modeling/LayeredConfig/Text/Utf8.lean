import LayeredConfig.Text.CodePoint

/-!
# UTF-8

Reading and writing of texts as UTF-8. Both can fail, and both say where.

* `Utf8.decode`: the text of a sequence of bytes. The first sequence that no text is written as is reported
  with its position and the length of its valid part: an initial byte that can start nothing, a byte that
  cannot continue what was started, or an end of data in the middle.
* `Utf8.encode`: the bytes of a text. A surrogate has none; the first run of surrogates is reported.
-/

namespace LayeredConfig.Utf8

/-- Why bytes are not the UTF-8 of a text. -/
inductive Fault
  /-- No sequence starts with this byte. -/
  | invalidStart
  /-- A sequence was started and the next byte cannot continue it. -/
  | invalidContinuation
  /-- The data end in the middle of a sequence. -/
  | unexpectedEnd
  deriving DecidableEq

def Fault.message : Fault → Text
  | .invalidStart => "invalid start byte"
  | .invalidContinuation => "invalid continuation byte"
  | .unexpectedEnd => "unexpected end of data"

/-- Where bytes stop being UTF-8. -/
structure DecodeError where
  fault : Fault
  /-- The first byte of the offending sequence. -/
  byte : UInt8
  position : Nat
  /-- How many bytes the offending sequence has. -/
  width : Nat
  deriving DecidableEq

/-- The wording of a failed reading. -/
def DecodeError.message (e : DecodeError) : Text :=
  let place : Text :=
    if e.width = 1 then
      "byte 0x" ++ Text.hex 2 e.byte.toNat ++ " in position " ++ Text.ofNat e.position
    else
      "bytes in position " ++ Text.ofNat e.position ++ "-" ++
        Text.ofNat (e.position + e.width - 1)
  "'utf-8' codec can't decode " ++ place ++ ": " ++ e.fault.message

/-- What the first byte of a sequence announces: the bits it gives, and for each byte that has to follow
the closed range it lies in. -/
def lead? (b : UInt8) : Option (Nat × List (UInt8 × UInt8)) :=
  let tail : UInt8 × UInt8 := (0x80, 0xBF)
  if b < 0x80 then some (b.toNat, [])
  else if b < 0xC2 then none
  else if b < 0xE0 then some (b.toNat - 0xC0, [tail])
  else if b == 0xE0 then some (0, [(0xA0, 0xBF), tail])
  else if b == 0xED then some (0xD, [(0x80, 0x9F), tail])
  else if b < 0xF0 then some (b.toNat - 0xE0, [tail, tail])
  else if b == 0xF0 then some (0, [(0x90, 0xBF), tail, tail])
  else if b < 0xF4 then some (b.toNat - 0xF0, [tail, tail, tail])
  else if b == 0xF4 then some (4, [(0x80, 0x8F), tail, tail])
  else none

/-- Reads the bytes that have to follow; `seen` bytes of the sequence came before. The answer is the number
made of all bits, or the fault with the width of what was valid. -/
def followers (bits seen : Nat) : List (UInt8 × UInt8) → List UInt8 → Except (Fault × Nat) Nat
  | [], _ => .ok bits
  | _ :: _, [] => .error (.unexpectedEnd, seen)
  | (low, high) :: ranges, b :: rest =>
    if low ≤ b && b ≤ high then followers (bits * 64 + (b.toNat - 0x80)) (seen + 1) ranges rest
    else .error (.invalidContinuation, seen)

def decode (bytes : List UInt8) : Except DecodeError Text :=
  go 0 0 bytes
where
  /-- Reads from `position` on; the next `skip` bytes belong to a code point already read. -/
  go (position skip : Nat) : List UInt8 → Except DecodeError Text
    | [] => .ok []
    | b :: rest =>
      match skip with
      | skip + 1 => go (position + 1) skip rest
      | 0 =>
        match lead? b with
        | none => .error ⟨.invalidStart, b, position, 1⟩
        | some (bits, ranges) =>
          match followers bits 1 ranges rest with
          | .error (fault, width) => .error ⟨fault, b, position, width⟩
          | .ok n => (go (position + 1) ranges.length rest).map (CodePoint.ofNat n :: ·)

/-- A run of surrogates in a text that is to be written. -/
structure EncodeError where
  codePoint : CodePoint
  position : Nat
  /-- How many surrogates stand in a row. -/
  width : Nat
  deriving DecidableEq

/-- The wording of a failed writing. -/
def EncodeError.message (e : EncodeError) : Text :=
  let place : Text :=
    if e.width = 1 then
      "character '\\u" ++ Text.hex 4 e.codePoint.toNat ++ "' in position " ++
        Text.ofNat e.position
    else
      "characters in position " ++ Text.ofNat e.position ++ "-" ++
        Text.ofNat (e.position + e.width - 1)
  "'utf-8' codec can't encode " ++ place ++ ": surrogates not allowed"

def encodeCodePoint (c : CodePoint) : List UInt8 :=
  let n := c.toNat
  let byte (k : Nat) : UInt8 := UInt8.ofNat k
  if n < 0x80 then [byte n]
  else if n < 0x800 then [byte (0xC0 + n / 64), byte (0x80 + n % 64)]
  else if n < 0x10000 then
    [byte (0xE0 + n / 4096), byte (0x80 + n / 64 % 64), byte (0x80 + n % 64)]
  else
    [byte (0xF0 + n / 262144), byte (0x80 + n / 4096 % 64), byte (0x80 + n / 64 % 64),
      byte (0x80 + n % 64)]

def encode (t : Text) : Except EncodeError (List UInt8) :=
  go 0 t
where
  /-- Writes from `position` on. -/
  go (position : Nat) : Text → Except EncodeError (List UInt8)
    | [] => .ok []
    | c :: rest =>
      if c.isSurrogate then
        .error ⟨c, position, (rest.takeWhile CodePoint.isSurrogate).length + 1⟩
      else (go (position + 1) rest).map (encodeCodePoint c ++ ·)

end LayeredConfig.Utf8
