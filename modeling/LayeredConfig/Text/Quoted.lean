import LayeredConfig.Text.Printable

/-!
# Quoted texts

A text shown inside a message stands between quotes. Single quotes are taken unless the text holds a
single quote and no double one. The quote taken, the backslash and the controls tab, line feed and carriage
return get a backslash; every other code point that is not printable is written by its number.
`Text.quoted` quotes a text and `Text.quotedBytes` a sequence of bytes.
-/

namespace LayeredConfig

namespace Text

/-- The quote that needs the fewest escapes, single by preference. -/
def quoteFor (t : Text) : CodePoint :=
  if t.any (· = '\x27') && !t.any (· = '\x22') then '\x22' else '\x27'

def quotedCodePoint (quote c : CodePoint) : Text :=
  if c = quote || c = '\\' then ['\\', c]
  else if c = '\t' then ['\\', 't']
  else if c = '\n' then ['\\', 'n']
  else if c = '\r' then ['\\', 'r']
  else if c.isPrintable then [c]
  else if c.toNat < 0x100 then "\\x" ++ hex 2 c.toNat
  else if c.toNat < 0x10000 then "\\u" ++ hex 4 c.toNat
  else "\\U" ++ hex 8 c.toNat

def quoted (t : Text) : Text :=
  let quote := quoteFor t
  quote :: t.flatMap (quotedCodePoint quote) ++ [quote]

def codePointOfByte (b : UInt8) : CodePoint :=
  ⟨b.toNat, Nat.lt_trans b.toNat_lt (by decide)⟩

/-- One byte between quotes: only visible ASCII stands for itself. -/
def quotedByte (quote : CodePoint) (b : UInt8) : Text :=
  if b < 0x7F then quotedCodePoint quote (codePointOfByte b) else "\\x" ++ hex 2 b.toNat

/-- A sequence of bytes between quotes, marked as such. -/
def quotedBytes (bytes : List UInt8) : Text :=
  let quote := quoteFor (bytes.map codePointOfByte)
  CodePoint.ofChar 'b' :: quote :: bytes.flatMap (quotedByte quote) ++ [quote]

end Text

end LayeredConfig
