import LayeredConfig.Text.CodePoint

/-!
# White space

The white space of Unicode together with the four information separators U+001C to U+001F: twenty-nine
code points in all. A text is trimmed of them at both ends (`Text.trim`) and cut into words at them
(`Text.words`); a word is a longest run without white space, so no word is empty.
-/

namespace LayeredConfig

/-- White space: the Unicode property, and the information separators. -/
def CodePoint.isWhiteSpace (c : CodePoint) : Bool :=
  let n := c.toNat
  (9 ≤ n && n ≤ 13) || (0x1C ≤ n && n ≤ 0x20) || n == 0x85 || n == 0xA0 || n == 0x1680 ||
    (0x2000 ≤ n && n ≤ 0x200A) || n == 0x2028 || n == 0x2029 || n == 0x202F || n == 0x205F ||
    n == 0x3000

namespace Text

/-- A text without the white space at its two ends. -/
def trim (t : Text) : Text :=
  dropEndWhile CodePoint.isWhiteSpace (t.dropWhile CodePoint.isWhiteSpace)

def isWhite (t : Text) : Bool :=
  t.all CodePoint.isWhiteSpace

/-- The words of a text: its longest runs without white space. -/
def words : Text → List Text
  | [] => []
  | c :: rest =>
    if c.isWhiteSpace then words rest
    else
      match rest with
      | [] => [[c]]
      | d :: _ => if d.isWhiteSpace then [c] :: words rest else consHead c (words rest)

end Text

end LayeredConfig
