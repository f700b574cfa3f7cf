import LayeredConfig.Yaml.Cursor
import LayeredConfig.Yaml.Failure

/-!
# The texts of scalars

A scalar is written in one of three ways: plain, between quotes, or as a block below its line. All three fold
line ends: one between two lines reads as a space, and of several the first is dropped. The functions here take
the place where a scalar starts and give its text with the place behind it.

* `plainScalar`: ends at a comment, at a colon before a blank, at less indentation, and within flow
  collections at their marks.
* `quotedScalar`: single quotes are doubled to be read; double quotes admit escapes.
* `blockScalar`: a header says whether line ends fold, what happens to those at the end, and how far the
  block is indented.
-/

namespace LayeredConfig.Yaml

/-! ## Plain scalars -/

/-- Whether a run of a plain scalar ends before this text. -/
def endsPlain (flow : Bool) : Text → Bool
  | [] => true
  | c :: rest =>
    isBlank c || isBreak c || (flow && (isFlowMark c || c = '?')) ||
      (c = ':' && (atBlank rest ||
        (flow && match rest with
          | [] => true
          | d :: _ => isFlowMark d)))

/-- The length of the run of a plain scalar at the start of a text. -/
def plainLength (flow : Bool) : Text → Nat
  | [] => 0
  | c :: rest => if endsPlain flow (c :: rest) then 0 else plainLength flow rest + 1

/-- The line ends and spaces that follow a first line end within a plain scalar, as the line ends alone; none
when a document mark comes, which ends the scalar. -/
def plainBreaks : Nat → Cursor → Option Text × Cursor
  | 0, c => (some [], c)
  | fuel + 1, c =>
    if startsWith ' ' c.rest then plainBreaks fuel c.next
    else
      let (lineEnd, c') := c.lineBreak
      if lineEnd.isEmpty then (some [], c)
      else if c'.atAnyDocumentMark then (none, c')
      else
        let (breaks, c'') := plainBreaks fuel c'
        (breaks.map (lineEnd ++ ·), c'')

/-- A first line end and those after it, folded. -/
def folded (lineEnd breaks : Text) : Text :=
  if lineEnd ≠ ("\n" : Text) then lineEnd ++ breaks
  else if breaks.isEmpty then [' ']
  else breaks

/-- The space between two runs of a plain scalar: the text it stands for, whether it holds a line end, and the
place behind it. The text is empty where the scalar ends. -/
def plainSpace (c : Cursor) : Text × Bool × Cursor :=
  let (spaces, c) := c.span (· = ' ')
  let (lineEnd, c') := c.lineBreak
  if lineEnd.isEmpty then (spaces, false, c)
  else if c'.atAnyDocumentMark then ([], true, c')
  else
    match plainBreaks c'.rest.length c' with
    | (none, c'') => ([], true, c'')
    | (some breaks, c'') => (folded lineEnd breaks, true, c'')

/-- A plain scalar with at least `indent` columns of indentation outside flow collections. `space` is what
stands before the next run and `broken` whether a line end was passed since the last run. Gives the text, whether
the scalar ends behind a line end, and the place. -/
def plainScalar (flow : Bool) (indent : Int) : Nat → Text → Bool → Cursor → Text × Bool × Cursor
  | 0, _, broken, c => ([], broken, c)
  | fuel + 1, space, broken, c =>
    let length := if startsWith '#' c.rest then 0 else plainLength flow c.rest
    if length = 0 then ([], broken, c)
    else
      let run := c.rest.take length
      let (space', broken', c') := plainSpace (c.skip length)
      if space'.isEmpty || startsWith '#' c'.rest || (!flow && (c'.column : Int) < indent) then
        (space ++ run, broken', c')
      else
        let (tail, broken'', c'') := plainScalar flow indent fuel space' broken' c'
        (space ++ run ++ tail, broken'', c'')

/-! ## Quoted scalars -/

/-- What a one-letter escape stands for. -/
def escaped? (c : CodePoint) : Option CodePoint :=
  if c = '0' then some '\x00'
  else if c = 'a' then some '\x07'
  else if c = 'b' then some '\x08'
  else if c = 't' || c = '\t' then some '\t'
  else if c = 'n' then some '\n'
  else if c = 'v' then some '\x0B'
  else if c = 'f' then some '\x0C'
  else if c = 'r' then some '\r'
  else if c = 'e' then some '\x1B'
  else if c = ' ' || c = '"' || c = '\\' || c = '/' then some c
  else if c = 'N' then some '\x85'
  else if c = '_' then some '\xA0'
  else if c = 'L' then some '\u2028'
  else if c = 'P' then some '\u2029'
  else none

/-- How many hexadecimal digits follow the letter of an escape by number. -/
def escapeWidth? (c : CodePoint) : Option Nat :=
  if c = 'x' then some 2
  else if c = 'u' then some 4
  else if c = 'U' then some 8
  else none

/-- The code point that hexadecimal digits name. -/
def codePointOfHex (digits : List Nat) : Except Failure CodePoint :=
  let n := Number.ofDigits 16 digits
  match CodePoint.ofNat? n with
  | some c => .ok c
  | none => .error (.scalar (.codePoint (0x80000000 ≤ n)))

/-- The line ends within a quoted scalar, blanks between them left out. A document mark is refused. -/
def quotedBreaks : Nat → Cursor → Except Failure (Text × Cursor)
  | 0, _ => .error .malformed
  | fuel + 1, c =>
    if c.atAnyDocumentMark then .error .malformed
    else
      let c := (c.span isBlank).2
      let (lineEnd, c') := c.lineBreak
      if lineEnd.isEmpty then .ok ([], c)
      else (quotedBreaks fuel c').map fun (breaks, c'') => (lineEnd ++ breaks, c'')

/-- An escape; the place is behind its backslash. -/
def quotedEscape (c : Cursor) : Except Failure (Text × Cursor) :=
  match c.rest with
  | [] => .error .malformed
  | x :: rest =>
    match escaped? x with
    | some y => .ok ([y], c.next)
    | none =>
    match escapeWidth? x with
    | some width =>
      let digits := (rest.take width).map CodePoint.hexValue?
      if digits.length < width then .error .malformed
      else
        match digits.mapM id with
        | none => .error .malformed
        | some digits => (codePointOfHex digits).map fun y => ([y], c.skip (width + 1))
    | none =>
      if isBreak x then
        let c' := c.lineBreak.2
        quotedBreaks (c'.rest.length + 1) c'
      else .error .malformed

/-- A scalar from behind its opening quote to behind the closing one. -/
def quotedScalar (double : Bool) : Nat → Cursor → Except Failure (Text × Cursor)
  | 0, _ => .error .malformed
  | fuel + 1, c =>
    let after (head : Text) (c : Cursor) : Except Failure (Text × Cursor) :=
      (quotedScalar double fuel c).map fun (tail, c) => (head ++ tail, c)
    match c.rest with
    | [] => .error .malformed
    | x :: rest =>
      if x = '\x27' && !double then
        if startsWith '\x27' rest then after [x] (c.skip 2) else .ok ([], c.next)
      else if x = '"' && double then .ok ([], c.next)
      else if x = '\\' && double then
        match quotedEscape c.next with
        | .error e => .error e
        | .ok (t, c) => after t c
      else if isBlank x || isBreak x then
        let (blanks, c') := c.span isBlank
        let (lineEnd, c'') := c'.lineBreak
        if c'.rest.isEmpty then .error .malformed
        else if lineEnd.isEmpty then after blanks c'
        else
          match quotedBreaks (c''.rest.length + 1) c'' with
          | .error e => .error e
          | .ok (breaks, c) => after (folded lineEnd breaks) c
      else after [x] c.next

/-! ## Block scalars -/

/-- What the header of a block scalar says. -/
structure BlockHeader where
  /-- What happens to the line ends behind the text: `some true` keeps all, `some false` drops all, and `none`
  keeps one. -/
  keep : Option Bool
  /-- By how much the block is indented more than its surroundings, if the header says so. -/
  indent : Option Nat

/-- The sign of a header that says what happens to the line ends at the end. -/
def keepMark? : Text → Option Bool
  | [] => none
  | c :: _ => if c = '+' then some true else if c = '-' then some false else none

/-- The digit of a header. -/
def indentMark? : Text → Option Nat
  | [] => none
  | c :: _ => if c.isDigit then some (c.toNat - 48) else none

/-- Reads a header: a sign and a digit in either order, each of which may be missing. -/
def blockHeader (c : Cursor) : Except Failure (BlockHeader × Cursor) := do
  let (header, c) : BlockHeader × Cursor :=
    match keepMark? c.rest with
    | some keep =>
      let c := c.next
      match indentMark? c.rest with
      | some n => (⟨keep, n⟩, c.next)
      | none => (⟨keep, none⟩, c)
    | none =>
      match indentMark? c.rest with
      | some n =>
        let c := c.next
        match keepMark? c.rest with
        | some keep => (⟨keep, n⟩, c.next)
        | none => (⟨none, n⟩, c)
      | none => (⟨none, none⟩, c)
  if header.indent = some 0 then throw .malformed
  if !atSpace c.rest then throw .malformed
  return (header, c)

/-- Reads the rest of the line of a header or a directive: spaces, a comment, and the line end. -/
def lineRest (c : Cursor) : Except Failure Cursor :=
  let c := c.skipSpaces.skipComment
  if atBreak c.rest then .ok c.lineBreak.2 else .error .malformed

/-- The empty lines before a block and the greatest indentation among them and the first line of text. -/
def blockIndentation : Nat → Nat → Cursor → Text × Nat × Cursor
  | 0, most, c => ([], most, c)
  | fuel + 1, most, c =>
    if startsWith ' ' c.rest then
      let c := c.skipSpaces
      blockIndentation fuel (max most c.column) c
    else
      let (lineEnd, c') := c.lineBreak
      if lineEnd.isEmpty then ([], most, c)
      else
        let (breaks, most, c'') := blockIndentation fuel most c'
        (lineEnd ++ breaks, most, c'')

/-- The empty lines within a block that is indented by `indent`, up to the text of the next line. -/
def blockBreaks (indent : Nat) : Nat → Cursor → Text × Cursor
  | 0, c => ([], c)
  | fuel + 1, c =>
    let c := c.skipSpacesTo indent
    let (lineEnd, c') := c.lineBreak
    if lineEnd.isEmpty then ([], c)
    else
      let (breaks, c'') := blockBreaks indent fuel c'
      (lineEnd ++ breaks, c'')

/-- The lines of a block: its text, the line end of its last line, and the line ends behind that. `before` is
what stands between the last line and this one. -/
def blockLines (fold : Bool) (indent : Nat) : Nat → Text → Cursor → Text × Text × Text × Cursor
  | 0, before, c => ([], [], before, c)
  | fuel + 1, before, c =>
    if c.column = indent && !c.rest.isEmpty then
      let (line, c') := c.span fun x => !isBreak x
      let (lineEnd, c'') := c'.lineBreak
      let (breaks, c₃) := blockBreaks indent (c''.rest.length + 1) c''
      if c₃.column = indent && !c₃.rest.isEmpty then
        let indented (t : Text) : Bool :=
          match t with
          | [] => false
          | x :: _ => isBlank x
        let between : Text :=
          if fold && lineEnd = ("\n" : Text) && !indented c.rest && !indented c₃.rest then
            if breaks.isEmpty then [' '] else []
          else lineEnd
        let (tail, lastEnd, breaks', c₄) := blockLines fold indent fuel (between ++ breaks) c₃
        (before ++ line ++ tail, lastEnd, breaks', c₄)
      else (before ++ line, lineEnd, breaks, c₃)
    else ([], [], before, c)

/-- A block scalar from behind its indicator; `indent` is the indentation of the surroundings. -/
def blockScalar (fold : Bool) (indent : Int) (c : Cursor) : Except Failure (Text × Cursor) := do
  let (header, c) ← blockHeader c
  let c ← lineRest c
  let least := max 1 (indent + 1).toNat
  let (breaks, indent, c) :=
    match header.indent with
    | none =>
      let (breaks, most, c) := blockIndentation (c.rest.length + 1) 0 c
      (breaks, max least most, c)
    | some n =>
      let indent := least + n - 1
      let (breaks, c) := blockBreaks indent (c.rest.length + 1) c
      (breaks, indent, c)
  let (text, lastEnd, breaks, c) := blockLines fold indent (c.rest.length + 1) breaks c
  let ending : Text := if header.keep = some false then [] else lastEnd
  let tail : Text := if header.keep = some true then breaks else []
  return (text ++ ending ++ tail, c)

end LayeredConfig.Yaml
