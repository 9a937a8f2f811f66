import PropertyQuote.Text.Hex
import PropertyQuote.Text.Wide
import PropertyQuote.Yaml.Cursor
import PropertyQuote.Yaml.Error

/-!
# Scalars in a YAML text

The three ways to write a scalar: plain, quoted and as a block.  Each reader starts at the scalar and
gives its text and the cursor behind it; none is given for a text that is malformed.
-/

namespace PropertyQuote.Yaml

/-- What a line break between two lines of a scalar reads as: a blank, unless there are empty lines or
the break is a separator of its own. -/
def foldBreak (first : List Char) (more : List Char) : List Char :=
  if first != ['\n'] then first ++ more else if more.isEmpty then [' '] else more

/-! ## Plain scalars -/

/-- Whether a plain scalar ends before the character `c` that `next` follows. -/
def endsPlain (inFlow : Bool) (c next : Char) : Bool :=
  isGapOrEnd c ||
    (c == ':' && (isGapOrEnd next || (inFlow && [',', '[', ']', '\x7b', '\x7d'].contains next))) ||
    (inFlow && [',', '?', '[', ']', '\x7b', '\x7d'].contains c)

/-- The length of the part of a plain scalar at the start of a text. -/
def plainLength (inFlow : Bool) : List Char → Nat
  | [] => 0
  | c :: rest => if endsPlain inFlow c (rest.headD '\x00') then 0 else plainLength inFlow rest + 1

/-- The line breaks and blanks at a cursor that stands behind a line break; none if a separator is
met. -/
def plainBreaks : Nat → Cursor → Option (List Char) × Cursor
  | fuel + 1, s =>
    if s.peek == ' ' then plainBreaks fuel s.next
    else if isBreak s.peek then
      let (first, s) := s.lineBreak
      if s.atSeparator then (none, s)
      else
        let (more, s) := plainBreaks fuel s
        (more.map (first ++ ·), s)
    else (some [], s)
  | 0, s => (some [], s)

/-- The gap between two parts of a plain scalar, whether it crosses a line end, and the cursor behind
it. -/
def plainGap (s : Cursor) : List Char × Bool × Cursor :=
  let blanks := s.run (· == ' ')
  let s := s.advance blanks.length
  if isBreak s.peek then
    let (first, s) := s.lineBreak
    if s.atSeparator then ([], true, s)
    else
      match plainBreaks (s.rest.length + 1) s with
      | (none, s) => ([], true, s)
      | (some more, s) => (foldBreak first more, true, s)
  else (blanks, false, s)

/-- The rest of a plain scalar after the gap `gap`; `crossed` says whether a line end was read. -/
def plainFrom (inFlow : Bool) (indent : Int) :
    Nat → List Char → Bool → Cursor → List Char × Bool × Cursor
  | fuel + 1, gap, crossed, s =>
    let length := if s.peek == '#' then 0 else plainLength inFlow s.rest
    if length == 0 then ([], crossed, s)
    else
      let part := gap ++ s.rest.take length
      let (gap, crossed, s) := plainGap (s.advance length)
      if gap.isEmpty || s.peek == '#' || (!inFlow && (s.column : Int) < indent) then (part, crossed, s)
      else
        let (more, crossed, s) := plainFrom inFlow indent fuel gap crossed s
        (part ++ more, crossed, s)
  | 0, _, crossed, s => ([], crossed, s)

/-- A plain scalar, whether it ends behind a line end, and the cursor behind it.  Outside of flow
collections its lines are indented by at least `indent`. -/
def plainScalar (inFlow : Bool) (indent : Int) (s : Cursor) : List Char × Bool × Cursor :=
  plainFrom inFlow indent (s.rest.length + 1) [] false s

/-! ## Quoted scalars -/

/-- What a letter after a backslash stands for. -/
def escapes : List (Char × Char) :=
  [('0', '\x00'), ('a', '\x07'), ('b', '\x08'), ('t', '\x09'), ('\t', '\x09'), ('n', '\x0a'),
   ('v', '\x0b'), ('f', '\x0c'), ('r', '\x0d'), ('e', '\x1b'), (' ', ' '), ('"', '"'), ('/', '/'),
   ('\\', '\\'), ('N', '\x85'), ('_', '\xa0'), ('L', '\u2028'), ('P', '\u2029')]

/-- How many digits follow a letter that numbers a character. -/
def escapeDigits? (c : Char) : Option Nat :=
  match c with
  | 'x' => some 2
  | 'u' => some 4
  | 'U' => some 8
  | _ => none

/-- The number that some hexadecimal digits write. -/
def hexNumber? (digits : List Char) : Option Nat :=
  digits.foldlM (fun n c => (Text.hexValue? c).map (16 * n + ·)) 0

/-- The empty lines and the indentation at a cursor that stands behind a line break. -/
def quotedBreaks? : Nat → Cursor → Option (List Char × Cursor)
  | fuel + 1, s =>
    if s.atSeparator then none
    else
      let s := s.skip fun c => c == ' ' || c == '\t'
      if isBreak s.peek then
        let (first, s) := s.lineBreak
        (quotedBreaks? fuel s).map fun (more, s) => (first ++ more, s)
      else some ([], s)
  | 0, _ => none

/-- The character with the given number; half of a character is replaced. -/
def numbered (n : Nat) : Except Error Char :=
  if n < 0x110000 then .ok (Text.charOf n)
  else if n < 0x80000000 then .error (.impossible "chr() arg not in range(0x110000)")
  else .error (.tooLarge "Python int too large to convert to C int")

/-- One escape of a double-quoted scalar, behind its backslash. -/
def escape (s : Cursor) : Except Error (List Char × Cursor) :=
  match escapes.find? (·.1 == s.peek), escapeDigits? s.peek with
  | some (_, c), _ => .ok ([c], s.next)
  | none, some count =>
    let digits := (s.rest.drop 1).take count
    if digits.length == count then
      (orMalformed (hexNumber? digits)).bind fun n =>
        (numbered n).map fun c => ([c], s.advance (count + 1))
    else .error .malformed
  | none, none =>
    if isBreak s.peek then orMalformed (quotedBreaks? (s.rest.length + 1) s.lineBreak.2)
    else .error .malformed

/-- The gap at a cursor in a quoted scalar. -/
def quotedGap? (s : Cursor) : Option (List Char × Cursor) :=
  let blanks := s.run fun c => c == ' ' || c == '\t'
  let s := s.advance blanks.length
  if s.peek == '\x00' then none
  else if isBreak s.peek then
    let (first, s) := s.lineBreak
    (quotedBreaks? (s.rest.length + 1) s).map fun (more, s) => (foldBreak first more, s)
  else some (blanks, s)

/-- The rest of a quoted scalar, up to the closing quote. -/
def quotedFrom (double : Bool) : Nat → Cursor → Except Error (List Char × Cursor)
  | fuel + 1, s =>
    let c := s.peek
    let goOn (found : List Char × Cursor) : Except Error (List Char × Cursor) :=
      (quotedFrom double fuel found.2).map fun (more, s) => (found.1 ++ more, s)
    if c == '\x27' && !double then
      (if s.peek 1 == '\x27' then goOn (['\x27'], s.advance 2) else .ok ([], s.next))
    else if c == '"' && double then .ok ([], s.next)
    else if c == '\\' && double then (escape s.next).bind goOn
    else if isGapOrEnd c then (orMalformed (quotedGap? s)).bind goOn
    else goOn ([c], s.next)
  | 0, _ => .error .malformed

/-- A quoted scalar, at its opening quote. -/
def quotedScalar (s : Cursor) : Except Error (List Char × Cursor) :=
  quotedFrom (s.peek == '"') (s.rest.length + 1) s.next

/-! ## Block scalars -/

/-- How the end of a block scalar reads: one line break, none, or all of them. -/
inductive Chomping where
  | clip
  | strip
  | keep
deriving DecidableEq

/-- The sign of a chomping. -/
def chompingOf? (c : Char) : Option Chomping :=
  match c with
  | '+' => some .keep
  | '-' => some .strip
  | _ => none

/-- The chomping and the indentation that the head of a block scalar asks for, in either order. -/
def blockHead? (s : Cursor) : Option (Chomping × Option Nat × Cursor) :=
  let digit (s : Cursor) : Option (Option Nat × Cursor) :=
    if s.peek.isDigit then
      (if s.peek == '0' then none else some (some (s.peek.toNat - 0x30), s.next))
    else some (none, s)
  match chompingOf? s.peek with
  | some chomping =>
    (digit s.next).bind fun (increment, s) =>
      if isSpaceOrEnd s.peek then some (chomping, increment, s) else none
  | none =>
    (digit s).bind fun (increment, s) =>
      let (chomping, s) := match increment, chompingOf? s.peek with
        | some _, some chomping => (chomping, s.next)
        | _, _ => (.clip, s)
      if isSpaceOrEnd s.peek then some (chomping, increment, s) else none

/-- The cursor behind the rest of a line that may only hold a comment. -/
def restOfLine? (s : Cursor) : Option Cursor :=
  let s := s.skip (· == ' ')
  let s := if s.peek == '#' then s.skip (!isBreakOrEnd ·) else s
  if isBreakOrEnd s.peek then some s.lineBreak.2 else none

/-- The empty lines at the start of a block scalar, and the greatest column met in them. -/
def blockIndentation : Nat → Nat → Cursor → List Char × Nat × Cursor
  | fuel + 1, deepest, s =>
    if s.peek == ' ' then
      let s := s.next
      blockIndentation fuel (max deepest s.column) s
    else if isBreak s.peek then
      let (first, s) := s.lineBreak
      let (more, deepest, s) := blockIndentation fuel deepest s
      (first ++ more, deepest, s)
    else ([], deepest, s)
  | 0, deepest, s => ([], deepest, s)

/-- The cursor behind at most so many blanks that it stands in the given column. -/
def skipIndent (indent : Nat) (s : Cursor) : Cursor :=
  s.advance (min (s.run (· == ' ')).length (indent - s.column))

/-- The empty lines between two lines of a block scalar. -/
def blockBreaks (indent : Nat) : Nat → Cursor → List Char × Cursor
  | fuel + 1, s =>
    let s := skipIndent indent s
    if isBreak s.peek then
      let (first, s) := s.lineBreak
      let (more, s) := blockBreaks indent fuel s
      (first ++ more, s)
    else ([], s)
  | 0, s => ([], s)

/-- The lines of a block scalar after the empty lines `breaks`: the text up to the last line, its line
break, and the empty lines behind it. -/
def blockLines (folded : Bool) (indent : Nat) :
    Nat → List Char → Cursor → List Char × List Char × List Char × Cursor
  | fuel + 1, breaks, s =>
    if s.column == indent && s.peek != '\x00' then
      let isText := s.peek != ' ' && s.peek != '\t'
      let line := s.run (!isBreakOrEnd ·)
      let (lineEnd, s) := (s.advance line.length).lineBreak
      let (after, s) := blockBreaks indent (s.rest.length + 1) s
      if s.column == indent && s.peek != '\x00' then
        let joint :=
          if folded && lineEnd == ['\n'] && isText && s.peek != ' ' && s.peek != '\t' then
            (if after.isEmpty then [' '] else [])
          else lineEnd
        let (text, lineEnd, last, s) := blockLines folded indent fuel after s
        (breaks ++ line ++ joint ++ text, lineEnd, last, s)
      else (breaks ++ line, lineEnd, after, s)
    else ([], [], breaks, s)
  | 0, breaks, s => ([], [], breaks, s)

/-- A block scalar, at its sign, inside a block that is indented by `outer`. -/
def blockScalar? (outer : Int) (s : Cursor) : Option (List Char × Cursor) := do
  let folded := s.peek == '>'
  let (chomping, increment, s) ← blockHead? s.next
  let s ← restOfLine? s
  let least := (max (outer + 1) 1).toNat
  let (breaks, indent, s) := match increment with
    | none =>
      let (breaks, deepest, s) := blockIndentation (s.rest.length + 1) 0 s
      (breaks, max least deepest, s)
    | some n =>
      let indent := least + n - 1
      let (breaks, s) := blockBreaks indent (s.rest.length + 1) s
      (breaks, indent, s)
  let (text, lineEnd, last, s) := blockLines folded indent (s.rest.length + 1) breaks s
  return (match chomping with
    | .strip => text
    | .clip => text ++ lineEnd
    | .keep => text ++ lineEnd ++ last, s)

end PropertyQuote.Yaml
