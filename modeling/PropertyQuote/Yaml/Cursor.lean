/-!
# Places in a YAML text

A cursor stands before the rest of a text and counts characters, lines and columns.
-/

namespace PropertyQuote.Yaml

/-- A place in a text. -/
structure Cursor where
  rest : List Char
  index : Nat := 0
  line : Nat := 0
  column : Nat := 0

/-- Characters that break a line. -/
def isBreak (c : Char) : Bool :=
  c == '\r' || c == '\n' || c == '\x85' || c == '\u2028' || c == '\u2029'

/-- A line break, or the end of the text, which reads as the null character. -/
def isBreakOrEnd (c : Char) : Bool :=
  c == '\x00' || isBreak c

/-- A blank, a line break, or the end of the text. -/
def isSpaceOrEnd (c : Char) : Bool :=
  c == ' ' || isBreakOrEnd c

/-- A blank, a tab, a line break, or the end of the text. -/
def isGapOrEnd (c : Char) : Bool :=
  c == '\t' || isSpaceOrEnd c

/-- Characters of anchors, handles and directive names. -/
def isWordPart (c : Char) : Bool :=
  c.isAlphanum || c == '-' || c == '_'

/-- Characters that may stand in a text at all. -/
def isPrintable (c : Char) : Bool :=
  let n := c.toNat
  n == 0x09 || n == 0x0a || n == 0x0d || (0x20 ≤ n && n ≤ 0x7e) || n == 0x85 ||
    (0xa0 ≤ n && n ≤ 0xfffd) || 0x10000 ≤ n

namespace Cursor

/-- The character `k` places ahead; past the end it is null. -/
def peek (s : Cursor) (k : Nat := 0) : Char :=
  s.rest.getD k '\x00'

/-- The cursor behind one character.  A carriage return before a line feed does not end the line, and a
byte order mark has no width. -/
def next (s : Cursor) : Cursor :=
  match s.rest with
  | [] => s
  | c :: rest =>
    if c == '\n' || c == '\x85' || c == '\u2028' || c == '\u2029' ||
        (c == '\r' && rest.head? != some '\n') then
      ⟨rest, s.index + 1, s.line + 1, 0⟩
    else if c == '\ufeff' then ⟨rest, s.index + 1, s.line, s.column⟩
    else ⟨rest, s.index + 1, s.line, s.column + 1⟩

/-- The cursor behind `n` characters. -/
def advance (s : Cursor) : Nat → Cursor
  | 0 => s
  | n + 1 => s.next.advance n

/-- The characters up to the first that fails the test. -/
def run (s : Cursor) (p : Char → Bool) : List Char :=
  s.rest.takeWhile p

/-- The cursor at the first character that fails the test. -/
def skip (s : Cursor) (p : Char → Bool) : Cursor :=
  s.advance (s.run p).length

/-- The line break at the cursor, in the form in which it counts, and the cursor behind it. -/
def lineBreak (s : Cursor) : List Char × Cursor :=
  match s.rest with
  | '\r' :: '\n' :: _ => (['\n'], s.advance 2)
  | c :: _ =>
    if c == '\r' || c == '\n' || c == '\x85' then (['\n'], s.next)
    else if c == '\u2028' || c == '\u2029' then ([c], s.next)
    else ([], s)
  | [] => ([], s)

/-- Whether a line of three dashes or three dots starts at the cursor. -/
def atSeparator (s : Cursor) : Bool :=
  let start := s.rest.take 3
  (start == ['-', '-', '-'] || start == ['.', '.', '.']) && isGapOrEnd (s.peek 3)

end Cursor

end PropertyQuote.Yaml
