import PropertyQuote.Text.Hex

/-!
# String literals

A text as a quoted C# string literal on one line.
-/

namespace PropertyQuote.Literal

/-- A code point of Unicode.  Surrogates are among them. -/
abbrev CodePoint := Fin 0x110000

/-- The code point of a character. -/
def CodePoint.ofChar (c : Char) : CodePoint :=
  Fin.ofNat 0x110000 c.toNat

/-- The letter that stands for a code point after a backslash. -/
def shortEscape? (n : Nat) : Option Char :=
  match n with
  | 0x22 => some '"'
  | 0x5c => some '\\'
  | 0x00 => some '0'
  | 0x07 => some 'a'
  | 0x08 => some 'b'
  | 0x0c => some 'f'
  | 0x0a => some 'n'
  | 0x0d => some 'r'
  | 0x09 => some 't'
  | 0x0b => some 'v'
  | _ => none

/-- Controls, surrogates, and the line and paragraph separators: they cannot stand in a literal as
they are. -/
def needsNumber (n : Nat) : Bool :=
  n < 0x20 || (0x7f ≤ n && n < 0xa0) || (0xd800 ≤ n && n < 0xe000) || n == 0x2028 || n == 0x2029

/-- A code point as it is written between the quotes. -/
def escape (p : CodePoint) : List Char :=
  match shortEscape? p.val with
  | some letter => ['\\', letter]
  | none => if needsNumber p.val then '\\' :: 'u' :: Text.hex 4 p.val else [Char.ofNat p.val]

/-- The literal of a sequence of code points. -/
def quoteCodePoints (ps : List CodePoint) : List Char :=
  '"' :: ps.flatMap escape ++ ['"']

/-- The literal of a text. -/
def quote (s : String) : String :=
  String.ofList (quoteCodePoints (s.toList.map CodePoint.ofChar))

end PropertyQuote.Literal
