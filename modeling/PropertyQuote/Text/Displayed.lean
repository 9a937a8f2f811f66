import PropertyQuote.Text.Hex
import PropertyQuote.Text.Hidden

/-!
# Texts in messages

A text as a message shows it: between quotes, with characters that cannot be seen written as numbers.
-/

namespace PropertyQuote.Text

/-- A character between the given quotes; it is written as it is if it `shows`. -/
def displayedChar (shows : Char → Bool) (quote c : Char) : List Char :=
  let n := c.toNat
  if c == quote || c == '\\' then ['\\', c]
  else if c == '\t' then ['\\', 't']
  else if c == '\n' then ['\\', 'n']
  else if c == '\r' then ['\\', 'r']
  else if shows c then [c]
  else if n ≤ 0xff then '\\' :: 'x' :: hex 2 n
  else if n ≤ 0xffff then '\\' :: 'u' :: hex 4 n
  else '\\' :: 'U' :: hex 8 n

/-- A text in quotes: double ones if it holds a single quote and no double one, else single ones. -/
def displayedWith (shows : Char → Bool) (text : String) : String :=
  let cs := text.toList
  let quote := if cs.contains '\x27' && !cs.contains '"' then '"' else '\x27'
  String.ofList (quote :: cs.flatMap (displayedChar shows quote) ++ [quote])

/-- A text in quotes with everything that can be seen. -/
def displayed (text : String) : String :=
  displayedWith (!isHidden ·) text

/-- A text in quotes with nothing but ASCII. -/
def displayedAscii (text : String) : String :=
  displayedWith (fun c => !isHidden c && c.toNat < 0x80) text

end PropertyQuote.Text
