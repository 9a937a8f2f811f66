/-!
# Line ends

Two views of the lines of a text: `unifyNewlines` writes every line end as a line feed, `splitLines` cuts
a text at every character that ends a line.
-/

namespace PropertyQuote.Text

/-- Writes a carriage return, alone or before a line feed, as one line feed. -/
def unifyNewlines : List Char → List Char
  | [] => []
  | '\r' :: '\n' :: rest => '\n' :: unifyNewlines rest
  | '\r' :: rest => '\n' :: unifyNewlines rest
  | c :: rest => c :: unifyNewlines rest

/-- The characters that end a line: line feed, vertical tab, form feed, carriage return, the
information separators U+001C to U+001E, next line, and the line and paragraph separators. -/
def endsLine (c : Char) : Bool :=
  let n := c.toNat
  (0x0a ≤ n && n ≤ 0x0d) || (0x1c ≤ n && n ≤ 0x1e) || n == 0x85 || n == 0x2028 || n == 0x2029

/-- The lines of a text after the characters `line` (in reverse) that began the current one.  A
carriage return with a line feed is one line end, and a text that ends with a line end has no empty
last line. -/
def splitLinesFrom (line : List Char) : List Char → List (List Char)
  | [] => if line.isEmpty then [] else [line.reverse]
  | '\r' :: '\n' :: rest => line.reverse :: splitLinesFrom [] rest
  | c :: rest =>
    if endsLine c then line.reverse :: splitLinesFrom [] rest
    else splitLinesFrom (c :: line) rest

/-- The lines of a text, without their line ends. -/
def splitLines (s : List Char) : List (List Char) :=
  splitLinesFrom [] s

/-- Cuts a list at every element that satisfies `p`; there is one more part than there are cuts. -/
def splitAtEach {α : Type} (p : α → Bool) : List α → List (List α)
  | [] => [[]]
  | a :: rest =>
    if p a then [] :: splitAtEach p rest
    else
      match splitAtEach p rest with
      | [] => [[a]]
      | part :: parts => (a :: part) :: parts

/-- The parts of a string between the occurrences of one character. -/
def splitOnChar (c : Char) (s : String) : List String :=
  (splitAtEach (· == c) s.toList).map String.ofList

end PropertyQuote.Text
