import PropertyQuote.Text.Blank
import PropertyQuote.Text.Hex
import PropertyQuote.Text.Identifier

/-!
# Words of templates

The code in a template as a list of words: names, texts between quotes, numbers and marks.
-/

namespace PropertyQuote.Template

/-- A word of code. -/
inductive Word where
  | ident (s : String)
  | string (s : String)
  | number (n : Nat)
  | mark (c : Char)
deriving DecidableEq, Repr

/-! ## Texts between quotes -/

/-- A character beyond ASCII as the escape that stands for it. -/
def escaped (c : Char) : List Char :=
  let n := c.toNat
  if n < 0x80 then [c]
  else if n < 0x100 then '\\' :: 'x' :: Text.hex 2 n
  else if n < 0x10000 then '\\' :: 'u' :: Text.hex 4 n
  else '\\' :: 'U' :: Text.hex 8 n

/-- What a single character after a backslash stands for. -/
def unescape? (c : Char) : Option (List Char) :=
  match c with
  | '\n' => some []
  | '\\' => some ['\\']
  | '\x27' => some ['\x27']
  | '"' => some ['"']
  | 'a' => some ['\x07']
  | 'b' => some ['\x08']
  | 't' => some ['\t']
  | 'n' => some ['\n']
  | 'v' => some ['\x0b']
  | 'f' => some ['\x0c']
  | 'r' => some ['\r']
  | _ => none

/-- How many hexadecimal digits follow a letter after a backslash. -/
def numberDigits? (c : Char) : Option Nat :=
  match c with
  | 'x' => some 2
  | 'u' => some 4
  | 'U' => some 8
  | _ => none

/-- A digit of base eight. -/
def isOctal (c : Char) : Bool :=
  '0' ≤ c && c ≤ '7'

/-- The number that some digits write. -/
def digitsValue? (base : Nat) (digits : List Char) : Option Nat :=
  digits.foldlM (fun n c => (Text.hexValue? c).map (base * n + ·)) 0

/-- The character with the given number; half of a character is replaced. -/
def numbered? (n : Nat) : Option Char :=
  if 0x110000 ≤ n then none
  else if 0xd800 ≤ n && n < 0xe000 then some '\ufffd'
  else some (Char.ofNat n)

/-- One escape behind its backslash, and the rest. -/
def escape? (s : List Char) : Option (List Char × List Char) :=
  match s with
  | [] => none
  | c :: rest =>
    match unescape? c, numberDigits? c with
    | some cs, _ => some (cs, rest)
    | none, some count =>
      let digits := rest.take count
      if digits.length == count then
        ((digitsValue? 16 digits).bind numbered?).map fun d => ([d], rest.drop count)
      else none
    | none, none =>
      if isOctal c then
        let digits := (s.take 3).takeWhile isOctal
        ((digitsValue? 8 digits).bind numbered?).map fun d => ([d], s.drop digits.length)
      else if c == 'N' then none
      else some (['\\', c], rest)

/-- The text of characters with escapes. -/
def unescapeAll? : Nat → List Char → Option (List Char)
  | _, [] => some []
  | 0, _ => none
  | fuel + 1, c :: rest =>
    if c == '\\' then
      (escape? rest).bind fun (cs, rest) => (unescapeAll? fuel rest).map (cs ++ ·)
    else (unescapeAll? fuel rest).map (c :: ·)

/-- The text that is written between quotes.  Characters beyond ASCII count as their escapes, so that a backslash
before one of them makes it a text of several characters. -/
def quotedText? (s : List Char) : Option String :=
  let ascii := s.flatMap escaped
  (unescapeAll? (ascii.length + 1) ascii).map String.ofList

/-- Cuts a text at the closing quote. -/
def cutQuoted? (quote : Char) : List Char → Option (List Char × List Char)
  | [] => none
  | '\\' :: c :: rest => (cutQuoted? quote rest).map fun (s, rest) => ('\\' :: c :: s, rest)
  | c :: rest =>
    if c == quote then some ([], rest)
    else (cutQuoted? quote rest).map fun (s, rest) => (c :: s, rest)

/-! ## Words -/

/-- Digits, where single underscores may stand between two of them. -/
def digitRun : List Char → List Char
  | c :: '_' :: d :: rest =>
    if c.isDigit then (if d.isDigit then c :: '_' :: digitRun (d :: rest) else [c]) else []
  | c :: rest => if c.isDigit then c :: digitRun rest else []
  | [] => []

/-- Zeros, where single underscores may stand between two of them. -/
def zeroRun : List Char → List Char
  | c :: '_' :: d :: rest =>
    if c == '0' then (if d == '0' then c :: '_' :: zeroRun (d :: rest) else [c]) else []
  | c :: rest => if c == '0' then c :: zeroRun rest else []
  | [] => []

/-- The whole number at the start of a text: a number does not start with zero unless it is zero. -/
def cutNumber (s : List Char) : Nat × List Char :=
  let run := if s.head? == some '0' then zeroRun s else digitRun s
  ((digitsValue? 10 (run.filter (· != '_'))).getD 0, s.drop run.length)

/-- The marks of code. -/
def marks : List Char :=
  "+-/*%~[]()\x7b\x7d=!><.:|,;".toList

/-- The first word of a text that does not start with a blank, and the rest. -/
def firstWord? (s : List Char) : Option (Word × List Char) :=
  match s with
  | [] => none
  | c :: rest =>
    if c.isDigit then
      let (n, rest) := cutNumber s
      some (.number n, rest)
    else if Text.isNamePart c then
      let name := s.takeWhile Text.isNamePart
      if Text.isIdentifier name then some (.ident (String.ofList name), s.drop name.length) else none
    else if c == '"' || c == '\x27' then
      (cutQuoted? c rest).bind fun (inner, rest) =>
        (quotedText? inner).map fun text => (.string text, rest)
    else if marks.contains c then some (.mark c, rest)
    else none

end PropertyQuote.Template
