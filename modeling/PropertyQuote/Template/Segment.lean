import PropertyQuote.Template.Word

/-!
# Segments of templates

A template is cut into segments: text, printed expressions between double braces, tags between a brace and
a percent sign, and comments.  Blanks before a tag or comment that starts its line do not count, nor does
the line end right after one; a minus sign at an end leaves out all blanks on that side, and a plus sign keeps
them.
-/

namespace PropertyQuote.Template

/-- A segment of a template, where code is cut into words. -/
inductive Segment where
  | text (s : List Char)
  | print (words : List Word)
  | tag (words : List Word)

/-- What a brace opens. -/
inductive Opening where
  | print
  | tag
  | comment
deriving DecidableEq

/-- The second character of an opening. -/
def openingOf? (c : Char) : Option Opening :=
  match c with
  | '\x7b' => some .print
  | '%' => some .tag
  | '#' => some .comment
  | _ => none

/-- Cuts a template at the first opening: the text before it, what is opened, and the rest. -/
def cutOpening : List Char → List Char × Option (Opening × List Char)
  | '\x7b' :: c :: rest =>
    match openingOf? c with
    | some opening => ([], some (opening, rest))
    | none =>
      let (text, found) := cutOpening (c :: rest)
      ('\x7b' :: text, found)
  | c :: rest =>
    let (text, found) := cutOpening rest
    (c :: text, found)
  | [] => ([], none)

/-- What is done with the blanks at one side of an opening or an end. -/
inductive Margin where
  | usual
  | leave
  | keep
deriving DecidableEq

/-- The sign behind an opening. -/
def cutSign (s : List Char) : Margin × List Char :=
  match s with
  | '-' :: rest => (.leave, rest)
  | '+' :: rest => (.keep, rest)
  | _ => (.usual, s)

/-- Text before a tag: the blanks at its end go if nothing else stands on the line. -/
def withoutIndent (atLineStart : Bool) (text : List Char) : List Char :=
  let tail := (text.reverse.takeWhile (· != '\n')).reverse
  if (tail.length < text.length || atLineStart) && tail.all Text.isBlank then
    text.take (text.length - tail.length)
  else text

/-- Text before an opening with the given sign. -/
def textBefore (atLineStart : Bool) (opening : Opening) (margin : Margin) (text : List Char) : List Char :=
  match margin with
  | .leave => Text.trimEnd text
  | .keep => text
  | .usual => if opening == .print then text else withoutIndent atLineStart text

/-- What follows an end: whether it stands at the start of a line, and the rest. -/
def afterEnd (margin : Margin) (rest : List Char) : Bool × List Char :=
  match margin, rest with
  | .leave, _ => (false, Text.trimStart rest)
  | .usual, '\n' :: rest => (true, rest)
  | _, _ => (false, rest)

/-- The end of a tag or comment whose last two characters are `c` and a brace. -/
def end? (c : Char) (s : List Char) : Option (Bool × List Char) :=
  match s with
  | '+' :: d :: '\x7d' :: rest => if d == c then some (afterEnd .keep rest) else none
  | '-' :: d :: '\x7d' :: rest => if d == c then some (afterEnd .leave rest) else none
  | d :: '\x7d' :: rest => if d == c then some (afterEnd .usual rest) else none
  | _ => none

/-- The end of a printed expression. -/
def printEnd? (s : List Char) : Option (Bool × List Char) :=
  match s with
  | '-' :: '\x7d' :: '\x7d' :: rest => some (afterEnd .leave rest)
  | '\x7d' :: '\x7d' :: rest => some (false, rest)
  | _ => none

/-- The end of code. -/
def codeEnd? (opening : Opening) (s : List Char) : Option (Bool × List Char) :=
  if opening == .print then printEnd? s else end? '%' s

/-- What follows a comment; none if it does not end. -/
def comment? : List Char → Option (Bool × List Char)
  | [] => none
  | c :: rest =>
    match end? '#' (c :: rest) with
    | some found => some found
    | none => comment? rest

/-- The bracket that closes another one. -/
def closing? (c : Char) : Option Char :=
  match c with
  | '(' => some ')'
  | '[' => some ']'
  | '\x7b' => some '\x7d'
  | _ => none

/-- The brackets that are open after a word; none if the word closes what was not opened. -/
def bracketsAfter? (opened : List Char) : Word → Option (List Char)
  | .mark c =>
    match closing? c with
    | some closer => some (closer :: opened)
    | none =>
      if [')', ']', '\x7d'].contains c then
        (if opened.head? == some c then some opened.tail else none)
      else some opened
  | _ => some opened

/-- The words of code up to its end, which does not count between brackets, and what follows it. -/
def code? (opening : Opening) : Nat → List Char → List Char → Option (List Word × Bool × List Char)
  | fuel + 1, brackets, s =>
    let s := Text.trimStart s
    match if brackets.isEmpty then codeEnd? opening s else none with
    | some (atLineStart, rest) => some ([], atLineStart, rest)
    | none => do
      let (word, rest) ← firstWord? s
      let (words, after) ← code? opening fuel (← bracketsAfter? brackets word) rest
      return (word :: words, after)
  | 0, _, _ => none

/-- The text behind a keyword between blanks. -/
def afterKeyword? (word : String) (s : List Char) : Option (List Char) :=
  let s := Text.trimStart s
  if word.toList.isPrefixOf s then some (Text.trimStart (s.drop word.length)) else none

/-- The text behind the tag that starts a part of the template that is all text. -/
def rawStart? (s : List Char) : Option (List Char) :=
  (afterKeyword? "raw" s).bind fun s =>
    match s with
    | '-' :: '%' :: '\x7d' :: rest => some (Text.trimStart rest)
    | '%' :: '\x7d' :: rest => some rest
    | _ => none

/-- Cuts such a part at the tag that ends it. -/
def rawEnd? : List Char → Option (List Char × Margin × Bool × List Char)
  | [] => none
  | c :: rest =>
    let found := match c :: rest with
      | '\x7b' :: '%' :: inner =>
        let (margin, inner) := cutSign inner
        ((afterKeyword? "endraw" inner).bind (end? '%')).map fun after => ([], margin, after)
      | _ => none
    match found with
    | some found => some found
    | none => (rawEnd? rest).map fun (text, after) => (c :: text, after)

/-- Adds a text segment unless it is empty. -/
def addText (text : List Char) (rest : List Segment) : List Segment :=
  if text.isEmpty then rest else .text text :: rest

/-- The segments of a template; none if code or a comment does not end or holds what is no word. -/
def segments? : Nat → Bool → List Char → Option (List Segment)
  | fuel + 1, atLineStart, s =>
    match cutOpening s with
    | (text, none) => some (addText text [])
    | (text, some (opening, rest)) => do
      let (margin, rest) := cutSign rest
      let before := addText (textBefore atLineStart opening margin text)
      match opening, if opening == .tag then rawStart? rest else none with
      | .comment, _ =>
        let (atLineStart, rest) ← comment? rest
        return before (← segments? fuel atLineStart rest)
      | _, some raw =>
        let (text, margin, atLineStart, rest) ← rawEnd? raw
        return before (addText (textBefore false .tag margin text) (← segments? fuel atLineStart rest))
      | .print, none =>
        let (words, atLineStart, rest) ← code? .print (rest.length + 1) [] rest
        return before (.print words :: (← segments? fuel atLineStart rest))
      | .tag, none =>
        let (words, atLineStart, rest) ← code? .tag (rest.length + 1) [] rest
        return before (.tag words :: (← segments? fuel atLineStart rest))
  | 0, _, _ => none

end PropertyQuote.Template
