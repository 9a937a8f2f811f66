import PropertyQuote.CSharp.Quotation
import PropertyQuote.Text.Blank

/-!
# Tokens of C#

The words, numbers, literals and marks of a source text with their ranges of bytes.  Blanks and comments are
left out, and everything from `#if` up to its `#endif` is one token.
-/

namespace PropertyQuote.CSharp

/-- What a token is. -/
inductive TokenKind where
  | word
  | number
  | literal
  | mark
  | directive
  /-- A conditional section. -/
  | conditional
  /-- A conditional section with nothing but attribute lists. -/
  | conditionalAttributes
  | gap
deriving DecidableEq, Repr

/-- A token with its range of bytes. -/
structure Token where
  kind : TokenKind
  text : String
  start : Nat
  stop : Nat
deriving Repr

/-- Blanks of a source text; a byte order mark is one. -/
def isGap (c : Char) : Bool :=
  Text.isBlank c || c == '\ufeff'

/-- Characters of names.  A backslash starts a numbered character, which may stand in a name. -/
def isNamePart (c : Char) : Bool :=
  c.isAlphanum || c == '_' || c == '\\' || (0x80 ≤ c.toNat && !isGap c)

/-- The marks of two characters. -/
def doubleMarks : List (Char × Char) :=
  [('=', '>'), ('=', '='), ('!', '='), ('<', '='), ('>', '='), (':', ':'), ('+', '='), ('-', '='),
   ('*', '='), ('/', '='), ('%', '='), ('&', '='), ('|', '='), ('^', '='), ('?', '?'), ('&', '&'),
   ('|', '|'), ('-', '>'), ('+', '+'), ('-', '-')]

/-- The number of characters of a number. -/
def numberLength : List Char → Nat
  | '.' :: c :: rest => if c.isDigit then numberLength rest + 2 else 0
  | c :: rest => if isNamePart c then numberLength rest + 1 else 0
  | [] => 0

/-- The number of characters of a line and of its end. -/
def lineLength (s : List Char) : Nat :=
  let line := (s.takeWhile (· != '\n')).length
  line + ((s.drop line).take 1).length

/-- The number of characters of a note in free words and of the end of its line.  A slash takes the next
character along, and a backslash the end of its line; a comment in the note may have several lines. -/
def noteLength (inComment : Bool) : List Char → Nat
  | '\\' :: '\r' :: '\n' :: rest => noteLength inComment rest + 3
  | '\\' :: '\n' :: rest => noteLength inComment rest + 2
  | '*' :: '/' :: rest =>
    if inComment then noteLength false rest + 2 else noteLength false ('/' :: rest) + 1
  | '/' :: c :: rest =>
    if inComment then noteLength true (c :: rest) + 1 else noteLength (c == '*') rest + 2
  | c :: rest => if c == '\n' && !inComment then 1 else noteLength inComment rest + 1
  | [] => 0

/-- The directives with a note in free words. -/
def notedDirectives : List String :=
  ["region", "endregion", "error", "warning"]

/-- The number of characters of a directive after its sign.  The words that end a branch stand alone; any
other directive takes the whole line with its end. -/
def directiveLength (s : List Char) : Nat :=
  let gap := (s.takeWhile fun c => c == ' ' || c == '\t').length
  let word := (s.drop gap).takeWhile Char.isAlpha
  let rest := s.drop (gap + word.length)
  let isCommented := (rest.dropWhile fun c => c == ' ' || c == '\t').take 2 == ['/', '/']
  if word == "endif".toList || word == "else".toList then gap + word.length
  else if notedDirectives.contains (String.ofList word) && !isCommented then
    gap + word.length + noteLength false rest
  else lineLength s

/-- The kind of the first token of a text and the number of characters after its first one. -/
def firstToken (c : Char) (rest : List Char) : TokenKind × Nat :=
  if isGap c then (.gap, 0)
  else if c == '/' && rest.head? == some '/' then (.gap, insideLength [.lineComment] rest)
  else if c == '/' && rest.head? == some '*' then
    (.gap, insideLength [.blockComment false] (rest.drop 1) + 1)
  else if c == '#' then (.directive, directiveLength rest)
  else
    match literalLength? (c :: rest) with
    | some n => (.literal, n - 1)
    | none =>
      if c.isDigit then (.number, numberLength rest)
      else if c == '@' || isNamePart c then (.word, (rest.takeWhile isNamePart).length)
      else if rest.head?.any fun d => doubleMarks.contains (c, d) then (.mark, 1)
      else (.mark, 0)

/-- The number of bytes of a text. -/
def byteLength (s : List Char) : Nat :=
  s.foldl (fun n c => n + c.utf8Size) 0

/-- All tokens of a text that starts at byte `offset`. -/
def tokensFrom (offset : Nat) (s : List Char) : List Token :=
  match s with
  | [] => []
  | c :: rest =>
    let found := firstToken c rest
    let taken := c :: rest.take found.2
    let stop := offset + byteLength taken
    let tail := tokensFrom stop (rest.drop found.2)
    if found.1 == .gap then tail else ⟨found.1, String.ofList taken, offset, stop⟩ :: tail
termination_by s.length
decreasing_by simp only [List.length_cons, List.length_drop]; omega

/-- A token, or tokens in brackets. -/
inductive TokenTree where
  | leaf (t : Token)
  | group (opening : Char) (start stop : Nat) (items : List TokenTree)

namespace TokenTree

/-- The first byte. -/
def start : TokenTree → Nat
  | leaf t => t.start
  | group _ s _ _ => s

/-- The byte after the last. -/
def stop : TokenTree → Nat
  | leaf t => t.stop
  | group _ _ e _ => e

/-- Whether the tree is the given mark. -/
def isMark (text : String) : TokenTree → Bool
  | leaf t => t.kind == .mark && t.text == text
  | group .. => false

/-- The text of a word. -/
def word? : TokenTree → Option String
  | leaf t => if t.kind == .word then some t.text else none
  | group .. => none

/-- Whether the tree is the given word. -/
def isWord (text : String) (t : TokenTree) : Bool :=
  t.word? == some text

/-- Whether the tree is a token of the given kind. -/
def isKind (kind : TokenKind) : TokenTree → Bool
  | leaf t => t.kind == kind
  | group .. => false

/-- Whether the tree is a group in the given brackets. -/
def isGroup (bracket : Char) : TokenTree → Bool
  | leaf _ => false
  | group b _ _ _ => b == bracket

end TokenTree

/-- A group that is not closed yet, and what stood before it (in reverse). -/
structure OpenGroup where
  bracket : Char
  start : Nat
  before : List TokenTree

/-- Closes all groups at the end of a text; `acc` holds the trees of the innermost one in reverse. -/
def closeAll : List OpenGroup → List TokenTree → List TokenTree
  | [], acc => acc.reverse
  | g :: outer, acc => closeAll outer (.group g.bracket g.start g.start acc.reverse :: g.before)

/-- Arranges tokens in groups; `acc` holds the trees of the innermost open group in reverse. -/
def arrange (groups : List OpenGroup) (acc : List TokenTree) : List Token → List TokenTree
  | [] => closeAll groups acc
  | t :: rest =>
    if t.kind == .mark && ["(", "[", "\x7b"].contains t.text then
      arrange (⟨t.text.toList.headD '(', t.start, acc⟩ :: groups) [] rest
    else if t.kind == .mark && [")", "]", "\x7d"].contains t.text then
      match groups with
      | g :: outer => arrange outer (.group g.bracket g.start t.stop acc.reverse :: g.before) rest
      | [] => arrange [] acc rest
    else arrange groups (.leaf t :: acc) rest

/-- The word after the sign of a directive. -/
def Token.directiveWord (t : Token) : List Char :=
  ((t.text.toList.drop 1).dropWhile Text.isBlank).takeWhile Char.isAlpha

/-- Whether a token is the directive of the given word. -/
def Token.isDirective (t : Token) (word : String) : Bool :=
  t.kind == .directive && t.directiveWord == word.toList

/-- A conditional section with the given tokens inside. -/
def conditionalToken (start stop : Nat) (inner : List Token) : Token :=
  let trees := arrange [] [] inner
  let isAttributes := !trees.isEmpty && trees.all (·.isGroup '[')
  ⟨if isAttributes then .conditionalAttributes else .conditional, "", start, stop⟩

/-- A conditional section that is not closed yet: where it starts, how many sections are open inside of it,
and its tokens in reverse. -/
structure OpenSection where
  start : Nat
  depth : Nat := 0
  inner : List Token := []

/-- Puts one token in place of every conditional section. -/
def joinSections : Option OpenSection → List Token → List Token
  | _, [] => []
  | none, t :: rest =>
    if t.isDirective "if" then joinSections (some { start := t.start }) rest
    else t :: joinSections none rest
  | some o, t :: rest =>
    if t.isDirective "if" then joinSections (some { o with depth := o.depth + 1 }) rest
    else if t.isDirective "endif" then
      (if o.depth == 0 then conditionalToken o.start t.stop o.inner.reverse :: joinSections none rest
        else joinSections (some { o with depth := o.depth - 1 }) rest)
    else if t.kind == .directive then joinSections (some o) rest
    else joinSections (some { o with inner := t :: o.inner }) rest

/-- The tokens of a source text, directives among them. -/
def tokens (s : List Char) : List Token :=
  joinSections none (tokensFrom 0 s)

end PropertyQuote.CSharp
