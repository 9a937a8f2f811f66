import PropertyQuote.Text.Utf8
import PropertyQuote.Yaml.Number
import PropertyQuote.Yaml.Scalar

/-!
# Tokens of YAML

A text as a list of tokens.  Indentation opens and closes blocks, and a colon turns what was read before
it on the same line into a key: so the reader remembers, per level of flow collections, where such a key
could start.  A fault of the text ends the list, and only the tokens before it that are certain are in front
of it.
-/

namespace PropertyQuote.Yaml

/-- A line of a document's head. -/
inductive Directive where
  | version (major minor : Nat)
  | handle (handle start : String)
  | other
deriving DecidableEq

/-- A token. -/
inductive Token where
  | directive (d : Directive)
  | documentStart
  | documentEnd
  | streamEnd
  | blockSequenceStart
  | blockMappingStart
  | blockEnd
  | flowSequenceStart
  | flowSequenceEnd
  | flowMappingStart
  | flowMappingEnd
  | blockEntry
  | flowEntry
  | key
  | value
  | alias (name : String)
  | anchor (name : String)
  | tag (handle : Option String) (suffix : String)
  | scalar (text : String) (plain : Bool)
  /-- The text is at fault here. -/
  | fault (e : Error)
deriving DecidableEq

/-- A place where a key may have started: the number of tokens before it, whether a key must start there
because of its indentation, and where it is. -/
structure PossibleKey where
  tokens : Nat
  required : Bool
  index : Nat
  line : Nat
  column : Nat

/-- The reader: its place, the column of the current block and of those around it, the number of open
flow collections, whether a key may start here, the possible keys by level, and the tokens so far with the
latest first. -/
structure Reader where
  cursor : Cursor
  indent : Int := -1
  indents : List Int := []
  flow : Nat := 0
  allowKey : Bool := true
  keys : List (Nat × PossibleKey) := []
  found : List Token := []

namespace Reader

/-- Adds a token. -/
def push (r : Reader) (t : Token) : Reader :=
  { r with found := t :: r.found }

/-- Moves on by `n` characters. -/
def advance (r : Reader) (n : Nat) : Reader :=
  { r with cursor := r.cursor.advance n }

/-- Says whether a key may start here. -/
def allowing (r : Reader) (allowKey : Bool) : Reader :=
  { r with allowKey }

/-- The column as a number that can be compared with an indentation. -/
def column (r : Reader) : Int :=
  r.cursor.column

/-- Closes all blocks that are indented by more than `column`. -/
def unwind (column : Int) : List Int → Reader → Reader
  | outer :: rest, r =>
    if r.flow == 0 && column < r.indent then
      unwind column rest ({ r with indent := outer, indents := rest }.push .blockEnd)
    else r
  | [], r => r

/-- `unwind` for the blocks of the reader. -/
def unwindTo (r : Reader) (column : Int) : Reader :=
  unwind column r.indents r

/-- Forgets the possible key of the current level; it must not have been required. -/
def dropKey? (r : Reader) : Option Reader :=
  match r.keys.find? (·.1 == r.flow) with
  | some (_, key) =>
    if key.required then none else some { r with keys := r.keys.filter (·.1 != r.flow) }
  | none => some r

/-- Whether a possible key is too far away: on another line, or by more than 1024 characters. -/
def isStale (r : Reader) (k : PossibleKey) : Bool :=
  k.line != r.cursor.line || 1024 < r.cursor.index - k.index

/-- Forgets the possible keys that are too far away; none of them must have been required. -/
def dropStale? (r : Reader) : Option Reader :=
  if r.keys.any fun k => r.isStale k.2 && k.2.required then none
  else some { r with keys := r.keys.filter fun k => !r.isStale k.2 }

/-- The tokens that are certain: those before the first place where a key may still have started. -/
def certain (r : Reader) : List Token :=
  let places := (r.keys.filter fun k => !r.isStale k.2).map (·.2.tokens)
  r.found.reverse.take (places.min?.getD r.found.length)

/-- Notes that a key may start here. -/
def saveKey? (r : Reader) : Option Reader :=
  if r.allowKey then
    (r.dropKey?).map fun r =>
      { r with keys := (r.flow, ⟨r.found.length, r.flow == 0 && r.indent == r.column,
          r.cursor.index, r.cursor.line, r.cursor.column⟩) :: r.keys }
  else some r

/-- Opens a block at a column if it is deeper than the current one; `insert` places the token that says
so. -/
def openBlock (r : Reader) (column : Int) (insert : Reader → Reader) : Reader :=
  if r.indent < column then
    insert { r with indent := column, indents := r.indent :: r.indents }
  else r

/-- Blanks, comments and line ends; `fuel` bounds the number of lines. -/
def skipGap : Nat → Reader → Reader
  | fuel + 1, r =>
    let s := r.cursor.skip (· == ' ')
    let s := if s.peek == '#' then s.skip (!isBreakOrEnd ·) else s
    if isBreak s.peek then
      skipGap fuel { r with cursor := s.lineBreak.2, allowKey := r.allowKey || r.flow == 0 }
    else { r with cursor := s }
  | 0, r => r

/-- The gap in front of the next token; a byte order mark may start the text. -/
def toNextToken (r : Reader) : Reader :=
  let s := r.cursor
  let s := if s.index == 0 && s.peek == '\ufeff' then s.next else s
  skipGap (s.rest.length + 1) { r with cursor := s }

end Reader

/-! ## The parts of a directive, an anchor and a tag -/

/-- A run of decimal digits. -/
def number (s : Cursor) : Except Error (Nat × Cursor) :=
  let digits := s.run Char.isDigit
  if digits.isEmpty then .error .malformed
  else (wholeIn 10 digits).map fun n => (n.toNat, s.advance digits.length)

/-- The handle of a tag: an exclamation mark, or a word between two. -/
def handle? (s : Cursor) : Option (String × Cursor) :=
  if s.peek != '!' then none
  else
    let word := s.next.run isWordPart
    let after := s.next.advance word.length
    if s.peek 1 == ' ' then some ("!", s.next)
    else if after.peek == '!' then some (String.ofList ('!' :: word ++ ['!']), after.next)
    else none

/-- Characters of a tag. -/
def isUriPart (c : Char) : Bool :=
  c.isAlphanum || "-;/?:@&=+$,_.!~*'()[]".toList.contains c

/-- Bytes written as a percent sign and two digits. -/
def uriBytes : Nat → Cursor → Option (List UInt8 × Cursor)
  | fuel + 1, s =>
    if s.peek != '%' then some ([], s)
    else
      match Text.hexValue? (s.peek 1), Text.hexValue? (s.peek 2) with
      | some hi, some lo =>
        (uriBytes fuel (s.advance 3)).map fun (bytes, s) => (UInt8.ofNat (16 * hi + lo) :: bytes, s)
      | _, _ => none
  | 0, s => some ([], s)

/-- The rest of a tag. -/
def uriFrom? : Nat → Cursor → Option (List Char × Cursor)
  | fuel + 1, s =>
    if s.peek == '%' then do
      let (bytes, s) ← uriBytes (s.rest.length + 1) s
      let text ← Text.Utf8.decode? bytes
      let (more, s) ← uriFrom? fuel s
      return (text ++ more, s)
    else
      let part := s.run isUriPart
      let s := s.advance part.length
      if s.peek == '%' then (uriFrom? fuel s).map fun (more, s) => (part ++ more, s)
      else some (part, s)
  | 0, s => some ([], s)

/-- The characters of a tag, of which there is at least one. -/
def uri? (s : Cursor) : Option (String × Cursor) :=
  match uriFrom? (s.rest.length + 1) s with
  | some (c :: cs, s) => some (String.ofList (c :: cs), s)
  | _ => none

/-- The name of an anchor or an alias, at its sign. -/
def anchorName? (s : Cursor) : Option (String × Cursor) :=
  let word := s.next.run isWordPart
  let after := s.next.advance word.length
  if word.isEmpty then none
  else if isGapOrEnd after.peek || "?:,]\x7d%@`".toList.contains after.peek then
    some (String.ofList word, after)
  else none

/-- A tag, at its exclamation mark. -/
def tag? (s : Cursor) : Option (Token × Cursor) := do
  let (tag, s) ← if s.peek 1 == '<' then do
      let (suffix, s) ← uri? (s.advance 2)
      if s.peek == '>' then some (Token.tag none suffix, s.next) else none
    else if isGapOrEnd (s.peek 1) then some (Token.tag none "!", s.next)
    else
      let word := s.next.run (!isSpaceOrEnd ·)
      let (handle, s) ← if word.contains '!' then handle? s else some ("!", s.next)
      (uri? s).map fun (suffix, s) => (Token.tag (some handle) suffix, s)
  if isSpaceOrEnd s.peek then some (tag, s) else none

/-- The version that a directive states. -/
def version (s : Cursor) : Except Error (Directive × Cursor) := do
  let (major, s) ← number s
  if s.peek != '.' then throw .malformed
  let (minor, s) ← number s.next
  if !isSpaceOrEnd s.peek then throw .malformed
  return (.version major minor, ← orMalformed (restOfLine? s))

/-- The handle that a directive states. -/
def handleDirective? (s : Cursor) : Option (Directive × Cursor) := do
  let (handle, s) ← handle? s
  if s.peek != ' ' then none
  let (start, s) ← uri? (s.skip (· == ' '))
  if !isSpaceOrEnd s.peek then none
  return (.handle handle start, ← restOfLine? s)

/-- A directive, at its percent sign. -/
def directive (s : Cursor) : Except Error (Directive × Cursor) :=
  let word := s.next.run isWordPart
  let s := s.next.advance word.length
  if word.isEmpty || !isSpaceOrEnd s.peek then .error .malformed
  else if word == "YAML".toList then version (s.skip (· == ' '))
  else if word == "TAG".toList then orMalformed (handleDirective? (s.skip (· == ' ')))
  else (orMalformed (restOfLine? (s.skip (!isBreakOrEnd ·)))).map fun s => (.other, s)

namespace Reader

/-! ## One token after another -/

/-- A line of three dashes or dots. -/
def separator? (r : Reader) (t : Token) : Option Reader :=
  ((r.unwindTo (-1)).dropKey?).map fun r => ({ r with allowKey := false }.push t).advance 3

/-- The opening bracket of a flow collection. -/
def flowStart? (r : Reader) (t : Token) : Option Reader :=
  (r.saveKey?).map fun r => ({ r with flow := r.flow + 1, allowKey := true }.push t).advance 1

/-- The closing bracket of a flow collection. -/
def flowEnd? (r : Reader) (t : Token) : Option Reader :=
  if r.flow == 0 then none
  else (r.dropKey?).map fun r => ({ r with flow := r.flow - 1, allowKey := false }.push t).advance 1

/-- A comma in a flow collection. -/
def flowEntry? (r : Reader) : Option Reader :=
  ((r.allowing true).dropKey?).map fun r => (r.push .flowEntry).advance 1

/-- The dash of a block sequence. -/
def blockEntry? (r : Reader) : Option Reader :=
  if r.flow == 0 && !r.allowKey then none
  else
    let r := if r.flow == 0 then r.openBlock r.column (·.push .blockSequenceStart) else r
    ((r.allowing true).dropKey?).map fun r => (r.push .blockEntry).advance 1

/-- The question mark of a key. -/
def key? (r : Reader) : Option Reader :=
  if r.flow == 0 && !r.allowKey then none
  else
    let r := if r.flow == 0 then r.openBlock r.column (·.push .blockMappingStart) else r
    ((r.allowing (r.flow == 0)).dropKey?).map fun r => (r.push .key).advance 1

/-- Inserts a token where there were `n` tokens. -/
def insertAt (r : Reader) (n : Nat) (t : Token) : Reader :=
  { r with found := r.found.insertIdx (r.found.length - n) t }

/-- The colon of a value.  What was read since the possible key of this level becomes the key. -/
def value? (r : Reader) : Option Reader :=
  match r.keys.find? (·.1 == r.flow) with
  | some (_, key) =>
    let r := { r with keys := r.keys.filter (·.1 != r.flow) }.insertAt key.tokens .key
    let r := if r.flow == 0 then r.openBlock key.column (·.insertAt key.tokens .blockMappingStart)
      else r
    some (({ r with allowKey := false }.push .value).advance 1)
  | none =>
    if r.flow == 0 && !r.allowKey then none
    else
      let r := if r.flow == 0 then r.openBlock r.column (·.push .blockMappingStart) else r
      ((r.allowing (r.flow == 0)).dropKey?).map fun r => (r.push .value).advance 1

/-- A token that may start a key. -/
def content (r : Reader) (read : Cursor → Except Error (Token × Cursor)) : Except Error Reader :=
  (orMalformed r.saveKey?).bind fun r =>
    (read r.cursor).map fun (t, s) => { r with cursor := s, allowKey := false }.push t

/-- A plain scalar. -/
def plain? (r : Reader) : Option Reader :=
  (r.saveKey?).map fun r =>
    let (text, crossed, s) := plainScalar (r.flow != 0) (r.indent + 1) r.cursor
    { r with cursor := s, allowKey := crossed }.push (.scalar (String.ofList text) true)

/-- A block scalar. -/
def block? (r : Reader) : Option Reader :=
  ((r.allowing true).dropKey?).bind fun r =>
    (blockScalar? r.indent r.cursor).map fun (text, s) =>
      { r with cursor := s }.push (.scalar (String.ofList text) false)

/-- Whether a plain scalar may start here. -/
def startsPlain (r : Reader) : Bool :=
  let c := r.cursor.peek
  !(isGapOrEnd c || "-?:,[]\x7b\x7d#&*!|>\x27\"%@`".toList.contains c) ||
    (!isGapOrEnd (r.cursor.peek 1) && (c == '-' || (r.flow == 0 && (c == '?' || c == ':'))))

/-- A line of a document's head. -/
def directiveLine (r : Reader) : Except Error Reader :=
  (orMalformed (r.unwindTo (-1)).dropKey?).bind fun r =>
    (directive r.cursor).map fun (d, s) =>
      { r with cursor := s, allowKey := false }.push (.directive d)

/-- The next token at a character that is not the end of the text. -/
def token (r : Reader) : Except Error Reader :=
  let s := r.cursor
  let c := s.peek
  let beforeGap := isGapOrEnd (s.peek 1)
  if c == '%' && s.column == 0 then r.directiveLine
  else if c == '-' && s.column == 0 && s.atSeparator then orMalformed (r.separator? .documentStart)
  else if c == '.' && s.column == 0 && s.atSeparator then orMalformed (r.separator? .documentEnd)
  else if c == '[' then orMalformed (r.flowStart? .flowSequenceStart)
  else if c == '\x7b' then orMalformed (r.flowStart? .flowMappingStart)
  else if c == ']' then orMalformed (r.flowEnd? .flowSequenceEnd)
  else if c == '\x7d' then orMalformed (r.flowEnd? .flowMappingEnd)
  else if c == ',' then orMalformed r.flowEntry?
  else if c == '-' && beforeGap then orMalformed r.blockEntry?
  else if c == '?' && (r.flow != 0 || beforeGap) then orMalformed r.key?
  else if c == ':' && (r.flow != 0 || beforeGap) then orMalformed r.value?
  else if c == '*' then
    r.content fun s => (orMalformed (anchorName? s)).map fun (n, s) => (.alias n, s)
  else if c == '&' then
    r.content fun s => (orMalformed (anchorName? s)).map fun (n, s) => (.anchor n, s)
  else if c == '!' then r.content fun s => orMalformed (tag? s)
  else if (c == '|' || c == '>') && r.flow == 0 then orMalformed r.block?
  else if c == '\x27' || c == '"' then
    r.content fun s => (quotedScalar s).map fun (text, s) => (.scalar (String.ofList text) false, s)
  else if r.startsPlain then orMalformed r.plain?
  else .error .malformed

/-- The reader behind the gap in front of the next token, with the blocks closed that end there. -/
def atToken? (r : Reader) : Option Reader :=
  (r.toNextToken.dropStale?).map fun r => r.unwindTo r.column

/-- The reader behind the next token.  The end of the text is the last one. -/
def step (r : Reader) : Except Error Reader :=
  (orMalformed r.atToken?).bind fun r =>
    if r.cursor.rest.isEmpty then
      (orMalformed (r.unwindTo (-1)).dropKey?).map fun r => r.push .streamEnd
    else r.token

/-- All tokens.  Every step but the last reads at least one character. -/
def tokensFrom : Nat → Reader → List Token
  | fuel + 1, r =>
    match r.step with
    | .error e => r.certain ++ [.fault e]
    | .ok next =>
      if next.found.head? == some .streamEnd then next.found.reverse else tokensFrom fuel next
  | 0, _ => [.fault .malformed]

end Reader

/-- The tokens of a text. -/
def tokens (text : List Char) : List Token :=
  if text.all isPrintable then ({ cursor := { rest := text } } : Reader).tokensFrom (text.length + 2)
  else [.fault .malformed]

end PropertyQuote.Yaml
