/-!
# String and character literals in source text

Where a literal ends.  Literals may hold code again, in the holes of interpolated strings, and that code
may hold literals and comments; so the reader keeps a stack of what it is inside of.
-/

namespace PropertyQuote.CSharp

/-- What the characters right before the current one may begin: a literal marked by `@` or `$`, a comment,
a choice between two values, or the second half of a choice or the format of a hole. -/
structure Lead where
  verbatim : Bool := false
  dollars : Nat := 0
  slash : Bool := false
  question : Bool := false
  colon : Bool := false

/-- What an interpolated string has just read: nothing special, a backslash, a quote that may be one of
two, or a brace that may be one of two. -/
inductive Pending where
  | nothing
  | escape
  | quote
  | brace
deriving DecidableEq

/-- What the reader is inside of. -/
inductive Inside where
  | lineComment
  | blockComment (star : Bool)
  | character (escaped : Bool)
  | regular (escaped : Bool)
  /-- A verbatim string; the flag says that the last character was a quote. -/
  | verbatim (quote : Bool)
  /-- The quotes at the start of a string, and the dollar signs before them. -/
  | opening (dollars quotes : Nat)
  /-- A raw string that ends at a run of so many quotes, and the length of the current run. -/
  | raw (quotes run : Nat)
  | interpolated (verbatim : Bool) (pending : Pending)
  /-- An interpolated raw string, and the lengths of the current runs of quotes and braces. -/
  | interpolatedRaw (quotes dollars quoteRun braceRun : Nat)
  /-- A hole, which ends at so many braces; the open brackets in it, the current run of closing braces, and
  the choices that wait for their second half. -/
  | hole (closing depth run choices : Nat) (lead : Lead)
  /-- The format at the end of a hole that ends at so many braces, and the current run of them. -/
  | format (closing run : Nat)

/-- One more character of the format of a hole, above `below`. -/
def feedFormat (closing run : Nat) (below : List Inside) (c : Char) : List Inside :=
  if c == '\x7d' then (if closing ≤ run + 1 then below else .format closing (run + 1) :: below)
  else .format closing 0 :: below

/-- Whether a question mark before the character is no choice: it asks for a member, is one of two, or ends
a type. -/
def continuesQuestion (c : Char) : Bool :=
  ".[?:,>)]\x7d\"".toList.contains c

/-- One more character of the code of a hole, above `below`. -/
def feedCode (closing depth run choices : Nat) (lead : Lead) (below : List Inside) (c : Char) :
    List Inside :=
  let again (lead : Lead) : List Inside := .hole closing depth 0 choices lead :: below
  match c with
  | '"' =>
    (if lead.verbatim && 0 < lead.dollars then Inside.interpolated true .nothing
      else if lead.verbatim then .verbatim false
      else .opening lead.dollars 1) :: again {}
  | '\x27' => .character false :: again {}
  | '@' => again { verbatim := true, dollars := lead.dollars }
  | '$' => again { verbatim := lead.verbatim, dollars := lead.dollars + 1 }
  | '/' => if lead.slash then .lineComment :: again {} else again { slash := true }
  | '*' => if lead.slash then .blockComment false :: again {} else again {}
  | '?' => if depth == 0 && !lead.question then again { question := true } else again {}
  | ':' => if depth == 0 && !lead.colon then again { colon := true } else again {}
  | '(' => .hole closing (depth + 1) 0 choices {} :: below
  | '[' => .hole closing (depth + 1) 0 choices {} :: below
  | '\x7b' => .hole closing (depth + 1) 0 choices {} :: below
  | ')' => .hole closing (depth - 1) 0 choices {} :: below
  | ']' => .hole closing (depth - 1) 0 choices {} :: below
  | '\x7d' =>
    if 0 < depth then .hole closing (depth - 1) 0 choices {} :: below
    else if closing ≤ run + 1 then below
    else .hole closing 0 (run + 1) choices {} :: below
  | _ => again {}

/-- One more character of a hole, above `below`.  A single colon ends the first half of a choice; if no
choice waits for it, the format of the hole follows. -/
def feedHole (closing depth run choices : Nat) (lead : Lead) (below : List Inside) (c : Char) :
    List Inside :=
  let choices := if lead.question && !continuesQuestion c then choices + 1 else choices
  if lead.colon && c != ':' then
    (if choices == 0 then feedFormat closing 0 below c
      else feedCode closing depth run (choices - 1) lead below c)
  else feedCode closing depth run choices lead below c

/-- One more character after a literal that ended before it.  There is no answer if nothing is around the
literal. -/
def resume (below : List Inside) (c : Char) : Option (List Inside) :=
  match below with
  | .hole closing depth run choices lead :: rest =>
    some (feedHole closing depth run choices lead rest c)
  | _ => none

/-- One more character of a regular string. -/
def feedRegular (escaped : Bool) (below : List Inside) (c : Char) : List Inside :=
  if escaped then .regular false :: below
  else if c == '\\' then .regular true :: below
  else if c == '"' then below
  else .regular false :: below

/-- One more character of an interpolated string. -/
def feedInterpolated (verbatim : Bool) (pending : Pending) (below : List Inside) (c : Char) :
    Option (List Inside) :=
  let same (p : Pending) : List Inside := .interpolated verbatim p :: below
  let plain : List Inside :=
    if c == '"' then (if verbatim then same .quote else below)
    else if c == '\\' && !verbatim then same .escape
    else if c == '\x7b' then same .brace
    else same .nothing
  match pending with
  | .nothing => some plain
  | .escape => some (same .nothing)
  | .quote => if c == '"' then some (same .nothing) else resume below c
  | .brace =>
    if c == '\x7b' then some (same .nothing) else some (feedHole 1 0 0 0 {} (same .nothing) c)

/-- One more character of a raw string. -/
def feedRaw (quotes run : Nat) (below : List Inside) (c : Char) : List Inside :=
  if c == '"' then (if quotes ≤ run + 1 then below else .raw quotes (run + 1) :: below)
  else .raw quotes 0 :: below

/-- One more character of an interpolated raw string. -/
def feedInterpolatedRaw (quotes dollars quoteRun braceRun : Nat) (below : List Inside) (c : Char) :
    List Inside :=
  let same (q b : Nat) : List Inside := .interpolatedRaw quotes dollars q b :: below
  if c == '"' then (if quotes ≤ quoteRun + 1 then below else same (quoteRun + 1) 0)
  else if c == '\x7b' then
    (if dollars ≤ braceRun + 1 then .hole dollars 0 0 0 {} :: same 0 0 else same 0 (braceRun + 1))
  else same 0 0

/-- One more character.  There is no answer if the literal ended before it, and an empty one if it ends
with it. -/
def feed (stack : List Inside) (c : Char) : Option (List Inside) :=
  match stack with
  | [] => none
  | .lineComment :: below => some (if c == '\n' || c == '\r' then below else stack)
  | .blockComment star :: below =>
    some (if star && c == '/' then below else .blockComment (c == '*') :: below)
  | .character escaped :: below =>
    some (if escaped then .character false :: below
      else if c == '\\' then .character true :: below
      else if c == '\x27' then below
      else stack)
  | .regular escaped :: below => some (feedRegular escaped below c)
  | .verbatim quote :: below =>
    if quote then (if c == '"' then some (.verbatim false :: below) else resume below c)
    else some (.verbatim (c == '"') :: below)
  | .opening dollars quotes :: below =>
    if c == '"' then some (.opening dollars (quotes + 1) :: below)
    else if quotes == 2 then resume below c
    else if quotes == 1 then
      (if dollars == 0 then some (feedRegular false below c)
        else feedInterpolated false .nothing below c)
    else if dollars == 0 then some (feedRaw quotes 0 below c)
    else some (feedInterpolatedRaw quotes dollars 0 0 below c)
  | .raw quotes run :: below => some (feedRaw quotes run below c)
  | .interpolated verbatim pending :: below => feedInterpolated verbatim pending below c
  | .interpolatedRaw quotes dollars quoteRun braceRun :: below =>
    some (feedInterpolatedRaw quotes dollars quoteRun braceRun below c)
  | .hole closing depth run choices lead :: below =>
    some (feedHole closing depth run choices lead below c)
  | .format closing run :: below => some (feedFormat closing run below c)

/-- The number of characters up to the end of what the reader is inside of. -/
def insideLength (stack : List Inside) : List Char → Nat
  | [] => 0
  | c :: rest =>
    match feed stack c with
    | none => 0
    | some [] => 1
    | some stack => insideLength stack rest + 1

/-- The number of characters of the literal at the start of a text, if there is one. -/
def literalLength? (s : List Char) : Option Nat :=
  let signs := s.takeWhile fun c => c == '@' || c == '$'
  let verbatim := signs.contains '@'
  let dollars := signs.count '$'
  match s.drop signs.length with
  | '"' :: rest =>
    let start := if verbatim && 0 < dollars then Inside.interpolated true .nothing
      else if verbatim then .verbatim false
      else .opening dollars 1
    some (signs.length + 1 + insideLength [start] rest)
  | '\x27' :: rest =>
    if signs.isEmpty then some (1 + insideLength [.character false] rest) else none
  | _ => none

end PropertyQuote.CSharp
