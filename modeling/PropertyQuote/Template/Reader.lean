import PropertyQuote.Template.Basic
import PropertyQuote.Template.Segment
import PropertyQuote.Text.Lines
import PropertyQuote.Text.Utf8

/-!
# Reading templates

The segments of a template as pieces.  Expressions are names, texts and numbers with fields, joined by `not`,
`and`, `or` and choices; tags open and close branches and loops.
-/

namespace PropertyQuote.Template

/-! ## Expressions -/

/-- The value that a name stands for by itself. -/
def constant? (name : String) : Option Value :=
  match name with
  | "true" => some (.flag true)
  | "True" => some (.flag true)
  | "false" => some (.flag false)
  | "False" => some (.flag false)
  | "none" => some .nothing
  | "None" => some .nothing
  | _ => none

/-- Several texts in a row as one. -/
def joinStrings (s : String) : List Word → String × List Word
  | .string t :: rest => joinStrings (s ++ t) rest
  | rest => (s, rest)

/-- The fields and elements asked for after an expression. -/
def selections? (e : Expr) : List Word → Option (Expr × List Word)
  | .mark '.' :: .ident f :: rest => selections? (.field e f) rest
  | .mark '.' :: .number n :: rest => selections? (.element e n) rest
  | .mark '.' :: _ => none
  | .mark '[' :: .string f :: .mark ']' :: rest => selections? (.field e f) rest
  | .mark '[' :: .number n :: .mark ']' :: rest => selections? (.element e n) rest
  | rest => some (e, rest)

mutual

/-- An expression that may be a choice.  A choice without its second half is undefined there. -/
def choice? : Nat → List Word → Option (Expr × List Word)
  | fuel + 1, ws => do
    let (first, rest) ← disjunction? fuel ws
    choiceFrom? fuel first rest
  | 0, _ => none

/-- The choices behind an expression. -/
def choiceFrom? : Nat → Expr → List Word → Option (Expr × List Word)
  | fuel + 1, first, .ident "if" :: rest => do
    let (test, rest) ← disjunction? fuel rest
    match rest with
    | .ident "else" :: rest =>
      let (second, rest) ← choice? fuel rest
      choiceFrom? fuel (.choose test first second) rest
    | rest => choiceFrom? fuel (.choose test first (.constant .undefined)) rest
  | _ + 1, first, rest => some (first, rest)
  | 0, _, _ => none

/-- Expressions joined by `or`. -/
def disjunction? : Nat → List Word → Option (Expr × List Word)
  | fuel + 1, ws => do
    let (first, rest) ← conjunction? fuel ws
    disjunctionFrom? fuel first rest
  | 0, _ => none

/-- What is joined to an expression by `or`. -/
def disjunctionFrom? : Nat → Expr → List Word → Option (Expr × List Word)
  | fuel + 1, first, .ident "or" :: rest => do
    let (second, rest) ← conjunction? fuel rest
    disjunctionFrom? fuel (.either first second) rest
  | _ + 1, first, rest => some (first, rest)
  | 0, _, _ => none

/-- Expressions joined by `and`. -/
def conjunction? : Nat → List Word → Option (Expr × List Word)
  | fuel + 1, ws => do
    let (first, rest) ← negation? fuel ws
    conjunctionFrom? fuel first rest
  | 0, _ => none

/-- What is joined to an expression by `and`. -/
def conjunctionFrom? : Nat → Expr → List Word → Option (Expr × List Word)
  | fuel + 1, first, .ident "and" :: rest => do
    let (second, rest) ← negation? fuel rest
    conjunctionFrom? fuel (.both first second) rest
  | _ + 1, first, rest => some (first, rest)
  | 0, _, _ => none

/-- An expression that may be negated. -/
def negation? : Nat → List Word → Option (Expr × List Word)
  | fuel + 1, .ident "not" :: rest => do
    let (e, rest) ← negation? fuel rest
    return (.negation e, rest)
  | fuel + 1, ws => primary? fuel ws
  | 0, _ => none

/-- A name, a text, a number or an expression between brackets, with fields. -/
def primary? : Nat → List Word → Option (Expr × List Word)
  | _ + 1, .string s :: rest =>
    let (text, rest) := joinStrings s rest
    selections? (.constant (.text text)) rest
  | _ + 1, .number n :: rest => selections? (.constant (.number n)) rest
  | _ + 1, .ident name :: rest =>
    selections? (((constant? name).map Expr.constant).getD (.name name)) rest
  | fuel + 1, .mark '(' :: rest => do
    let (e, rest) ← choice? fuel rest
    match rest with
    | .mark ')' :: rest => selections? e rest
    | _ => none
  | _ + 1, _ => none
  | 0, _ => none

end

/-- More steps than any expression of the given words takes. -/
def enough (ws : List Word) : Nat :=
  8 * ws.length + 8

/-- An expression that takes all words. -/
def expr? (ws : List Word) : Option Expr :=
  match choice? (enough ws) ws with
  | some (e, []) => some e
  | _ => none

/-- The words of a tag that may end with a colon. -/
def withoutColon (ws : List Word) : List Word :=
  if ws.getLast? == some (.mark ':') then ws.dropLast else ws

/-- An expression that takes all words of a tag and is no choice. -/
def condition? (ws : List Word) : Option Expr :=
  match disjunction? (enough ws) (withoutColon ws) with
  | some (e, []) => some e
  | _ => none

/-! ## Tags -/

/-- A tag. -/
inductive Tag where
  | start (test : Expr)
  | orElse (test : Expr)
  | other
  | finish
  | each (binder : String) (range : Expr)
  | finishEach

/-- The tag of some words. -/
def tag? (ws : List Word) : Option Tag :=
  match ws with
  | .ident "if" :: rest => (condition? rest).map .start
  | .ident "elif" :: rest => (condition? rest).map .orElse
  | .ident "else" :: rest => if (withoutColon rest).isEmpty then some .other else none
  | [.ident "endif"] => some .finish
  | .ident "for" :: .ident x :: .ident "in" :: rest =>
    if (constant? x).isSome then none else (condition? rest).map (.each x)
  | [.ident "endfor"] => some .finishEach
  | _ => none

/-- A block that is not closed yet, with the pieces before it in reverse. -/
inductive Open where
  /-- A branch, with its earlier tests and their pieces, the latest first. -/
  | test (before : List Piece) (earlier : List (Expr × List Piece)) (test : Expr)
  /-- The last part of a branch. -/
  | other (before : List Piece) (earlier : List (Expr × List Piece))
  /-- A loop. -/
  | body (before : List Piece) (binder : String) (range : Expr)
  /-- What stands in for a loop over nothing. -/
  | instead (before : List Piece) (binder : String) (range : Expr) (body : List Piece)

/-- A branch with several tests. -/
def branches (earlier : List (Expr × List Piece)) (otherwise : List Piece) : List Piece :=
  earlier.foldl (fun no (test, yes) => [.branch test yes no]) otherwise

/-- Takes a tag: the open blocks, and the pieces since the innermost of them in reverse. -/
def tagStep? (acc : List Piece) : Tag → List Open → Option (List Open × List Piece)
  | .start test, blocks => some (.test acc [] test :: blocks, [])
  | .each x range, blocks => some (.body acc x range :: blocks, [])
  | .orElse next, .test before earlier test :: outer =>
    some (.test before ((test, acc.reverse) :: earlier) next :: outer, [])
  | .other, .test before earlier test :: outer =>
    some (.other before ((test, acc.reverse) :: earlier) :: outer, [])
  | .other, .body before x range :: outer => some (.instead before x range acc.reverse :: outer, [])
  | .finish, .test before earlier test :: outer =>
    some (outer, branches ((test, acc.reverse) :: earlier) [] ++ before)
  | .finish, .other before earlier :: outer => some (outer, branches earlier acc.reverse ++ before)
  | .finishEach, .body before x range :: outer => some (outer, .loop x range acc.reverse :: before)
  | .finishEach, .instead before x range body :: outer =>
    some (outer, .branch range [.loop x range body] acc.reverse :: before)
  | _, _ => none

/-- Takes one segment. -/
def step? : List Open × List Piece → Segment → Option (List Open × List Piece)
  | (blocks, acc), .text s => some (blocks, .text (String.ofList s) :: acc)
  | (blocks, acc), .print ws => (expr? ws).map fun e => (blocks, .print e :: acc)
  | (blocks, acc), .tag ws => (tag? ws).bind fun t => tagStep? acc t blocks

/-- The pieces of a template text. -/
def read? (s : List Char) : Option (List Piece) := do
  let found ← segments? (s.length + 1) true (Text.unifyNewlines s)
  match ← found.foldlM step? ([], []) with
  | ([], acc) => some acc.reverse
  | _ => none

/-- The template in a file. -/
def load (bytes : List UInt8) : Except Error (List Piece) :=
  match Text.Utf8.decode? bytes with
  | none => .error .encoding
  | some s =>
    match read? s with
    | some pieces => .ok pieces
    | none => .error .invalid

end PropertyQuote.Template
