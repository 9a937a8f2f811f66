import PropertyQuote.Decimal.Limit
import PropertyQuote.Decimal.Shortest
import PropertyQuote.Json.Basic
import PropertyQuote.Text.Hex
import PropertyQuote.Text.Wide

/-!
# Reading JSON

A text is cut into tokens, and the tokens drive a machine with a stack of open arrays and objects.  The
words `NaN` and `Infinity` are numbers, the last of two fields of one name counts, and control characters
may not stand in strings.  Of several faults the first one counts.
-/

namespace PropertyQuote.Json

/-- Why a text has no value. -/
inductive Fault where
  /-- The text is not JSON. -/
  | invalid
  /-- A whole number has too many digits. -/
  | tooLong
  /-- Too many arrays and objects are open; the last of them is an array or not. -/
  | tooDeep (isArray : Bool)
deriving DecidableEq, Repr

/-- A piece of JSON text.  A word is anything else than punctuation and strings. -/
inductive Token where
  | punctuation (c : Char)
  | string (s : String)
  | word (s : List Char)

/-- Where the reader of tokens stands: between tokens, in a word, in a string (its code points in
reverse), after a backslash, or in the digits of a numbered character. -/
inductive Mode where
  | between
  | word (acc : List Char)
  | string (acc : List Nat)
  | escape (acc : List Nat)
  | number (acc : List Nat) (value left : Nat)

/-- The character that a letter after a backslash stands for. -/
def unescape? : Char → Option Nat
  | '"' => some 0x22
  | '\\' => some 0x5c
  | '/' => some 0x2f
  | 'b' => some 0x08
  | 'f' => some 0x0c
  | 'n' => some 0x0a
  | 'r' => some 0x0d
  | 't' => some 0x09
  | _ => none

/-- The blanks between tokens. -/
def isGap (c : Char) : Bool :=
  c == ' ' || c == '\t' || c == '\n' || c == '\r'

/-- The characters that are tokens by themselves. -/
def isPunctuation (c : Char) : Bool :=
  c == '\x7b' || c == '\x7d' || c == '[' || c == ']' || c == ',' || c == ':'

/-- The value of a run of decimal digits; none if the run is empty or holds something else. -/
def natural? (s : List Char) : Option Nat :=
  if s.isEmpty || !s.all Char.isDigit then none
  else some (s.foldl (fun n c => 10 * n + (c.toNat - 0x30)) 0)

/-- The value of digits after an optional sign. -/
def signed? : List Char → Option Int
  | '-' :: s => (natural? s).map fun n => -(n : Int)
  | '+' :: s => (natural? s).map fun n => (n : Int)
  | s => (natural? s).map fun n => (n : Int)

/-- Whether a fraction or an exponent follows the digits of a number. -/
def isReal : List Char → Bool
  | '.' :: d :: _ => d.isDigit
  | e :: sign :: d :: _ =>
    (e == 'e' || e == 'E') && (sign.isDigit || ((sign == '+' || sign == '-') && d.isDigit))
  | [e, d] => (e == 'e' || e == 'E') && d.isDigit
  | _ => false

/-- A number with a fraction or an exponent, behind its digits `whole`. -/
def real? (negative : Bool) (whole rest : List Char) : Option Json :=
  let fraction := match rest with
    | '.' :: r => some (r.takeWhile Char.isDigit)
    | _ => none
  let rest := match rest with
    | '.' :: r => r.dropWhile Char.isDigit
    | _ => rest
  let power := match rest with
    | 'e' :: r => some r
    | 'E' :: r => some r
    | _ => none
  if fraction == some [] || (!rest.isEmpty && power.isNone) then none
  else
    let digits := fraction.getD []
    match natural? (whole ++ digits), signed? (power.getD ['0']) with
    | some n, some e =>
      let x := Decimal.toFloat n (e - digits.length)
      some (.float (if negative then -x else x))
    | _, _ => none

/-- What was found, or else the text is not JSON. -/
def orInvalid {α : Type} (found : Option α) : Except Fault α :=
  match found with
  | some a => .ok a
  | none => .error .invalid

/-- A number without its sign: digits that start with zero only if they are zero, an optional fraction,
an optional exponent. -/
def magnitude (negative : Bool) (s : List Char) : Except Fault Json :=
  let whole := s.takeWhile Char.isDigit
  let rest := s.dropWhile Char.isDigit
  if whole.isEmpty || (1 < whole.length && whole.head? == some '0') then .error .invalid
  else if isReal rest then orInvalid (real? negative whole rest)
  else if Decimal.mostDigits < whole.length then .error .tooLong
  else if !rest.isEmpty then .error .invalid
  else orInvalid ((natural? whole).map fun n => .int (if negative then -(n : Int) else n))

/-- The value of a word. -/
def word (s : List Char) : Except Fault Json :=
  match String.ofList s with
  | "null" => .ok .null
  | "true" => .ok (.bool true)
  | "false" => .ok (.bool false)
  | "NaN" => .ok (.float (0.0 / 0.0))
  | "Infinity" => .ok (.float (1.0 / 0.0))
  | "-Infinity" => .ok (.float (-1.0 / 0.0))
  | _ =>
    match s with
    | '-' :: rest => magnitude true rest
    | _ => magnitude false s

/-- An array or object that is not closed yet.  The items of an array are in reverse; an object knows the
name of the field it waits for. -/
inductive Frame where
  | array (items : List Json)
  | object (fields : List (String × Json)) (name : String)

/-- What may come next: a value, a value or the end of the array, a name, a name or the end of the
object, a colon, a comma or the end of what is open, and after the value is complete nothing. -/
inductive Expect where
  | value
  | valueOrEnd
  | name
  | nameOrEnd
  | colon
  | commaOrEnd
  | nothing

/-- The machine: what is open, what may come next, and the value once it is complete. -/
structure Machine where
  stack : List Frame := []
  expect : Expect := .value
  result : Json := .null

/-- Puts a complete value where it belongs. -/
def Machine.place (m : Machine) (v : Json) : Machine :=
  match m.stack with
  | [] => ⟨[], .nothing, v⟩
  | .array items :: below => ⟨.array (v :: items) :: below, .commaOrEnd, m.result⟩
  | .object fields name :: below =>
    ⟨.object (setField name v fields) name :: below, .commaOrEnd, m.result⟩

/-- Closes the innermost array. -/
def Machine.closeArray? (m : Machine) : Option Machine :=
  match m.stack with
  | .array items :: below => some ({ m with stack := below }.place (.arr items.reverse))
  | _ => none

/-- Closes the innermost object. -/
def Machine.closeObject? (m : Machine) : Option Machine :=
  match m.stack with
  | .object fields _ :: below => some ({ m with stack := below }.place (.obj fields))
  | _ => none

/-- The most arrays and objects that may be open at once. -/
def mostOpen : Nat := 950

/-- Opens an array or an object. -/
def Machine.deepen (m : Machine) (isArray : Bool) : Except Fault Machine :=
  if mostOpen ≤ m.stack.length then .error (.tooDeep isArray)
  else if isArray then .ok { m with stack := .array [] :: m.stack, expect := .valueOrEnd }
  else .ok { m with stack := .object [] "" :: m.stack, expect := .nameOrEnd }

/-- The start of a value. -/
def Machine.startValue (m : Machine) : Token → Except Fault Machine
  | .punctuation '[' => m.deepen true
  | .punctuation '\x7b' => m.deepen false
  | .punctuation _ => .error .invalid
  | .string s => .ok (m.place (.str s))
  | .word s => (word s).map m.place

/-- The name of a field. -/
def Machine.name? (m : Machine) : Token → Option Machine
  | .string s =>
    match m.stack with
    | .object fields _ :: below =>
      some { m with stack := .object fields s :: below, expect := .colon }
    | _ => none
  | _ => none

/-- Goes on after a comma. -/
def Machine.afterComma? (m : Machine) : Option Machine :=
  match m.stack with
  | .array _ :: _ => some { m with expect := .value }
  | .object _ _ :: _ => some { m with expect := .name }
  | [] => none

/-- Takes one token. -/
def Machine.step (m : Machine) (t : Token) : Except Fault Machine :=
  match m.expect, t with
  | .value, t => m.startValue t
  | .valueOrEnd, .punctuation ']' => orInvalid m.closeArray?
  | .valueOrEnd, t => m.startValue t
  | .name, t => orInvalid (m.name? t)
  | .nameOrEnd, .punctuation '\x7d' => orInvalid m.closeObject?
  | .nameOrEnd, t => orInvalid (m.name? t)
  | .colon, .punctuation ':' => .ok { m with expect := .value }
  | .commaOrEnd, .punctuation ',' => orInvalid m.afterComma?
  | .commaOrEnd, .punctuation ']' => orInvalid m.closeArray?
  | .commaOrEnd, .punctuation '\x7d' => orInvalid m.closeObject?
  | _, _ => .error .invalid

/-- Takes the tokens of a text one after the other. -/
def Machine.run (m : Machine) : Mode → List Char → Except Fault Machine
  | .between, [] => .ok m
  | .word acc, [] => m.step (.word acc.reverse)
  | _, [] => .error .invalid
  | .between, c :: rest =>
    if isGap c then m.run .between rest
    else if isPunctuation c then
      match m.step (.punctuation c) with
      | .ok m => m.run .between rest
      | .error fault => .error fault
    else m.run (if c == '"' then .string [] else .word [c]) rest
  | .word acc, c :: rest =>
    if isGap c || isPunctuation c || c == '"' then
      match m.step (.word acc.reverse) with
      | .error fault => .error fault
      | .ok m =>
        if isPunctuation c then
          match m.step (.punctuation c) with
          | .ok m => m.run .between rest
          | .error fault => .error fault
        else m.run (if c == '"' then .string [] else .between) rest
    else m.run (.word (c :: acc)) rest
  | .string acc, c :: rest =>
    if c == '"' then
      match m.step (.string (String.ofList (Text.joinHalves acc.reverse))) with
      | .ok m => m.run .between rest
      | .error fault => .error fault
    else if c == '\\' then m.run (.escape acc) rest
    else if c.toNat < 0x20 then .error .invalid
    else m.run (.string (c.toNat :: acc)) rest
  | .escape acc, c :: rest =>
    if c == 'u' then m.run (.number acc 0 4) rest
    else
      match unescape? c with
      | some n => m.run (.string (n :: acc)) rest
      | none => .error .invalid
  | .number acc value left, c :: rest =>
    match Text.hexValue? c with
    | none => .error .invalid
    | some digit =>
      let value := value * 16 + digit
      m.run (if left ≤ 1 then .string (value :: acc) else .number acc value (left - 1)) rest

/-- The value of a text, if the text is one JSON value. -/
def read (s : List Char) : Except Fault Json :=
  match ({} : Machine).run .between s with
  | .error fault => .error fault
  | .ok m =>
    match m.expect with
    | .nothing => .ok m.result
    | _ => .error .invalid

/-- `read` for those who do not ask for the fault. -/
def read? (s : List Char) : Option Json :=
  (read s).toOption

end PropertyQuote.Json
