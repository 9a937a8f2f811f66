import PropertyQuote.Decimal.Places
import PropertyQuote.Text.Displayed

/-!
# Messages with values

A message may have directives that start with a percent sign; each is replaced by the next of some values.
Between the sign and the letter that says how the value is shown, a directive may ask for a sign, for zeros or for
alignment, and give a width and a precision.
-/

namespace PropertyQuote.Log

/-- A value that a message may mention. -/
inductive Argument where
  | text (s : String)
  | number (n : Int)
  | real (x : Float)
  | flag (b : Bool)
  | nothing

namespace Argument

/-- The text of a value. -/
def render : Argument → String
  | text s => s
  | number n => toString n
  | real x => Decimal.Layout.usual.render x
  | flag b => if b then "True" else "False"
  | nothing => "None"

/-- The text of a value, with quotes if it is a text. -/
def quoted : Argument → String
  | text s => Text.displayed s
  | other => other.render

/-- The text of a value in ASCII, with quotes if it is a text. -/
def quotedAscii : Argument → String
  | text s => Text.displayedAscii s
  | other => other.render

/-- The whole number that a value is. -/
def whole? : Argument → Option Int
  | number n => some n
  | flag b => some (if b then 1 else 0)
  | _ => none

/-- The whole number that is left of a number without its fraction. -/
def truncated? : Argument → Option Int
  | real x =>
    if x.isNaN || x.isInf then none
    else
      let r := Decimal.Rounded.ofFloat x
      let n : Int := (r.num / r.den : Nat)
      some (if x < 0.0 then -n else n)
  | other => other.whole?

/-- The double that a value is; a whole number may be too large for one. -/
def double? (a : Argument) : Option Float :=
  match a with
  | real x => some x
  | other =>
    other.whole?.bind fun n =>
      let x := Decimal.toFloat n.natAbs 0
      if x.isInf then none else some (if n < 0 then -x else x)

/-- The character that a value is, or that it numbers. -/
def char? : Argument → Option Char
  | text s =>
    match s.toList with
    | [c] => some c
    | _ => none
  | other =>
    other.whole?.bind fun n =>
      if 0 ≤ n && n.toNat.isValidChar then some (Char.ofNat n.toNat) else none

end Argument

/-- What a directive asks for. -/
structure Directive where
  /-- Whether the value stands at the left of its width. -/
  left : Bool := false
  /-- Whether a number that is not negative has a plus sign. -/
  plus : Bool := false
  /-- Whether a number that is not negative has a blank for its sign. -/
  blank : Bool := false
  /-- Whether a number shows its base, or its point in any case. -/
  marked : Bool := false
  /-- Whether zeros fill a number up to its width. -/
  zeros : Bool := false
  width : Nat := 0
  precision : Option Nat := none

/-- How far a directive has been read: its sign, its flags, inside or behind its width, up to, inside or
behind its precision, or up to its letter. -/
inductive Stage where
  | sign
  | flags
  | width
  | afterWidth
  | point
  | precision
  | afterPrecision
  | letter
deriving DecidableEq

namespace Directive

/-- The directive with one more flag. -/
def flag? (d : Directive) (c : Char) : Option Directive :=
  match c with
  | '-' => some { d with left := true }
  | '+' => some { d with plus := true }
  | ' ' => some { d with blank := true }
  | '#' => some { d with marked := true }
  | '0' => some { d with zeros := true }
  | _ => none

/-- A text in its width; a precision cuts it. -/
def showText (d : Directive) (s : List Char) : List Char :=
  let s := s.take (d.precision.getD s.length)
  let gap := List.replicate (d.width - s.length) ' '
  if d.left then s ++ gap else gap ++ s

/-- A number in its width: its sign, the mark of its base, and its digits. -/
def showNumber (d : Directive) (negative : Bool) (mark digits : List Char) : List Char :=
  let sign := if negative then ['-'] else if d.plus then ['+'] else if d.blank then [' '] else []
  let size := sign.length + mark.length + digits.length
  if d.left then sign ++ mark ++ digits ++ List.replicate (d.width - size) ' '
  else if d.zeros then sign ++ mark ++ List.replicate (d.width - size) '0' ++ digits
  else List.replicate (d.width - size) ' ' ++ sign ++ mark ++ digits

/-- A whole number in a base, with at least as many digits as the precision says. -/
def showWhole (d : Directive) (base : Nat) (mark : List Char) (upper : Bool) (n : Int) : List Char :=
  let digits := Nat.toDigits base n.natAbs
  let digits := List.replicate (d.precision.getD 0 - digits.length) '0' ++ digits
  let digits := if upper then digits.map Char.toUpper else digits
  d.showNumber (n < 0) (if d.marked then mark else []) digits

/-- A double; `digits` writes its magnitude with a precision. -/
def showReal (d : Directive) (upper : Bool) (digits : Nat → Float → List Char) (x : Float) : List Char :=
  let s := if x.isNaN then "nan".toList else if x.isInf then "inf".toList
    else digits (d.precision.getD 6) x
  d.showNumber (!x.isNaN && 0x8000000000000000 ≤ x.toBits.toNat) [] (if upper then s.map Char.toUpper else s)

/-- Whether width and precision are numbers of 31 bits. -/
def isSized (d : Directive) : Bool :=
  d.width < 0x80000000 && d.precision.all (· < 0x80000000)

/-- A value as the letter of a directive asks for it; none if the two do not fit. -/
def show? (d : Directive) (letter : Char) (a : Argument) : Option (List Char) :=
  if !d.isSized then none
  else match letter with
  | 's' => some (d.showText a.render.toList)
  | 'r' => some (d.showText a.quoted.toList)
  | 'a' => some (d.showText a.quotedAscii.toList)
  | 'c' => a.char?.map fun c => { d with precision := none }.showText [c]
  | 'd' => a.truncated?.map (d.showWhole 10 [] false)
  | 'i' => a.truncated?.map (d.showWhole 10 [] false)
  | 'u' => a.truncated?.map (d.showWhole 10 [] false)
  | 'o' => a.whole?.map (d.showWhole 8 ['0', 'o'] false)
  | 'x' => a.whole?.map (d.showWhole 16 ['0', 'x'] false)
  | 'X' => a.whole?.map (d.showWhole 16 ['0', 'X'] true)
  | 'f' => a.double?.map (d.showReal false (Decimal.fixed d.marked))
  | 'F' => a.double?.map (d.showReal true (Decimal.fixed d.marked))
  | 'e' => a.double?.map (d.showReal false (Decimal.scientific d.marked))
  | 'E' => a.double?.map (d.showReal true (Decimal.scientific d.marked))
  | 'g' => a.double?.map (d.showReal false fun n => Decimal.general d.marked (max n 1))
  | 'G' => a.double?.map (d.showReal true fun n => Decimal.general d.marked (max n 1))
  | _ => none

/-- A width that is a value: a negative one aligns to the left. -/
def withWidth (d : Directive) (n : Int) : Directive :=
  if n < 0 then { d with left := true, width := n.natAbs } else { d with width := n.natAbs }

/-- The directive with one more digit of its width. -/
def widthDigit (d : Directive) (c : Char) : Directive :=
  { d with width := 10 * d.width + (c.toNat - 0x30) }

/-- The directive with one more digit of its precision. -/
def precisionDigit (d : Directive) (c : Char) : Directive :=
  { d with precision := some (10 * d.precision.getD 0 + (c.toNat - 0x30)) }

end Directive

/-- Puts values in place of the directives of a message, inside of one of which the message may start.  There
is no result if directives and values do not fit each other. -/
def substitute? : Option (Stage × Directive) → List Argument → List Char → Option (List Char)
  | none, [], [] => some []
  | none, _ :: _, [] => none
  | some _, _, [] => none
  | none, args, c :: rest =>
    if c == '%' then substitute? (some (.sign, {})) args rest
    else (substitute? none args rest).map (c :: ·)
  | some (stage, d), args, c :: rest =>
    let isNow (stages : List Stage) : Bool := stages.contains stage
    match if isNow [.sign, .flags] then d.flag? c else none with
    | some d => substitute? (some (.flags, d)) args rest
    | none =>
      if isNow [.sign, .flags] && c == '*' then
        match args with
        | a :: args => a.whole?.bind fun n => substitute? (some (.afterWidth, d.withWidth n)) args rest
        | [] => none
      else if isNow [.sign, .flags, .width] && c.isDigit then
        substitute? (some (.width, d.widthDigit c)) args rest
      else if isNow [.sign, .flags, .width, .afterWidth] && c == '.' then
        substitute? (some (.point, { d with precision := some 0 })) args rest
      else if isNow [.point] && c == '*' then
        match args with
        | a :: args =>
          a.whole?.bind fun n =>
            substitute? (some (.afterPrecision, { d with precision := some n.toNat })) args rest
        | [] => none
      else if isNow [.point, .precision] && c.isDigit then
        substitute? (some (.precision, d.precisionDigit c)) args rest
      else if !isNow [.letter] && (c == 'h' || c == 'l' || c == 'L') then
        substitute? (some (.letter, d)) args rest
      else if isNow [.sign] && c == '%' then (substitute? none args rest).map (c :: ·)
      else
        match args with
        | a :: args => do return (← d.show? c a) ++ (← substitute? none args rest)
        | [] => none

/-- A message with its values; without values it stays what it is. -/
def message? (pattern : String) (args : List Argument) : Option String :=
  if args.isEmpty then some pattern
  else (substitute? none args pattern.toList).map String.ofList

end PropertyQuote.Log
