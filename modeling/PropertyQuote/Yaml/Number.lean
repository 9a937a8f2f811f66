import PropertyQuote.Decimal.Limit
import PropertyQuote.Decimal.Shortest
import PropertyQuote.Text.Blank
import PropertyQuote.Text.Casing
import PropertyQuote.Text.Displayed
import PropertyQuote.Text.Numeral
import PropertyQuote.Yaml.Error

/-!
# Numbers in a YAML text

The values of scalars that are tagged as numbers.  Whole numbers are binary, octal, decimal, hexadecimal or in base
sixty, and numbers with a fraction are decimal or in base sixty.  Digits of any script count, and so do blanks
around a number.
-/

namespace PropertyQuote.Yaml

/-- The text without underscores. -/
def withoutMarks (s : List Char) : List Char :=
  s.filter (· != '_')

/-- The text without one sign in front. -/
def withoutSign (s : List Char) : List Char :=
  match s with
  | '-' :: rest => rest
  | '+' :: rest => rest
  | _ => s

/-- The parts of a text between colons. -/
def colonParts : List Char → List (List Char)
  | [] => [[]]
  | c :: rest =>
    match colonParts rest with
    | [] => [[]]
    | part :: parts => if c == ':' then [] :: part :: parts else (c :: part) :: parts

/-- The value of a digit in the given base. -/
def digitValue? (base : Nat) (c : Char) : Option Nat :=
  (Text.hexValue? c).bind fun n => if n < base then some n else none

/-- The number that some digits write in the given base. -/
def natural? (base : Nat) (s : List Char) : Option Nat :=
  if s.isEmpty then none
  else s.foldlM (fun n c => (digitValue? base c).map (base * n + ·)) 0

/-- Blanks that may stand around a number; separators of data are none. -/
def isMargin (c : Char) : Bool :=
  Text.isBlank c && !(0x1c ≤ c.toNat && c.toNat ≤ 0x1f)

/-- A number without the blanks around it, and with plain digits. -/
def withoutMargins (s : List Char) : List Char :=
  Text.plainDigits ((s.dropWhile isMargin).reverse.dropWhile isMargin).reverse

/-! ## Whole numbers -/

/-- What is said about a decimal number with too many digits to be read. -/
def readLimitMessage (count : Nat) : String :=
  "Exceeds the limit (" ++ toString Decimal.mostDigits ++ " digits) for integer string conversion: value has " ++
    toString count ++ " digits; use sys.set_int_max_str_digits() to increase the limit"

/-- What is said about a number with too many decimal digits to be written. -/
def writeLimitMessage : String :=
  "Exceeds the limit (" ++ toString Decimal.mostDigits ++ " digits) for integer string conversion; " ++
    "use sys.set_int_max_str_digits() to increase the limit"

/-- What is said about a text that is no whole number; a long text is cut. -/
def badWhole (base : Nat) (s : List Char) : Error :=
  .impossible ("invalid literal for int() with base " ++ toString base ++ ": " ++
    String.ofList ((Text.displayed (String.ofList s)).toList.take 200))

/-- The letter after a zero that shows the base. -/
def baseLetter? (base : Nat) : Option Char :=
  match base with
  | 2 => some 'b'
  | 8 => some 'o'
  | 16 => some 'x'
  | _ => none

/-- The text without a zero and the letter that shows the base. -/
def withoutBase (base : Nat) (s : List Char) : List Char :=
  match s with
  | '0' :: c :: rest => if some c.toLower == baseLetter? base then rest else s
  | _ => s

/-- A whole number in the given base, with an optional sign, between blanks. -/
def wholeIn (base : Nat) (s : List Char) : Except Error Int :=
  let inner := withoutMargins s
  let digits := withoutBase base (withoutSign inner)
  let count := (digits.takeWhile fun c => (digitValue? base c).isSome).length
  if (baseLetter? base).isNone && Decimal.mostDigits < count then .error (.impossible (readLimitMessage count))
  else
    match natural? base digits with
    | some n => .ok (if inner.head? == some '-' then -(n : Int) else n)
    | none => .error (badWhole base s)

/-- The value of numbers to base sixty, the highest first. -/
def sixtieths (parts : List (List Char)) : Except Error Int :=
  parts.foldlM (fun n part => (wholeIn 10 part).map (60 * n + ·)) 0

/-- The value of a whole number without its sign. -/
def wholeMagnitude (s : List Char) : Except Error Int :=
  match s with
  | [] => .error .noDigits
  | ['0'] => .ok 0
  | '0' :: 'b' :: rest => wholeIn 2 rest
  | '0' :: 'x' :: rest => wholeIn 16 rest
  | '0' :: _ => wholeIn 8 s
  | _ => if s.contains ':' then sixtieths (colonParts s) else wholeIn 10 s

/-- The value of a whole number. -/
def intValue (text : String) : Except Error Int :=
  let s := withoutMarks text.toList
  (wholeMagnitude (withoutSign s)).map fun n => if s.head? == some '-' then -n else n

/-! ## Numbers with a fraction -/

/-- The value of a decimal number without its sign. -/
def decimal? (s : List Char) : Option Float :=
  let whole := s.takeWhile Char.isDigit
  let rest := s.dropWhile Char.isDigit
  let fraction := match rest with
    | '.' :: tail => tail.takeWhile Char.isDigit
    | _ => []
  let rest := match rest with
    | '.' :: tail => tail.dropWhile Char.isDigit
    | _ => rest
  let exponent? : Option Int := match rest with
    | [] => some 0
    | 'e' :: '-' :: digits => (natural? 10 digits).map fun n => -(n : Int)
    | 'e' :: '+' :: digits => (natural? 10 digits).map fun n => (n : Int)
    | 'e' :: digits => (natural? 10 digits).map fun n => (n : Int)
    | _ => none
  match natural? 10 (whole ++ fraction), exponent? with
  | some n, some e => some (Decimal.toFloat n (e - fraction.length))
  | _, _ => none

/-- A double in small letters, with an optional sign, between blanks. -/
def doubleOf (s : List Char) : Except Error Float :=
  let inner := withoutMargins s
  let magnitude := withoutSign inner
  let found? :=
    if magnitude == "inf".toList || magnitude == "infinity".toList then some (1.0 / 0.0)
    else if magnitude == "nan".toList then some (0.0 / 0.0)
    else decimal? magnitude
  match found? with
  | some x => .ok (if inner.head? == some '-' then -x else x)
  | none =>
    .error (.impossible ("could not convert string to float: " ++ Text.displayed (String.ofList s)))

/-- The sum of numbers to base sixty, the lowest first; `unit` is the value of one in the lowest place. -/
def sixtiethSum (unit : Nat) (sum : Float) : List Float → Except Error Float
  | [] => .ok sum
  | x :: rest =>
    let factor := Decimal.toFloat unit 0
    if factor.isInf then .error (.tooLarge "int too large to convert to float")
    else sixtiethSum (60 * unit) (sum + x * factor) rest

/-- The value of a floating point number. -/
def floatValue (text : String) : Except Error Float := do
  let s := Text.toSmall (withoutMarks text.toList)
  let magnitude := withoutSign s
  let sign (x : Float) : Float := if s.head? == some '-' then -1.0 * x else x
  if s.isEmpty then throw .noDigits
  else if magnitude == ".inf".toList then return sign (1.0 / 0.0)
  else if magnitude == ".nan".toList then return 0.0 / 0.0
  else if magnitude.contains ':' then
    let parts ← (colonParts magnitude).mapM doubleOf
    return sign (← sixtiethSum 1 0.0 parts.reverse)
  else return sign (← doubleOf magnitude)

end PropertyQuote.Yaml
