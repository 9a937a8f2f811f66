import PropertyQuote.Yaml.Number

/-!
# Tags of YAML scalars

Which tag a scalar has by its form: the words for booleans and null, the forms of numbers and of dates.
-/

namespace PropertyQuote.Yaml

namespace Tag

/-- The common start of the standard tags. -/
def start : String := "tag:yaml.org,2002:"

/-- No value. -/
def null : String := start ++ "null"

/-- Truth values. -/
def bool : String := start ++ "bool"

/-- Whole numbers. -/
def int : String := start ++ "int"

/-- Floating point numbers. -/
def float : String := start ++ "float"

/-- Texts. -/
def str : String := start ++ "str"

/-- Bytes. -/
def binary : String := start ++ "binary"

/-- Dates and times. -/
def timestamp : String := start ++ "timestamp"

/-- Sequences. -/
def seq : String := start ++ "seq"

/-- Mappings. -/
def map : String := start ++ "map"

/-- Sets. -/
def set : String := start ++ "set"

/-- Ordered mappings. -/
def omap : String := start ++ "omap"

/-- Sequences of pairs. -/
def pairs : String := start ++ "pairs"

/-- The key that merges another mapping. -/
def merge : String := start ++ "merge"

/-- The key of a default value. -/
def value : String := start ++ "value"

/-- The signs of YAML itself. -/
def yaml : String := start ++ "yaml"

end Tag

/-- A digit or an underscore. -/
def isDigitMark (c : Char) : Bool :=
  c.isDigit || c == '_'

/-- A digit with digits and underscores behind it. -/
def startsDigit (s : List Char) : Bool :=
  match s with
  | c :: rest => c.isDigit && rest.all isDigitMark
  | [] => false

/-- One or two digits that write a number below sixty. -/
def isSixtieth (s : List Char) : Bool :=
  match s with
  | [c] => c.isDigit
  | [c, d] => '0' ≤ c && c ≤ '5' && d.isDigit
  | _ => false

/-- The exponent of a float: nothing, or a letter, a sign and digits. -/
def isExponent (s : List Char) : Bool :=
  match s with
  | [] => true
  | e :: sign :: d :: rest =>
    (e == 'e' || e == 'E') && (sign == '-' || sign == '+') && d.isDigit && rest.all Char.isDigit
  | _ => false

/-- A whole number: binary, octal, decimal, hexadecimal, or in base sixty. -/
def isInt (s : List Char) : Bool :=
  match withoutSign s with
  | '0' :: 'b' :: c :: rest => (c :: rest).all fun c => c == '0' || c == '1' || c == '_'
  | '0' :: 'x' :: c :: rest =>
    (c :: rest).all fun c => isDigitMark c || ('a' ≤ c && c ≤ 'f') || ('A' ≤ c && c ≤ 'F')
  | '0' :: rest => rest.all fun c => ('0' ≤ c && c ≤ '7') || c == '_'
  | c :: rest =>
    c.isDigit &&
      match colonParts (c :: rest) with
      | first :: parts => first.all isDigitMark && parts.all isSixtieth
      | [] => false
  | [] => false

/-- A number with a point: in base ten with an optional exponent, or in base sixty. -/
def isPointed (s : List Char) : Bool :=
  let whole := (withoutSign s).takeWhile (· != '.')
  let rest := ((withoutSign s).dropWhile (· != '.'))
  match rest with
  | '.' :: tail =>
    let fraction := tail.takeWhile isDigitMark
    let after := tail.dropWhile isDigitMark
    if whole.isEmpty then
      s.head? == some '.' && startsDigit fraction && isExponent after
    else if startsDigit whole then isExponent after
    else
      match colonParts whole with
      | first :: part :: parts => startsDigit first && (part :: parts).all isSixtieth && after.isEmpty
      | _ => false
  | _ => false

/-- A floating point number. -/
def isFloat (s : List Char) : Bool :=
  isPointed s || [".inf", ".Inf", ".INF"].contains (String.ofList (withoutSign s)) ||
    [".nan", ".NaN", ".NAN"].contains (String.ofList s)

/-- Cuts a text behind at least `least` and at most `most` digits. -/
def digits? (least most : Nat) (s : List Char) : Option (List Char × List Char) :=
  let run := (s.takeWhile Char.isDigit).take most
  if least ≤ run.length then some (run, s.drop run.length) else none

/-- Cuts a text behind a given character. -/
def char? (c : Char) : List Char → Option (List Char)
  | d :: rest => if d == c then some rest else none
  | [] => none

/-- A date or a time as it is written; the parts of the time and of the zone are there if they are
written. -/
structure Timestamp where
  year : List Char
  month : List Char
  day : List Char
  time : Option (List Char × List Char × List Char × List Char) := none
  zone : Option (Char × List Char × List Char) := none

/-- The end of a time: the zone, if any, and nothing behind it. -/
def zone? (t : Timestamp) (s : List Char) : Option Timestamp :=
  let isGap (c : Char) : Bool := c == ' ' || c == '\t'
  if s.isEmpty then some t
  else
    match s.dropWhile isGap with
    | ['Z'] => some t
    | sign :: rest =>
      if sign == '+' || sign == '-' then do
        let (hours, rest) ← digits? 1 2 rest
        match rest with
        | [] => return { t with zone := some (sign, hours, []) }
        | ':' :: rest =>
          let (minutes, rest) ← digits? 2 2 rest
          if rest.isEmpty then return { t with zone := some (sign, hours, minutes) } else none
        | _ => none
      else none
    | [] => none

/-- The clock of a time and what follows it. -/
def clock? (t : Timestamp) (s : List Char) : Option Timestamp := do
  let (hour, s) ← digits? 1 2 s
  let (minute, s) ← digits? 2 2 (← char? ':' s)
  let (second, s) ← digits? 2 2 (← char? ':' s)
  match s with
  | '.' :: rest =>
    zone? { t with time := some (hour, minute, second, rest.takeWhile Char.isDigit) }
      (rest.dropWhile Char.isDigit)
  | _ => zone? { t with time := some (hour, minute, second, []) } s

/-- The parts of a date or time. -/
def timestampOf? (s : List Char) : Option Timestamp := do
  let (year, rest) ← digits? 4 4 s
  let (month, rest) ← digits? 1 2 (← char? '-' rest)
  let (day, rest) ← digits? 1 2 (← char? '-' rest)
  let t : Timestamp := { year, month, day }
  match rest with
  | [] => some t
  | c :: more =>
    if c == 'T' || c == 't' then clock? t more
    else if c == ' ' || c == '\t' then clock? t (more.dropWhile fun c => c == ' ' || c == '\t')
    else none

/-- The text without a line feed at its end. -/
def withoutLineEnd (s : List Char) : List Char :=
  if s.getLast? == some '\n' then s.dropLast else s

/-- The parts of a text that is tagged as a date or time; a line feed may end it. -/
def timestamp? (s : List Char) : Option Timestamp :=
  timestampOf? (withoutLineEnd s)

/-- Whether a text is a date or time by its form.  A date alone has two digits for month and day. -/
def isTimestamp (s : List Char) : Bool :=
  match timestampOf? s with
  | some t => t.time.isSome || (t.month.length == 2 && t.day.length == 2)
  | none => false

/-- The words for truth values. -/
def boolWords : List String :=
  ["yes", "Yes", "YES", "no", "No", "NO", "true", "True", "TRUE", "false", "False", "FALSE",
   "on", "On", "ON", "off", "Off", "OFF"]

/-- The tag of a scalar by its form.  A line feed at its end does not count, unless it is all there is. -/
def implicitTag (text : String) : String :=
  let s := withoutLineEnd text.toList
  let word := String.ofList s
  if word.isEmpty then (if text.isEmpty then Tag.null else Tag.str)
  else if boolWords.contains word then Tag.bool
  else if isFloat s then Tag.float
  else if isInt s then Tag.int
  else if word == "<<" then Tag.merge
  else if ["~", "null", "Null", "NULL"].contains word then Tag.null
  else if isTimestamp s then Tag.timestamp
  else if word == "=" then Tag.value
  else if ["!", "&", "*"].contains word then Tag.yaml
  else Tag.str

/-- The tag of a scalar.  Without a written tag only plain scalars are told apart by their form; the
unspecific tag asks for that of any scalar. -/
def scalarTag (written : Option String) (plain : Bool) (text : String) : String :=
  match written with
  | some t => if t == "!" then implicitTag text else t
  | none => if plain then implicitTag text else Tag.str

end PropertyQuote.Yaml
