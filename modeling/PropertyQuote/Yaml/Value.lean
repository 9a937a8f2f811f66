import PropertyQuote.Yaml.Tag

/-!
# Values of YAML

What the nodes of a document stand for, and the values of scalars by their tags.
-/

namespace PropertyQuote.Yaml

/-- A value. -/
inductive Value where
  | null
  | bool (b : Bool)
  | int (n : Int)
  | float (x : Float)
  | str (s : String)
  | bytes (bs : List UInt8)
  /-- A date or a time. -/
  | time
  | seq (items : List Value)
  /-- Pairs of a sequence of pairs, which are values of no other kind. -/
  | pair
  | map (entries : List (Value × Value))
  | set (items : List Value)
deriving Inhabited

/-- What gives texts their values.  Some of its faults are its own, and the others come from what it relies on. -/
structure Loader where
  load : List Char → Except Error Value
  /-- Whether a fault is one of the loader's own. -/
  reports : Error → Bool

/-! ## Scalars -/

/-- The value of a truth word. -/
def boolValue (text : String) : Except Error Bool :=
  let word := String.ofList (Text.toSmall text.toList)
  if ["yes", "true", "on"].contains word then .ok true
  else if ["no", "false", "off"].contains word then .ok false
  else .error (.unknownWord word)

/-- The number of days of a month. -/
def daysIn (year month : Nat) : Nat :=
  if month == 2 then
    (if year % 4 == 0 && (year % 100 != 0 || year % 400 == 0) then 29 else 28)
  else if [4, 6, 9, 11].contains month then 30
  else 31

/-- The number that some digits write. -/
def decimalNumber (s : List Char) : Nat :=
  (natural? 10 s).getD 0

/-- A distance of time in days and seconds. -/
def durationText (seconds : Int) : String :=
  let days := seconds.fdiv 86400
  let rest := seconds.fmod 86400
  let parts := (if days == 0 then [] else ["days=" ++ toString days]) ++
    (if rest == 0 then [] else ["seconds=" ++ toString rest])
  "datetime.timedelta(" ++ (if parts.isEmpty then "0" else String.intercalate ", " parts) ++ ")"

/-- What is wrong with a date or time: the first part that is out of range. -/
def timestampFault? (t : Timestamp) : Option String :=
  let year := decimalNumber t.year
  let month := decimalNumber t.month
  let day := decimalNumber t.day
  let zoneFault := t.zone.bind fun (sign, hours, minutes) =>
    let seconds : Int := 3600 * decimalNumber hours + 60 * decimalNumber minutes
    if seconds < 86400 then none
    else some ("offset must be a timedelta strictly between -timedelta(hours=24) and " ++
      "timedelta(hours=24), not " ++ durationText (if sign == '-' then -seconds else seconds) ++ ".")
  let dateFault :=
    if year == 0 then some "year 0 is out of range"
    else if month == 0 || 12 < month then some "month must be in 1..12"
    else if day == 0 || daysIn year month < day then some "day is out of range for month"
    else none
  let timeFault := t.time.bind fun (hour, minute, second, _) =>
    if 23 < decimalNumber hour then some "hour must be in 0..23"
    else if 59 < decimalNumber minute then some "minute must be in 0..59"
    else if 59 < decimalNumber second then some "second must be in 0..59"
    else none
  zoneFault.or (dateFault.or timeFault)

/-- The value of a character of base 64. -/
def base64Value? (c : Char) : Option Nat :=
  let n := c.toNat
  if 0x41 ≤ n && n ≤ 0x5a then some (n - 0x41)
  else if 0x61 ≤ n && n ≤ 0x7a then some (n - 0x47)
  else if 0x30 ≤ n && n ≤ 0x39 then some (n + 4)
  else if c == '+' then some 62
  else if c == '/' then some 63
  else none

/-- The bytes of a text in base 64, where `bits` are left over from the `count` characters of a group of
four that were read, and from the `pads` signs that fill it.  A filled group ends the text, and other
characters do not count. -/
def base64From? (bits count pads : Nat) : List Char → Option (List UInt8)
  | [] => if count == 0 then some [] else none
  | c :: rest =>
    if c == '=' then
      (if 2 ≤ count && 4 ≤ count + pads + 1 then some []
        else base64From? bits count (if 2 ≤ count then pads + 1 else pads) rest)
    else
      match base64Value? c with
      | none => base64From? bits count pads rest
      | some n =>
        if count == 0 then base64From? n 1 0 rest
        else if count == 1 then
          (base64From? (n % 16) 2 0 rest).map (UInt8.ofNat (bits * 4 + n / 16) :: ·)
        else if count == 2 then
          (base64From? (n % 4) 3 0 rest).map (UInt8.ofNat (bits * 16 + n / 4) :: ·)
        else (base64From? 0 0 0 rest).map (UInt8.ofNat (bits * 64 + n) :: ·)

/-- The bytes of a text in base 64. -/
def base64? (text : String) : Option (List UInt8) :=
  if text.toList.all (·.toNat < 0x80) then base64From? 0 0 0 text.toList else none

/-- The value of a scalar; none if the tag is not one of scalars. -/
def scalarValue? (tag text : String) : Option (Except Error Value) :=
  if tag == Tag.str then some (.ok (.str text))
  else if tag == Tag.null then some (.ok .null)
  else if tag == Tag.bool then some ((boolValue text).map .bool)
  else if tag == Tag.int then some ((intValue text).map .int)
  else if tag == Tag.float then some ((floatValue text).map .float)
  else if tag == Tag.timestamp then some <|
    match timestamp? text.toList with
    | none => .error .noDate
    | some t =>
      match timestampFault? t with
      | some message => .error (.impossible message)
      | none => .ok .time
  else if tag == Tag.binary then some ((orMalformed (base64? text)).map .bytes)
  else none

/-! ## Mappings -/

/-- Whether a value is the given text. -/
def Value.isText (text : String) : Value → Bool
  | .str s => s == text
  | _ => false

/-- The value of a name in a mapping: of several entries the last one counts. -/
def Value.get? (name : String) : Value → Option Value
  | .map entries => (entries.reverse.find? (·.1.isText name)).map Prod.snd
  | _ => none

end PropertyQuote.Yaml
