/-!
# Decimals and binary floating point

A decimal is read as the nearest double, and a double is written with the fewest digits that read back as
itself.
-/

namespace PropertyQuote.Decimal

/-- The number of decimal digits of a number. -/
def digitCount (n : Nat) : Nat :=
  (Nat.toDigits 10 n).length

/-- The double nearest to `digits · 10 ^ exponent`.  Magnitudes beyond every double are settled before
any power of ten is formed. -/
def toFloat (digits : Nat) (exponent : Int) : Float :=
  let magnitude : Int := digitCount digits + exponent
  if digits == 0 || magnitude < -330 then 0.0
  else if 310 < magnitude then 1.0 / 0.0
  else if exponent < 0 then Float.ofScientific digits true exponent.natAbs
  else Float.ofScientific digits false exponent.natAbs

/-- A positive double as the fraction `num / den`, with the ends of the interval of numbers that round to
it, over the same denominator. -/
structure Rounded where
  num : Nat
  den : Nat
  low : Nat
  high : Nat
  closed : Bool

/-- The interval of a finite double that is not zero, without its sign. -/
def Rounded.ofFloat (x : Float) : Rounded :=
  let bits := x.toBits.toNat
  let field : Nat := bits / 0x10000000000000 % 0x800
  let fraction := bits % 0x10000000000000
  let m := if field == 0 then fraction else 0x10000000000000 + fraction
  let q : Int := if field == 0 then -1074 else (field : Int) - 1075
  let unit := Nat.pow 2 q.toNat
  let below := if fraction == 0 && 1 < field then 1 else 2
  ⟨4 * m * unit, 4 * Nat.pow 2 (-q).toNat, (4 * m - below) * unit, (4 * m + 2) * unit, m % 2 == 0⟩

/-- Whether `digits · 10 ^ exponent` lies in the interval. -/
def Rounded.holds (r : Rounded) (digits : Nat) (exponent : Int) : Bool :=
  let value := digits * Nat.pow 10 exponent.toNat * r.den
  let scale := Nat.pow 10 (-exponent).toNat
  if r.closed then r.low * scale ≤ value && value ≤ r.high * scale
  else r.low * scale < value && value < r.high * scale

/-- The power of ten of the first digit. -/
def Rounded.leading (r : Rounded) : Int :=
  if r.den ≤ r.num then (digitCount (r.num / r.den) : Int) - 1
  else
    let inverse := (r.den + r.num - 1) / r.num
    0 - (digitCount (inverse - 1) : Int)

/-- The neighbour of the value on the grid of multiples of `10 ^ exponent` that lies in the interval; of
two, the nearer, and of two equally near the even one. -/
def Rounded.onGrid? (r : Rounded) (exponent : Int) : Option Nat :=
  let num := r.num * Nat.pow 10 (-exponent).toNat
  let den := r.den * Nat.pow 10 exponent.toNat
  let below := num / den
  let rest := 2 * (num % den)
  match r.holds below exponent, r.holds (below + 1) exponent with
  | true, true =>
    some (if rest < den || (rest == den && below % 2 == 0) then below else below + 1)
  | true, false => some below
  | false, true => some (below + 1)
  | false, false => none

/-- Digits as one number, and the power of ten of the last of them. -/
structure Digits where
  digits : Nat
  exponent : Int

/-- The coarsest grid with a neighbour of the value in the interval, trying `left` more of them. -/
def Rounded.search (r : Rounded) (exponent : Int) : Nat → Digits
  | 0 => ⟨(r.onGrid? exponent).getD 0, exponent⟩
  | left + 1 =>
    match r.onGrid? exponent with
    | some digits => ⟨digits, exponent⟩
    | none => r.search (exponent - 1) left

/-- The fewest digits that read back as the given double, which is finite and not zero. -/
def shortest (x : Float) : Digits :=
  let r := Rounded.ofFloat x
  r.search r.leading 17

/-- How a double is written: between which powers of ten the first digit may stand for positional
notation, and the texts of the values that are no numbers. -/
structure Layout where
  leastPositional : Int
  mostPositional : Int
  nan : String
  infinity : String

/-- Positional from `0.0001` up to sixteen digits before the point. -/
def Layout.usual : Layout := ⟨-4, 15, "nan", "inf"⟩

/-- A list of digits without the zeros at its end. -/
def withoutZeros (s : List Char) : List Char :=
  (s.reverse.dropWhile (· == '0')).reverse

/-- A positive number with the digits `ds`, the first of which stands for `10 ^ leading`. -/
def Layout.positive (layout : Layout) (ds : List Char) (leading : Int) : List Char :=
  if leading < layout.leastPositional || layout.mostPositional < leading then
    let mantissa :=
      match ds with
      | d :: e :: rest => d :: '.' :: e :: rest
      | _ => ds
    let power := Nat.toDigits 10 leading.natAbs
    mantissa ++ ['e', if leading < 0 then '-' else '+'] ++
      (if power.length < 2 then '0' :: power else power)
  else if leading < 0 then
    '0' :: '.' :: List.replicate (leading.natAbs - 1) '0' ++ ds
  else
    let whole := leading.toNat + 1
    let tail := ds.drop whole
    ds.take whole ++ List.replicate (whole - ds.length) '0' ++ '.' ::
      (if tail.isEmpty then ['0'] else tail)

/-- The text of a double. -/
def Layout.render (layout : Layout) (x : Float) : String :=
  let sign := if 0x8000000000000000 ≤ x.toBits.toNat then "-" else ""
  if x.isNaN then layout.nan
  else if x.isInf then sign ++ layout.infinity
  else if x == 0.0 then sign ++ "0.0"
  else
    let found := shortest x
    let all := Nat.toDigits 10 found.digits
    let leading := (all.length : Int) - 1 + found.exponent
    sign ++ String.ofList (layout.positive (withoutZeros all) leading)

end PropertyQuote.Decimal
