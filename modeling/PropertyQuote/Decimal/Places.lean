import PropertyQuote.Decimal.Shortest

/-!
# Decimals with a given number of places

A double written with so many places, or with so many places after its first digit.  The exact value of the
double is rounded to the nearest decimal; of two that are equally near, the even one counts.
-/

namespace PropertyQuote.Decimal

/-- The whole number nearest to `num / den`, of two the even one. -/
def nearest (num den : Nat) : Nat :=
  let below := num / den
  let rest := 2 * (num % den)
  if rest < den || (rest == den && below % 2 == 0) then below else below + 1

/-- The multiple of `10 ^ exponent` nearest to a double without its sign, as a factor. -/
def nearestMultiple (x : Float) (exponent : Int) : Nat :=
  let r := Rounded.ofFloat x
  nearest (r.num * Nat.pow 10 (-exponent).toNat) (r.den * Nat.pow 10 exponent.toNat)

/-- The digits of a number with a point before the last `places` of them.  A number without places has a
point only if `pointed`. -/
def withPoint (pointed : Bool) (places n : Nat) : List Char :=
  let ds := Nat.toDigits 10 n
  let ds := List.replicate (places + 1 - ds.length) '0' ++ ds
  let whole := ds.length - places
  ds.take whole ++ (if places == 0 && !pointed then [] else '.' :: ds.drop whole)

/-- A double without its sign, with `places` places. -/
def fixed (pointed : Bool) (places : Nat) (x : Float) : List Char :=
  withPoint pointed places (nearestMultiple x (-places))

/-- The first `places + 1` digits of a double without its sign, and the power of ten of the first. -/
def leadingDigits (places : Nat) (x : Float) : Nat × Int :=
  if x == 0.0 then (0, 0)
  else
    let leading := (Rounded.ofFloat x).leading
    let n := nearestMultiple x (leading - places)
    if n < Nat.pow 10 (places + 1) then (n, leading) else (n / 10, leading + 1)

/-- A power of ten, with a sign and at least two digits. -/
def powerText (e : Int) : List Char :=
  let ds := Nat.toDigits 10 e.natAbs
  'e' :: (if e < 0 then '-' else '+') :: (if ds.length < 2 then '0' :: ds else ds)

/-- A double without its sign, with `places` places after its first digit and a power of ten. -/
def scientific (pointed : Bool) (places : Nat) (x : Float) : List Char :=
  let (n, e) := leadingDigits places x
  withPoint pointed places n ++ powerText e

/-- A number without the zeros at the end of its places, and without a point that then ends it. -/
def withoutIdlePlaces (s : List Char) : List Char :=
  if s.contains '.' then
    let s := withoutZeros s
    if s.getLast? == some '.' then s.dropLast else s
  else s

/-- A double without its sign with `count` digits that count: positional if its first digit stands for at
least `10 ^ -4` and at most for the last of these digits.  Idle zeros stay only if `pointed`. -/
def general (pointed : Bool) (count : Nat) (x : Float) : List Char :=
  let places := count - 1
  let (n, e) := leadingDigits places x
  let trim (s : List Char) : List Char := if pointed then s else withoutIdlePlaces s
  if -4 ≤ e && e ≤ places then trim (fixed pointed (places - e).toNat x)
  else trim (withPoint pointed places n) ++ powerText e

end PropertyQuote.Decimal
