/-!
# Hexadecimal digits
-/

namespace PropertyQuote.Text

/-- The digit of a number below sixteen, in lower case. -/
def hexDigit (n : Nat) : Char :=
  if n < 10 then Char.ofNat (0x30 + n) else Char.ofNat (0x57 + n)

/-- The last `count` hexadecimal digits of a number, the highest first. -/
def hex (count n : Nat) : List Char :=
  (List.range count).reverse.map fun i => hexDigit (n / Nat.pow 16 i % 16)

/-- The value of a hexadecimal digit of either case. -/
def hexValue? (c : Char) : Option Nat :=
  let n := c.toNat
  if 0x30 ≤ n && n ≤ 0x39 then some (n - 0x30)
  else if 0x41 ≤ n && n ≤ 0x46 then some (n - 0x37)
  else if 0x61 ≤ n && n ≤ 0x66 then some (n - 0x57)
  else none

end PropertyQuote.Text
