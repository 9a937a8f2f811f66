/-!
# The length of whole numbers

Whole numbers of very many decimal digits are neither read nor written.
-/

namespace PropertyQuote.Decimal

/-- The most decimal digits of a whole number that is read or written. -/
def mostDigits : Nat := 4300

end PropertyQuote.Decimal
