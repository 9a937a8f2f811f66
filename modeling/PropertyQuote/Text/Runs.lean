/-!
# Runs of characters

A property of characters is kept as the bounds of the runs of characters that have it.
-/

namespace PropertyQuote.Text

/-- Whether a number lies in one of the runs with the given bounds.  The bounds ascend; a run starts at one
and ends before the next, and the last run may have no end. -/
def inRuns (n : Nat) : List Nat → Bool
  | [] => false
  | [start] => start ≤ n
  | start :: stop :: rest => start ≤ n && (n < stop || inRuns n rest)

end PropertyQuote.Text
