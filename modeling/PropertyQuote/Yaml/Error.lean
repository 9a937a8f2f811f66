/-!
# Faults of YAML texts

A text may be malformed.  The values of a well-formed text may still be at fault: a date that does not exist, a
number that is none, a tag that nothing is known about.
-/

namespace PropertyQuote.Yaml

/-- Why a text has no value. -/
inductive Error where
  /-- The text is malformed, or a value has no meaning. -/
  | malformed
  /-- A number, a date or a character is impossible. -/
  | impossible (message : String)
  /-- A number is beyond all bounds. -/
  | tooLarge (message : String)
  /-- A word is no truth value. -/
  | unknownWord (word : String)
  /-- A number has no digits. -/
  | noDigits
  /-- A date is none. -/
  | noDate
  /-- A date is no text. -/
  | noText
  /-- The text is nested more deeply than it can be followed. -/
  | tooDeep
deriving DecidableEq, Repr

/-- What was found, or else the text is malformed. -/
def orMalformed {α : Type} (found : Option α) : Except Error α :=
  match found with
  | some a => .ok a
  | none => .error .malformed

end PropertyQuote.Yaml
