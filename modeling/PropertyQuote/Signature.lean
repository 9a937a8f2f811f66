import PropertyQuote.Symbol

/-!
# Descriptors

The text that describes the type of a function-valued property, and the payload that a generated member
returns.
-/

namespace PropertyQuote

/-- The segments for the type arguments from position `i` on. -/
def argumentSegments (i : Nat) : List String → String
  | [] => ""
  | name :: rest => " Argument " ++ toString i ++ ": " ++ name ++ argumentSegments (i + 1) rest

/-- The descriptor of a type: nothing unless its values are functions, else its name and a segment per
type argument.  The arguments of an argument are left out. -/
def TypeRef.descriptor (t : TypeRef) : String :=
  if t.isFunction then t.name ++ argumentSegments 0 (t.arguments.map TypeRef.name) else ""

/-- The text that the generated member returns for a property of type `t` defined as `expression`. -/
def payload (t : TypeRef) (expression : String) : String :=
  t.descriptor ++ " Expression: " ++ expression

end PropertyQuote
