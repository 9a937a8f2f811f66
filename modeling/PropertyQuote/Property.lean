/-!
# Property declarations

The part of a property's syntax that generation looks at.  A property written `P => e;` has one `get`
accessor whose body is the expression; an arrow on the accessor itself is kept apart from that.
-/

namespace PropertyQuote

/-- The form of an accessor's body. -/
inductive BodyKind where
  | expression
  | accessorExpression
  | block
  | none
deriving DecidableEq, Repr

/-- The word for a form of body. -/
def BodyKind.word : BodyKind → String
  | .expression => "expression"
  | .accessorExpression => "accessor_expression"
  | .block => "block"
  | .none => "none"

/-- The form that a word names. -/
def BodyKind.ofWord? (word : String) : Option BodyKind :=
  [.expression, .accessorExpression, .block, .none].find? (·.word == word)

/-- One accessor of a property, with the text of its expression if it has one. -/
structure Accessor where
  keyword : String
  body : BodyKind := .none
  expression : Option String := none
deriving DecidableEq, Repr

/-- A property declaration: names as written, and where it stands. -/
structure PropertyDeclaration where
  name : String
  attributeNames : List String := []
  accessors : List Accessor := []
  path : String := ""
  line : Int := 0
deriving DecidableEq, Repr

namespace PropertyDeclaration

/-- The first `get` accessor. -/
def getter? (d : PropertyDeclaration) : Option Accessor :=
  d.accessors.find? (·.keyword == "get")

/-- The text of the expression that the property is defined as, if it is defined as one. -/
def expression? (d : PropertyDeclaration) : Option String :=
  match d.getter? with
  | some getter => if getter.body == .expression then getter.expression else none
  | none => none

/-- File and line of the declaration. -/
def location (d : PropertyDeclaration) : String :=
  (if d.path.isEmpty then "<memory>" else d.path) ++ ":" ++ toString d.line

end PropertyDeclaration

end PropertyQuote
