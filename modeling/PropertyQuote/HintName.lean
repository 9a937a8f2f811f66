import PropertyQuote.Symbol

/-!
# Names of generated files

A unit is stored under a hint name made from its owner.  Owners that share name and number of type
parameters are told apart by their namespaces.
-/

namespace PropertyQuote

/-- What the hint name starts with: the owner's name, with the number of its type parameters if it has
any. -/
def hintStem (owner : TypeSymbol) : String :=
  if owner.arity == 0 then owner.name else owner.name ++ "_" ++ toString owner.arity

/-- The hint name of an owner, with the namespace in front if `qualified` asks for it. -/
def hintName (qualified : Bool) (owner : TypeSymbol) : String :=
  (if qualified && !owner.home.isEmpty then owner.home ++ "." ++ hintStem owner else hintStem owner) ++
    "_GenerateBonsai.g.cs"

/-- Whether an owner shares its name and number of type parameters with another of `owners`. -/
def needsQualification (owners : List TypeSymbol) (owner : TypeSymbol) : Bool :=
  1 < owners.countP fun o => o.name == owner.name && o.arity == owner.arity

end PropertyQuote
