import PropertyQuote.Log
import PropertyQuote.Property
import PropertyQuote.Symbol

/-!
# Candidates

A program is seen as the list of its property declarations, each with what the program knows about it.
The candidates are the declarations that carry the marker attribute and can be read.
-/

namespace PropertyQuote

/-- The attribute that marks a property. -/
def standardMarker : String :=
  "Corvus.Expressions.SourceGenerator.GenerateBonsaiAttribute"

/-- What a program knows about a declaration: its symbol, the full names of its attributes and the type
that declares it. -/
structure Resolution where
  symbol : PropertySymbol
  attributes : List String
  owner : TypeSymbol
deriving Repr

/-- The symbol as it describes itself. -/
def Resolution.ofSymbol (symbol : PropertySymbol) : Resolution :=
  ⟨symbol, symbol.attributes, symbol.owner⟩

/-- A property declaration of a program; the resolution is missing if the program cannot make sense of
the declaration. -/
structure Occurrence where
  declaration : PropertyDeclaration
  resolution : Option Resolution
deriving Repr

/-- A marked property, with the type under which it is collected. -/
structure Candidate where
  symbol : PropertySymbol
  declaration : PropertyDeclaration
  owner : TypeSymbol
deriving DecidableEq, Repr

namespace Candidate

/-- The name of the property. -/
def name (c : Candidate) : String :=
  c.symbol.name

/-- The key of the type under which the candidate is collected. -/
def key (c : Candidate) : OwnerKey :=
  c.owner.groupKey

end Candidate

/-- What becomes of a declaration: it has no attribute at all, it cannot be resolved, it does not carry
the marker, it has no getter, or it is a candidate. -/
inductive Verdict where
  | plain
  | unresolved
  | unmarked
  | noGetter
  | candidate (c : Candidate)

namespace Occurrence

/-- Judges a declaration.  Attributes are asked for before anything is resolved. -/
def verdict (marker : String) (o : Occurrence) : Verdict :=
  if o.declaration.attributeNames.isEmpty then .plain
  else
    match o.resolution with
    | none => .unresolved
    | some r =>
      if !r.attributes.contains marker then .unmarked
      else if r.symbol.hasGetter && o.declaration.getter?.isSome then
        .candidate ⟨r.symbol, o.declaration, r.owner⟩
      else .noGetter

/-- The candidate that a declaration gives, if it gives one. -/
def candidate? (marker : String) (o : Occurrence) : Option Candidate :=
  match o.verdict marker with
  | .candidate c => some c
  | _ => none

/-- What the log says about a declaration. -/
def report? (marker : String) (o : Occurrence) : Option Log.Entry :=
  let d := o.declaration
  match o.verdict marker with
  | .unresolved =>
    some ⟨"discovery", .debug, "Could not resolve property " ++ d.name ++ " at " ++ d.location⟩
  | .noGetter =>
    some ⟨"discovery", .debug, "Property " ++ d.name ++ " at " ++ d.location ++ " has no getter"⟩
  | _ => none

end Occurrence

/-- The candidates of a program, in the order of their declarations. -/
def discover (marker : String) (program : List Occurrence) : List Candidate :=
  program.filterMap (·.candidate? marker)

/-- The log of a discovery. -/
def discoverLog (marker : String) (program : List Occurrence) : List Log.Entry :=
  program.filterMap (·.report? marker)

end PropertyQuote
