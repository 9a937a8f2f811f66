import PropertyQuote.Grouping
import PropertyQuote.HintName
import PropertyQuote.Literal
import PropertyQuote.Signature
import PropertyQuote.Template.Basic

/-!
# Generated units

One source unit per owner: a second part of the owner's declaration with one member per candidate that is
defined as a single expression.  The member returns the candidate's payload.
-/

namespace PropertyQuote

/-- A generated source file, with the namespace and the declaration name of its owner. -/
structure SourceUnit where
  hintName : String
  text : String
  home : String := ""
  typeName : String := ""
deriving DecidableEq, Repr

/-- A member of a unit, before it is written. -/
structure Member where
  name : String
  isStatic : Bool
  payload : String
deriving DecidableEq, Repr

/-- A candidate for which no member is written. -/
structure SkippedMember where
  candidate : Candidate
  reason : String
deriving Repr

/-- What became of an owner: a unit, with the names of its members, or nothing. -/
inductive Outcome where
  | emitted (unit : SourceUnit) (owner : TypeSymbol) (members : List String)
      (skipped : List SkippedMember)
  | skipped (owner : TypeSymbol) (reason : String) (candidates : List Candidate)

/-- Why a candidate gets no member. -/
def noExpressionReason : String :=
  "getter is not a single expression"

/-- The member of a candidate that is defined as an expression. -/
def Candidate.member? (c : Candidate) : Option Member :=
  c.declaration.expression?.map fun e => ⟨c.name, c.symbol.isStatic, payload c.symbol.type e⟩

/-- The name of the generated method. -/
def Member.methodName (m : Member) : String :=
  m.name ++ "Bonsai"

/-- What a template sees of a member. -/
def Member.value (m : Member) : Template.Value :=
  .item "_Member" [("name", .text m.name), ("is_static", .flag m.isStatic),
    ("literal", .text (Literal.quote m.payload))]

/-- What a template sees of a unit. -/
def unitValues (owner : TypeSymbol) (members : List Member) : List (String × Template.Value) :=
  [("namespace", .text owner.home), ("keyword", .text owner.keyword),
    ("type_name", .text owner.declarationName), ("members", .items (members.map Member.value))]

/-- The template of a unit unless a project brings its own. -/
def standardTemplate : List Template.Piece :=
  [.text "// <auto-generated/>\n",
   .branch (.name "namespace")
     [.text "namespace ", .print (.name "namespace"), .text ";\n\n"] [],
   .text "public partial ", .print (.name "keyword"), .text " ", .print (.name "type_name"),
   .text "\n\x7b\n",
   .loop "member" (.name "members")
     [.text "    public ",
      .print (.choose (.field (.name "member") "is_static") (.constant (.text "static "))
        (.constant (.text ""))),
      .text "string ", .print (.field (.name "member") "name"), .text "Bonsai() => ",
      .print (.field (.name "member") "literal"), .text ";\n"],
   .text "\x7d\n"]

namespace Group

/-- The members of a group's unit. -/
def members (g : Group) : List Member :=
  g.candidates.filterMap Candidate.member?

/-- The candidates of a group that get no member. -/
def memberless (g : Group) : List Candidate :=
  g.candidates.filter (·.member?.isNone)

/-- The text of a group's unit. -/
def unitText (template : List Template.Piece) (g : Group) : Except Template.Error String :=
  Template.renderAll (unitValues g.owner g.members) template

/-- Writes the unit of a group. -/
def emit (template : Except Template.Error (List Template.Piece)) (qualified : Bool) (g : Group) :
    Except Template.Error Outcome := do
  let text ← g.unitText (← template)
  return .emitted ⟨hintName qualified g.owner, text, g.owner.home, g.owner.declarationName⟩ g.owner
    (g.members.map Member.methodName) (g.memberless.map (⟨·, noExpressionReason⟩))

/-- What the log says about the candidates that get no member. -/
def emissionLog (g : Group) : List Log.Entry :=
  g.memberless.map fun c =>
    ⟨"emission", .debug, "Omitting " ++ g.owner.displayName ++ "." ++ c.name ++ ": " ++
      noExpressionReason⟩

/-- The outcome of a group that is left out because its owner is nested. -/
def skip (g : Group) : Outcome :=
  .skipped g.owner nestedReason g.candidates

end Group

/-- Writes the units of some groups.  Owners with the same simple name get qualified hint names. -/
def emitAll (template : Except Template.Error (List Template.Piece)) (gs : List Group) :
    Except Template.Error (List Outcome) :=
  gs.mapM fun g => g.emit template (needsQualification (gs.map Group.owner) g.owner)

/-- The name of the unit that declares the marker attribute. -/
def bootstrapHintName : String :=
  "GenerateBonsaiAttribute.g.cs"

/-- The unit that declares the marker attribute. -/
def bootstrapUnit : SourceUnit where
  hintName := bootstrapHintName
  text := "// <auto-generated/>\n" ++
    "namespace Corvus.Expressions.SourceGenerator;\n\n" ++
    "using System;\n\n" ++
    "[AttributeUsage(AttributeTargets.Property, Inherited = false, AllowMultiple = false)]\n" ++
    "sealed class GenerateBonsaiAttribute : Attribute\n" ++
    "\x7b\n" ++
    "    public GenerateBonsaiAttribute()\n" ++
    "    \x7b\n" ++
    "    \x7d\n" ++
    "\x7d\n"

end PropertyQuote
