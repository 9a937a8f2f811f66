import PropertyQuote.Emission
import PropertyQuote.Fingerprint

/-!
# Generation

A pass over a program: discover the candidates, group them by owner, write a unit per owner.
-/

namespace PropertyQuote

/-- What a pass is told: the marker attribute, whether to write the unit that declares it, and the
template of the units. -/
structure PassOptions where
  marker : String := standardMarker
  emitBootstrap : Bool := true
  template : Except Template.Error (List Template.Piece) := .ok standardTemplate

/-- Everything that a pass produced. -/
structure GenerationResult where
  candidates : List Candidate
  outcomes : List Outcome
  bootstrap : Option SourceUnit
  fingerprint : String

namespace GenerationResult

/-- The unit of an outcome. -/
def unitOf? : Outcome → Option SourceUnit
  | .emitted unit .. => some unit
  | .skipped .. => none

/-- All units of a pass. -/
def units (r : GenerationResult) : List SourceUnit :=
  r.bootstrap.toList ++ r.outcomes.filterMap unitOf?

end GenerationResult

/-- Runs a pass over a program. -/
def generate (options : PassOptions) (program : List Occurrence) :
    Except Template.Error GenerationResult := do
  let candidates := discover options.marker program
  let emitted ← emitAll options.template (emittableGroups candidates)
  return {
    candidates
    outcomes := emitted ++ (nestedGroups candidates).map Group.skip
    bootstrap := if options.emitBootstrap then some bootstrapUnit else none
    fingerprint := fingerprint candidates }

/-- The log of a pass. -/
def generateLog (options : PassOptions) (program : List Occurrence) : List Log.Entry :=
  let candidates := discover options.marker program
  discoverLog options.marker program ++
    ⟨"generator", .debug, "Discovered " ++ toString candidates.length ++ " candidate(s)"⟩ ::
    groupingLog candidates ++ (emittableGroups candidates).flatMap Group.emissionLog

end PropertyQuote
