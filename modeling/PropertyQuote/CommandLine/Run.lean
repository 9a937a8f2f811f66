import PropertyQuote.CommandLine.Arguments

/-!
# Running the program

What a call of the program prints, with which status it ends, and what it leaves on the disk.
-/

namespace PropertyQuote.CommandLine

open Log (programName)
open Project

/-- What a call shows: its status unless it ends by itself, and the lines on its two outputs. -/
structure Screen where
  status : Option Nat := none
  out : List String := []
  err : List String := []
deriving DecidableEq, Repr

/-- What the listing says about an owner. -/
def outcomeLines : Outcome → List String
  | .emitted unit owner members skipped =>
    (owner.displayName ++ " -> " ++ unit.hintName) ::
      members.map (fun m => "  + " ++ m ++ "()") ++
      skipped.map fun s => "  - " ++ s.candidate.name ++ ": " ++ s.reason
  | .skipped owner reason candidates =>
    (owner.displayName ++ " (skipped: " ++ reason ++ ")") ::
      candidates.map fun c => "  - " ++ c.name

/-- The listing of the marked properties. -/
def listing (r : GenerationResult) : List String :=
  if r.candidates.isEmpty then ["No [GenerateBonsai] properties found"]
  else r.outcomes.flatMap outcomeLines

/-- What is said about the files that were written, to someone in the directory `current`. -/
def writeLines (current : Location) (dryRun : Bool) (outputDir : Path) (p : Progress) : List String :=
  if dryRun then
    "Generated sources (dry-run):" ::
      p.written.map (fun path => "  write   " ++ path.shown current) ++
      p.removed.map (fun path => "  remove  " ++ path.shown current) ++
      if p.changed then [] else ["  (no changes)"]
  else if p.changed then
    ["Generated sources updated in " ++ outputDir.shown current ++ " (" ++
      toString p.written.length ++ " written, " ++ toString p.removed.length ++ " removed)"]
  else ["Generated sources already up to date"]

/-- What a call prints after a pass. -/
def Call.printed (c : Call) (current : Location) (outcome : PassOutcome) : List String :=
  match c.command with
  | .list => listing outcome.result
  | .generate => writeLines current c.dryRun outcome.settings.outputDir outcome.written

/-- The text of a refusal of the disk that a call reports by itself. -/
def refusalMessage? (refusal : Disk.Refusal) : Option String :=
  match refusal.cause with
  | .notFound =>
    some ("[Errno 2] No such file or directory: " ++ Text.displayed refusal.path.text)
  | .notFolder => some ("[Errno 20] Not a directory: " ++ Text.displayed refusal.path.text)
  | _ => none

/-- What a call says about a failure, if it expects such a one. -/
def Call.complaint? (c : Call) : Failure → Option String
  | .noProject path => (Failure.noProject path).message?
  | .notFolder path => (Failure.notFolder path).message?
  | .settings fault =>
    some (programName ++ " " ++ c.command.word ++ " failed: " ++ fault.message)
  | .disk refusal => refusalMessage? refusal
  | _ => none

/-- What a call shows that asks for no pass. -/
def Stop.screen : Stop → Screen
  | .help => { status := some 0 }
  | .fault speaker cause => { status := some 2, err := [speaker ++ ": error: " ++ cause.message] }

/-- The pass that a call asks for. -/
def Call.report (c : Call) (readers : Readers) (d : Disk) (s : Surroundings) : PassReport :=
  pass readers d s c.path c.output (c.command == .list || c.dryRun)

/-- What a call shows after a pass, unless a failure ends it that it does not expect. -/
def Call.screen (c : Call) (current : Location) (report : PassReport) : Except Failure Screen :=
  let err := Log.lines c.verbose report.log
  match report.result with
  | .ok outcome => .ok { out := c.printed current outcome, err }
  | .error failure =>
    match c.complaint? failure with
    | some line => .ok { status := some 1, err := err ++ [line] }
    | none => .error failure

/-- Runs the program with the given arguments: the disk after it, and what it shows. -/
def run (readers : Readers) (d : Disk) (s : Surroundings) (args : List String) :
    Disk × Except Failure Screen :=
  match Call.read args with
  | .ok call =>
    let report := call.report readers d s
    (report.disk, call.screen s.current report)
  | .error stop => (d, .ok stop.screen)

end PropertyQuote.CommandLine
