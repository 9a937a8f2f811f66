/-!
# Log lines

What a pass reports while it runs.  Each entry names the stage that made it; skipped properties are
only reported at the debug level, so a reader sees them when the log is verbose.
-/

namespace PropertyQuote.Log

/-- How much an entry matters. -/
inductive Level where
  | unset
  | debug
  | info
  | warning
  | error
  | critical
deriving DecidableEq, Repr

/-- The word for a level. -/
def Level.word : Level → String
  | .unset => "NOTSET"
  | .debug => "DEBUG"
  | .info => "INFO"
  | .warning => "WARNING"
  | .error => "ERROR"
  | .critical => "CRITICAL"

/-- The level that a word names; two levels have a second word. -/
def Level.ofWord? (word : String) : Option Level :=
  match word with
  | "WARN" => some .warning
  | "FATAL" => some .critical
  | _ => [.unset, .debug, .info, .warning, .error, .critical].find? (·.word == word)

/-- Levels as numbers, the more important the higher. -/
def Level.rank : Level → Nat
  | .unset => 0
  | .debug => 10
  | .info => 20
  | .warning => 30
  | .error => 40
  | .critical => 50

/-- The least level that is written. -/
def threshold (verbose : Bool) : Level :=
  if verbose then .debug else .info

/-- The name of the program's log. -/
def programName : String := "bonsaigen"

/-- One entry of the log. -/
structure Entry where
  stage : String
  level : Level
  message : String
deriving DecidableEq, Repr

/-- The bracketed text in front of an entry; without a stage it names the program alone. -/
def label (stage : String) : String :=
  if stage.isEmpty then "[" ++ programName ++ "]" else "[" ++ programName ++ ":" ++ stage ++ "]"

/-- An entry as one line. -/
def Entry.line (e : Entry) : String :=
  label e.stage ++ " " ++ e.level.word ++ " " ++ e.message

/-- Whether an entry is written at all. -/
def Entry.shows (verbose : Bool) (e : Entry) : Bool :=
  (threshold verbose).rank ≤ e.level.rank

/-- The lines of a log at the given verbosity. -/
def lines (verbose : Bool) (entries : List Entry) : List String :=
  (entries.filter (·.shows verbose)).map Entry.line

/-- The name under which a stage logs; without a stage that is the program's own name. -/
def loggerName (stage : String) : String :=
  if stage.isEmpty then programName else programName ++ "." ++ stage

/-- The stage that logs under a name; a name outside the program has none. -/
def stageOf (logger : String) : String :=
  let start := (programName ++ ".").toList
  if start.isPrefixOf logger.toList then String.ofList (logger.toList.drop start.length) else ""

/-- What a log adds to its stream: every shown entry, ended by a line feed. -/
def written (verbose : Bool) (entries : List Entry) : String :=
  String.join ((lines verbose entries).map (· ++ "\n"))

/-! ## Loggers

Loggers form a tree by the dots in their names.  What a logger logs goes up to the program's own logger, which
writes it. -/

/-- The names above a name that is given in reverse, the nearest first.  They end before its dots; of two
dots side by side only the later one counts. -/
def namesAbove : List Char → List String
  | '.' :: c :: rest => String.ofList (c :: rest).reverse :: namesAbove rest
  | _ :: rest => namesAbove rest
  | [] => []

/-- Whether a logger is below the program's own one, where `known` are the names of the loggers there are.
A logger hangs on the nearest known one above it; `fuel` bounds the steps up. -/
def reaches (known : List String) : Nat → String → Bool
  | fuel + 1, name =>
    name == programName ||
      match (namesAbove name.toList.reverse).find? fun above => (programName :: known).contains above with
      | some above => reaches known fuel above
      | none => false
  | 0, _ => false

/-- Whether what a stage logs is heard by the program's own logger. -/
def isHeard (known : List String) (stage : String) : Bool :=
  reaches known ((loggerName stage).length + 1) (loggerName stage)

end PropertyQuote.Log
