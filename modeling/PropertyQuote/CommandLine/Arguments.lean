import PropertyQuote.CommandLine.Options
import PropertyQuote.Project.Pass

/-!
# Arguments of the program

The program is called with a command, options before and after it, and the path of a project.
-/

namespace PropertyQuote.CommandLine

open Log (programName)
open Project (OutputChoice)

/-- A command. -/
inductive Command where
  /-- Run a pass and write the generated units. -/
  | generate
  /-- Show the marked properties and what a pass would do with them. -/
  | list
deriving DecidableEq, Repr

/-- The word for a command. -/
def Command.word : Command → String
  | generate => "generate"
  | list => "list"

/-- All commands. -/
def Command.all : List Command := [generate, list]

/-- The command that a word names. -/
def Command.ofWord? (word : String) : Option Command :=
  all.find? (·.word == word)

/-- The options before the command. -/
def programOptions : List Opt := [.help, .verbose]

/-- The options after a command. -/
def Command.options : Command → List Opt
  | generate => [.help, .verbose, .output, .dryRun]
  | list => [.help, .verbose]

/-- What a call of the program asks for. -/
structure Call where
  command : Command
  path : String := "."
  verbose : Bool := false
  output : OutputChoice := .standard
  dryRun : Bool := false
deriving DecidableEq, Repr

/-- The end of a call that asks for no pass. -/
inductive Stop where
  /-- Help was asked for. -/
  | help
  /-- The arguments cannot be understood, by the program or by one of its commands. -/
  | fault (speaker : String) (fault : Fault)
deriving DecidableEq, Repr

/-- What is known of a command's arguments so far. -/
structure Reading where
  path : Option String := none
  verbose : Bool := false
  output : OutputChoice := .standard
  dryRun : Bool := false
  /-- Arguments that nothing asks for. -/
  left : List String := []

/-- Takes an option without a value.  The option for help ends the call. -/
def Reading.flag (speaker : String) (r : Reading) : Opt → Except Stop Reading
  | .help => .error .help
  | .verbose => .ok { r with verbose := true }
  | .dryRun => .ok { r with dryRun := true }
  | .output => .error (.fault speaker (.noValue .output))

/-- Takes the value of an option.  Two hyphens are no text. -/
def Reading.value (r : Reading) (text : String) : Reading :=
  { r with output := if text == "--" then .noText else .folder text }

/-- Lets the speaker of a fault be known. -/
def spoken {α : Type} (speaker : String) : Except Fault α → Except Stop α
  | .ok a => .ok a
  | .error fault => .error (.fault speaker fault)

/-- Takes the arguments one after the other.  The first plain one is the path; two hyphens are passed over
beside it. -/
def Reading.take (speaker : String) (table : List Opt) (r : Reading) :
    List (String × Word) → Except Stop Reading
  | [] => .ok r
  | (arg, .plain) :: rest =>
    match r.path, rest with
    | some _, rest => Reading.take speaker table { r with left := r.left ++ [arg] } rest
    | none, (_, .dashes) :: rest => Reading.take speaker table { r with path := some arg } rest
    | none, rest => Reading.take speaker table { r with path := some arg } rest
  | (arg, .dashes) :: rest =>
    match r.path, rest with
    | some _, rest => Reading.take speaker table { r with left := r.left ++ [arg] } rest
    | none, (arg, _) :: rest => Reading.take speaker table { r with path := some arg } rest
    | none, [] => .ok r
  | (arg, .unknown) :: rest =>
    Reading.take speaker table { r with left := r.left ++ [arg] } rest
  | (_, .opt use) :: rest => do
    let asked ← spoken speaker (use.asked table)
    match asked.valued, rest with
    | none, rest => Reading.take speaker table (← asked.flags.foldlM (Reading.flag speaker) r) rest
    | some (_, some text), rest =>
      Reading.take speaker table ((← asked.flags.foldlM (Reading.flag speaker) r).value text) rest
    | some (_, none), (arg, .plain) :: rest =>
      Reading.take speaker table ((← asked.flags.foldlM (Reading.flag speaker) r).value arg) rest
    | some (o, none), _ => throw (.fault speaker (.noValue o))

/-- The arguments from the command on, after the options before it, and whether these ask for a verbose
log. -/
def beforeCommand (r : Reading) : List (String × Word) → Except Stop (Reading × List String)
  | [] => .ok (r, [])
  | (_, .opt use) :: rest => do
    let asked ← spoken programName (use.asked programOptions)
    beforeCommand (← asked.flags.foldlM (Reading.flag programName) r) rest
  | (arg, .unknown) :: rest => beforeCommand { r with left := r.left ++ [arg] } rest
  | rest => .ok (r, rest.map (·.1))

/-- Reads the arguments of a call. -/
def Call.read (args : List String) : Except Stop Call := do
  let (before, rest) ← beforeCommand {} (← spoken programName (classifyAll programOptions args))
  match rest with
  | [] => throw (.fault programName .noCommand)
  | ["--"] => throw (.fault programName .noCommand)
  | word :: args =>
    match Command.ofWord? word with
    | none => throw (.fault programName (.noSuchCommand word (Command.all.map Command.word)))
    | some command =>
      let speaker := programName ++ " " ++ command.word
      let words ← spoken speaker (classifyAll command.options args)
      let r ← Reading.take speaker command.options {} words
      let left := before.left ++ r.left
      if !left.isEmpty then throw (.fault programName (.unrecognized left))
      return { command, path := r.path.getD ".", verbose := before.verbose || r.verbose,
               output := r.output, dryRun := r.dryRun }

end PropertyQuote.CommandLine
