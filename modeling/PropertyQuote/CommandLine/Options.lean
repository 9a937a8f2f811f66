import PropertyQuote.Text.Displayed
import PropertyQuote.Text.Numeral

/-!
# Options of a command line

Options start with a hyphen.  A long option may be cut short as long as it stays unambiguous, short options
may be written together, and a value may follow an equals sign.  Two hyphens alone end the options.
-/

namespace PropertyQuote.CommandLine

/-- An option. -/
inductive Opt where
  | help
  | verbose
  | output
  | dryRun
deriving DecidableEq, Repr

namespace Opt

/-- The ways to write an option. -/
def names : Opt → List String
  | help => ["-h", "--help"]
  | verbose => ["-v", "--verbose"]
  | output => ["-o", "--output"]
  | dryRun => ["--dry-run"]

/-- Whether an option has a value. -/
def takesValue : Opt → Bool
  | output => true
  | _ => false

/-- How messages name an option. -/
def label (o : Opt) : String :=
  "/".intercalate o.names

end Opt

/-- Why a command line cannot be understood. -/
inductive Fault where
  /-- A cut option could be several ones. -/
  | ambiguous (written : String) (candidates : List String)
  /-- An option that takes no value has one. -/
  | unwanted (o : Opt) (value : String)
  /-- An option has no value. -/
  | noValue (o : Opt)
  /-- There is no such command. -/
  | noSuchCommand (written : String) (commands : List String)
  /-- There is no command. -/
  | noCommand
  /-- Arguments that nothing asks for. -/
  | unrecognized (written : List String)
deriving DecidableEq, Repr

/-- The text of a fault. -/
def Fault.message : Fault → String
  | ambiguous written candidates =>
    "ambiguous option: " ++ written ++ " could match " ++ ", ".intercalate candidates
  | unwanted o value =>
    "argument " ++ o.label ++ ": ignored explicit argument " ++ Text.displayed value
  | noValue o => "argument " ++ o.label ++ ": expected one argument"
  | noSuchCommand written commands =>
    "argument command: invalid choice: " ++ Text.displayed written ++ " (choose from " ++
      ", ".intercalate (commands.map Text.displayed) ++ ")"
  | noCommand => "the following arguments are required: command"
  | unrecognized written => "unrecognized arguments: " ++ " ".intercalate written

/-- An option as it stands on the command line: which one, how it is written, and the value that is
written with it. -/
structure Use where
  opt : Opt
  name : String
  value : Option String
deriving DecidableEq, Repr

/-- What an argument is. -/
inductive Word where
  /-- Anything but an option. -/
  | plain
  /-- Two hyphens that end the options. -/
  | dashes
  /-- An option. -/
  | opt (use : Use)
  /-- An option that is not known. -/
  | unknown
deriving DecidableEq, Repr

/-- All ways to write the options of a table. -/
def tableNames (table : List Opt) : List (String × Opt) :=
  table.flatMap fun o => o.names.map (·, o)

/-- The option that is written in full. -/
def inFull? (table : List Opt) (name : String) : Option Opt :=
  ((tableNames table).find? (·.1 == name)).map (·.2)

/-- The parts of an argument before and after its first equals sign. -/
def splitValue (arg : List Char) : String × Option String :=
  let name := String.ofList (arg.takeWhile (· != '='))
  match arg.dropWhile (· != '=') with
  | _ :: value => (name, some (String.ofList value))
  | [] => (name, none)

/-- The options that an argument may be short for. -/
def shortFor (table : List Opt) (arg : List Char) : List Use :=
  match arg with
  | '-' :: '-' :: _ =>
    let (start, value) := splitValue arg
    (tableNames table).filterMap fun (name, o) =>
      if start.toList.isPrefixOf name.toList then some ⟨o, name, value⟩ else none
  | _ =>
    (tableNames table).filterMap fun (name, o) =>
      if name.toList == arg.take 2 then some ⟨o, name, some (String.ofList (arg.drop 2))⟩
      else if arg.isPrefixOf name.toList then some ⟨o, name, none⟩
      else none

/-- Digits, or digits with one point among or before them; a line feed may end them. -/
def isUnsigned (s : List Char) : Bool :=
  let s := if s.getLast? == some '\n' then s.dropLast else s
  match s.dropWhile Text.isDigit with
  | [] => !s.isEmpty
  | '.' :: fraction => !fraction.isEmpty && fraction.all Text.isDigit
  | _ => false

/-- What an argument is, if it stands before two hyphens. -/
def classify (table : List Opt) (arg : String) : Except Fault Word :=
  match arg.toList with
  | '-' :: c :: rest =>
    let (name, value) := splitValue ('-' :: c :: rest)
    match inFull? table arg, value.bind fun _ => inFull? table name with
    | some o, _ => .ok (.opt ⟨o, arg, none⟩)
    | none, some o => .ok (.opt ⟨o, name, value⟩)
    | none, none =>
      match shortFor table ('-' :: c :: rest) with
      | [use] => .ok (.opt use)
      | [] => .ok (if isUnsigned (c :: rest) || (c :: rest).contains ' ' then .plain else .unknown)
      | several => .error (.ambiguous arg (several.map Use.name))
  | _ => .ok .plain

/-- What the arguments of a command line are. -/
def classifyAll (table : List Opt) : List String → Except Fault (List (String × Word))
  | [] => .ok []
  | arg :: rest =>
    if arg == "--" then .ok ((arg, .dashes) :: rest.map (·, .plain))
    else do
      let word ← classify table arg
      return (arg, word) :: (← classifyAll table rest)

/-- What a use of options asks for: options without a value, and perhaps one that takes the value written
with it or else the next argument. -/
structure Asked where
  flags : List Opt
  valued : Option (Opt × Option String)
deriving DecidableEq, Repr

/-- The options that are written together, the first of which is `o`, with the text that follows it. -/
def bundle (table : List Opt) (o : Opt) (isShort : Bool) : List Char → Except Fault Asked
  | [] => .error (.unwanted o "")
  | c :: rest =>
    if o.takesValue then .ok ⟨[], some (o, some (String.ofList (c :: rest)))⟩
    else if !isShort then .error (.unwanted o (String.ofList (c :: rest)))
    else
      match inFull? table (String.ofList ['-', c]) with
      | none => .error (.unwanted o (String.ofList (c :: rest)))
      | some next =>
        if rest.isEmpty then
          .ok (if next.takesValue then ⟨[o], some (next, none)⟩ else ⟨[o, next], none⟩)
        else (bundle table next true rest).map fun asked => { asked with flags := o :: asked.flags }

/-- What a use of options asks for. -/
def Use.asked (table : List Opt) (u : Use) : Except Fault Asked :=
  match u.value with
  | none => .ok (if u.opt.takesValue then ⟨[], some (u.opt, none)⟩ else ⟨[u.opt], none⟩)
  | some "" => if u.opt.takesValue then .ok ⟨[], some (u.opt, some "")⟩ else .error (.unwanted u.opt "")
  | some value => bundle table u.opt (u.name.length == 2) value.toList

end PropertyQuote.CommandLine
