import PropertyQuote.Disk.Basic
import PropertyQuote.Json.Reader
import PropertyQuote.Template.Basic
import PropertyQuote.Yaml.Error

/-!
# Failures of a pass

Everything that can stop a pass over a project.
-/

namespace PropertyQuote.Project

/-- The file that holds the settings of a project. -/
def settingsName : String := ".bonsaigen.yml"

/-- What is wrong with the settings of a project as a whole. -/
inductive SettingsFault where
  /-- The file cannot be read. -/
  | malformed
  /-- The file holds something else than named values. -/
  | noMapping
deriving DecidableEq, Repr

/-- The text of a fault. -/
def SettingsFault.message : SettingsFault → String
  | .malformed => "Failed to parse " ++ settingsName
  | .noMapping => settingsName ++ " must contain a mapping at the root"

/-- Why a pass stops. -/
inductive Failure where
  /-- There is no project at the path. -/
  | noProject (path : String)
  /-- The project is no directory. -/
  | notFolder (path : String)
  /-- The settings are at fault. -/
  | settings (fault : SettingsFault)
  /-- A value in the settings is impossible. -/
  | value (fault : Yaml.Error)
  /-- The manifest is at fault. -/
  | manifest (fault : Json.Fault)
  /-- A file that has to be text is none. -/
  | encoding
  /-- The disk refuses. -/
  | disk (refusal : Disk.Refusal)
  /-- The template is at fault. -/
  | template (fault : Template.Error)
  /-- The home directory in a path is not known. -/
  | noHome
  /-- The directory for the output was given as no text at all. -/
  | noOutput

/-- The text of a fault of JSON that goes too deep. -/
def depthMessage? : Json.Fault → Option String
  | .tooDeep isArray =>
    some ("maximum recursion depth exceeded while decoding a JSON " ++
      (if isArray then "array" else "object") ++ " from a unicode string")
  | _ => none

/-- The text of a failure, where it has one of its own. -/
def Failure.message? : Failure → Option String
  | .noProject path => some ("Project path not found: " ++ path)
  | .notFolder path => some ("Project path is not a directory: " ++ path)
  | .settings fault => some fault.message
  | .manifest fault => depthMessage? fault
  | .noHome => some "Could not determine home directory."
  | .noOutput => some "unsupported operand type(s) for /: \x27PosixPath\x27 and \x27list\x27"
  | _ => none

/-- Turns the refusals of a disk into failures. -/
def orRefused {α : Type} : Except Disk.Refusal α → Except Failure α
  | .ok a => .ok a
  | .error refusal => .error (.disk refusal)

/-- The text of a file, with every line end as a line feed. -/
def readText (d : Disk) (p : Path) : Except Failure (List Char) := do
  match Text.Utf8.decode? (← orRefused (d.read p)) with
  | some text => return Text.unifyNewlines text
  | none => throw .encoding

end PropertyQuote.Project
