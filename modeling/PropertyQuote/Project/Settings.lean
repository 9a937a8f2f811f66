import PropertyQuote.Candidate
import PropertyQuote.Project.Failure
import PropertyQuote.Text.Blank
import PropertyQuote.Yaml.Value

/-!
# Settings

What a project says about its passes, in a file of named values at its root.  A value of an unexpected
kind counts as missing, and a missing value has a standard one.
-/

namespace PropertyQuote.Project

/-- The text of a whole number, which must not have too many digits. -/
def numberText (n : Int) : Except Yaml.Error String :=
  if Nat.pow 10 Decimal.mostDigits ≤ n.natAbs then .error (.impossible Yaml.writeLimitMessage)
  else .ok (toString n)

/-- The text that a value stands for: texts and numbers have one. -/
def asText? : Yaml.Value → Except Yaml.Error (Option String)
  | .str s => .ok (some s)
  | .int n => (numberText n).map some
  | .float x => .ok (some (Decimal.Layout.usual.render x))
  | _ => .ok none

/-- The truth value that a value stands for: besides truth values some words in any case, between
blanks. -/
def asFlag? : Yaml.Value → Option Bool
  | .bool b => some b
  | .str s =>
    let word := Text.toSmall (Text.trim s.toList)
    if ["true", "yes", "1"].any (·.toList == word) then some true
    else if ["false", "no", "0"].any (·.toList == word) then some false
    else none
  | _ => none

/-- The text of an item of a list, where truth values have a text as well. -/
def itemText? : Yaml.Value → Except Yaml.Error (Option String)
  | .bool b => .ok (some (if b then "True" else "False"))
  | value => asText? value

/-- The texts that a value stands for: one text alone, the items of a list that have a text, or the
numbers of some bytes. -/
def asTexts : Yaml.Value → Except Yaml.Error (List String)
  | .str s => .ok [s]
  | .seq items => (items.mapM itemText?).map fun texts => texts.filterMap id
  | .bytes bs => .ok (bs.map fun b => toString b.toNat)
  | _ => .ok []

/-- Whether a value is null, false, zero or empty, and so counts as no settings at all. -/
def isVacant : Yaml.Value → Bool
  | .null => true
  | .bool b => !b
  | .int n => n == 0
  | .float x => x == 0.0
  | .str s => s.isEmpty
  | .bytes bs => bs.isEmpty
  | .seq items => items.isEmpty
  | .map entries => entries.isEmpty
  | .set items => items.isEmpty
  | .time => false
  | .pair => false

/-- The directory for the output, unless the settings name another. -/
def standardOutput : String := "obj/Generated/bonsaigen"

/-- The settings of a project. -/
structure Settings where
  /-- The directory of the project. -/
  root : Path
  outputDir : Path
  marker : String := standardMarker
  emitBootstrap : Bool := true
  pruneStale : Bool := true
  excludePaths : List String := []
  templatesDir : Option Path := none
deriving DecidableEq, Repr

namespace Settings

/-- The settings of a project that says nothing. -/
def standard (root : Path) : Settings :=
  { root, outputDir := root.child standardOutput }

/-- A text that says something. -/
def filled? (text : Option String) : Option String :=
  text.filter (!·.isEmpty)

/-- The settings that a mapping states. -/
def ofMapping (root : Path) (mapping : Yaml.Value) : Except Yaml.Error Settings := do
  let value (name : String) := (mapping.get? name).getD .null
  let text? (name : String) := (asText? (value name)).map filled?
  let outputDir ← text? "output_dir"
  let templatesDir ← text? "templates_dir"
  let marker ← text? "marker"
  let excludePaths ← asTexts (value "exclude_paths")
  return {
    root
    outputDir := root.child (outputDir.getD standardOutput)
    marker := marker.getD standardMarker
    emitBootstrap := (asFlag? (value "emit_bootstrap")).getD true
    pruneStale := (asFlag? (value "prune_stale")).getD true
    excludePaths
    templatesDir := templatesDir.map root.child }

/-- How a fault of a text counts: those of the loader itself are faults of the settings. -/
def failureOf (yaml : Yaml.Loader) (fault : Yaml.Error) : Failure :=
  if yaml.reports fault then .settings .malformed else .value fault

/-- The settings that a value states: a vacant value states none, and only a mapping states any. -/
def ofValue (root : Path) (value : Yaml.Value) : Except Failure Settings :=
  match value with
  | .map entries => (ofMapping root (.map entries)).mapError .value
  | other => if isVacant other then .ok (standard root) else .error (.settings .noMapping)

/-- The settings that a text states. -/
def ofText (yaml : Yaml.Loader) (root : Path) (text : List Char) : Except Failure Settings :=
  if text.all Text.isBlank then .ok (standard root)
  else ((yaml.load text).mapError (failureOf yaml)).bind (ofValue root)

/-- The place of the file with the settings that hold at a path: in the directory, or beside the file, that
the path leads to. -/
def place (d : Disk) (p : Path) : Except Disk.Refusal Location := do
  if ← d.hasFolder p then d.resolve [] (p.child settingsName)
  else if p.name != settingsName then d.resolve [] (p.parent.child settingsName)
  else d.resolve [] p

/-- The settings that hold at a path. -/
def load (yaml : Yaml.Loader) (d : Disk) (p : Path) : Except Failure Settings := do
  let file := Path.ofLocation (← orRefused (place d p))
  if ← orRefused (d.has file) then ofText yaml file.parent (← readText d file)
  else return standard file.parent

end Settings

end PropertyQuote.Project
