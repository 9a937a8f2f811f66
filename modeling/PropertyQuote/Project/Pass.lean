import PropertyQuote.CSharp.Compilation
import PropertyQuote.CSharp.Reader
import PropertyQuote.Generation
import PropertyQuote.Project.Output
import PropertyQuote.Project.Scan
import PropertyQuote.Template.Reader
import PropertyQuote.Yaml.Document

/-!
# A pass over a project

Scans a project, generates its units and brings its output directory up to date.  How settings and sources
are read is left to the readers that a pass is given.
-/

namespace PropertyQuote.Project

/-- The readers of a pass: for its settings and for its sources. -/
structure Readers where
  yaml : Yaml.Loader
  csharp : CSharp.Parser

/-- The readers that the program is run with. -/
def Readers.standard : Readers :=
  ⟨.standard, CSharp.parse⟩

/-- What the command line says about the directory for the output. -/
inductive OutputChoice where
  /-- Nothing, so that the settings decide. -/
  | standard
  /-- A directory, seen from the root of the project. -/
  | folder (path : String)
  /-- Something that is no text. -/
  | noText
deriving DecidableEq, Repr

/-- The settings after a choice of the output directory. -/
def OutputChoice.apply (d : Disk) (root : Location) (settings : Settings) :
    OutputChoice → Except Failure Settings
  | standard => .ok settings
  | folder path =>
    (orRefused (d.resolve root ((Path.ofLocation root).child path))).map fun place =>
      { settings with outputDir := .ofLocation place }
  | noText => .error .noOutput

/-- The text of a source file, without a byte order mark at its start. -/
def SourceFile.text? (f : SourceFile) : Option String :=
  (Text.Utf8.decode? f.bytes).map fun cs =>
    String.ofList (Text.unifyNewlines (match cs with | '\ufeff' :: rest => rest | _ => cs))

/-- The files of a scan as C# files; one that is no text is left out. -/
def csharpFiles (parse : CSharp.Parser) (files : List SourceFile) : List CSharp.File :=
  files.filterMap fun f => f.text?.map (CSharp.File.ofText parse f.path)

/-- What the log says about files that are no text. -/
def unreadableLog (files : List SourceFile) : List Log.Entry :=
  (files.filter (·.text?.isNone)).map fun f =>
    ⟨"host.csharp", .warning, "Skipping unreadable source " ++ f.path⟩

/-- The file with a project's own template of the units. -/
def templateName : String := "unit.cs.j2"

/-- The template of a project: its own if it has one. -/
def templateOf (d : Disk) (settings : Settings) : Except Template.Error (List Template.Piece) :=
  match settings.templatesDir.map fun folder => d.read (folder.child templateName) with
  | some (.ok bytes) => Template.load bytes
  | _ => .ok standardTemplate

/-- What a pass did. -/
structure PassOutcome where
  settings : Settings
  result : GenerationResult
  written : Progress

/-- The end of a pass: the disk as it was left, the actions that were performed on it, what the log says,
and what came of it. -/
structure PassReport where
  disk : Disk
  actions : List Action := []
  log : List Log.Entry
  result : Except Failure PassOutcome

/-- The end of a pass that fails before it touches the disk. -/
def PassReport.failed (d : Disk) (log : List Log.Entry) (failure : Failure) : PassReport :=
  { disk := d, log, result := .error failure }

/-- What the log says at the end of a pass that succeeds. -/
def summaryEntry (result : GenerationResult) (p : Progress) : Log.Entry :=
  ⟨"generator", .info,
    "Generated " ++ toString result.units.length ++ " unit(s): " ++ toString p.written.length ++
      " written, " ++ toString p.unchanged.length ++ " unchanged, " ++ toString p.removed.length ++
      " removed"⟩

/-- The part of a pass after the settings are known. -/
def generateInto (parse : CSharp.Parser) (d : Disk) (settings : Settings) (files : List SourceFile)
    (dryRun : Bool) : PassReport :=
  let program := CSharp.Compilation.ofFiles (csharpFiles parse files)
  let options : PassOptions :=
    { marker := settings.marker, emitBootstrap := settings.emitBootstrap, template := templateOf d settings }
  let log := unreadableLog files ++ program.log ++ generateLog options program.occurrences
  match generate options program.occurrences with
  | .error fault => .failed d log (.template fault)
  | .ok result =>
    match writeUnits d settings.outputDir result.units
        { fingerprint := result.fingerprint, prune := settings.pruneStale, dryRun } with
    | .error halt =>
      ⟨halt.progress.disk, halt.progress.actions, log ++ halt.progress.log, .error halt.failure⟩
    | .ok p => ⟨p.disk, p.actions, log ++ p.log ++ [summaryEntry result p], .ok ⟨settings, result, p⟩⟩

/-- Runs a pass over the project at a place. -/
def passAt (readers : Readers) (d : Disk) (root : Location) (output : OutputChoice) (dryRun : Bool) :
    PassReport :=
  let path := Path.ofLocation root
  let start : Log.Entry := ⟨"generator", .info, "Starting generation pass for " ++ path.text⟩
  match scanAt readers.yaml d path.text root with
  | .error failure => .failed d [start] failure
  | .ok found =>
    let log := start :: found.log ++
      [⟨"generator", .debug, "Scanner found " ++ toString found.files.length ++ " source file(s)"⟩]
    match Settings.load readers.yaml d path >>= output.apply d root with
    | .error failure => .failed d log failure
    | .ok settings =>
      let report := generateInto readers.csharp d settings found.files dryRun
      { report with log := log ++ report.log }

/-- Runs a pass over the project at a written path. -/
def pass (readers : Readers) (d : Disk) (s : Surroundings) (path : String) (output : OutputChoice)
    (dryRun : Bool) : PassReport :=
  match s.resolve d path with
  | .ok root => passAt readers d root output dryRun
  | .error failure => .failed d [] failure

end PropertyQuote.Project
