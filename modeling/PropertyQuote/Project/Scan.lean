import PropertyQuote.Digest.Sha256
import PropertyQuote.Log
import PropertyQuote.Project.Ignore
import PropertyQuote.Project.Settings

/-!
# Sources of a project

Which files of a project a pass reads: the hand-written C# files in directories that are neither built in
nor left out by a rule.  A walk from the root finds them, directory by directory.
-/

namespace PropertyQuote.Project

/-- Directories that never hold hand-written sources. -/
def builtInExclusions : List String :=
  [".git", ".hg", ".svn", ".vs", ".idea", ".vscode", "bin", "obj", "node_modules", "packages",
    "TestResults"]

/-- A source file, with its path relative to the root of the project. -/
structure SourceFile where
  path : String
  bytes : List UInt8
deriving DecidableEq, Repr

/-- The number of bytes of a file. -/
def SourceFile.size (f : SourceFile) : Nat :=
  f.bytes.length

/-- The digest of a file. -/
def SourceFile.hash (f : SourceFile) : String :=
  Digest.Sha256.digest f.bytes

/-- Names on the way to a file as one text. -/
def slashed (names : List String) : String :=
  "/".intercalate names

/-- Whether a name is that of a hand-written source file. -/
def isSourceName (name : String) : Bool :=
  ".cs".toList.isSuffixOf name.toList && !".g.cs".toList.isSuffixOf name.toList

/-- Names in their order. -/
def sortNames (names : List String) : List String :=
  names.mergeSort fun a b => decide (a ≤ b)

/-- The directories in the one at the end of some names that a walk goes on to: those that are neither built
in nor left out. -/
def entered (rules : List IgnoreRule) (d : Disk) (root : Location) (above : List String) : List String :=
  (sortNames (d.folderNames (root ++ above))).filter fun folder =>
    !builtInExclusions.contains folder && !ignored rules (slashed (above ++ [folder])) true

/-- The sources that lie directly in the directory at the end of some names, with the names on the way. -/
def sourcesIn (rules : List IgnoreRule) (d : Disk) (root : Location) (above : List String) :
    List (List String × List UInt8) :=
  let files := (sortNames (d.fileNames (root ++ above))).filter fun file =>
    isSourceName file && !ignored rules (slashed (above ++ [file])) false
  files.filterMap fun file => (d.file? (root ++ above ++ [file])).map (above ++ [file], ·)

/-- A directory from which another one is entered is not at the bottom of the disk. -/
theorem length_lt_depth_of_mem_entered {rules : List IgnoreRule} {d : Disk} {root : Location}
    {above : List String} {folder : String} (h : folder ∈ entered rules d root above) :
    (root ++ above).length < d.depth := by
  have hsorted := (List.mem_filter.1 h).1
  rw [sortNames, List.mem_mergeSort] at hsorted
  exact Disk.length_lt_depth (List.mem_filter.1 hsorted).1

/-- The sources that a walk meets from a directory on: those in it, and then those that it meets from each
directory on that it goes on to. -/
def walk (rules : List IgnoreRule) (d : Disk) (root : Location) (above : List String) :
    List (List String × List UInt8) :=
  sourcesIn rules d root above ++
    (entered rules d root above).attach.flatMap fun ⟨folder, _⟩ => walk rules d root (above ++ [folder])
termination_by d.depth - (root ++ above).length
decreasing_by
  have hlt := length_lt_depth_of_mem_entered ‹_›
  rw [← List.append_assoc, List.length_append, List.length_singleton]
  omega

/-- The source files below a place, in the order of their paths. -/
def sourcesBelow (rules : List IgnoreRule) (d : Disk) (root : Location) : List SourceFile :=
  ((walk rules d root []).map fun (names, bytes) => ⟨slashed names, bytes⟩).mergeSort
    fun a b => decide (a.path ≤ b.path)

/-- The rules in the ignore file of a directory. -/
def fileRules (d : Disk) (root : Location) : Except Failure (List IgnoreRule) := do
  let file := (Path.ofLocation root).child ".gitignore"
  if ← orRefused (d.has file) then return IgnoreRule.ofLines (← readText d file) else return []

/-- The pattern that leaves out the output of earlier passes, if it is below the root. -/
def outputPattern? (root : Location) (outputDir : Path) : Option String :=
  if outputDir.hasNull then none
  else
    ((Path.ofLocation root).below? (.ofLocation (outputDir.resolve root))).map fun names =>
      (Path.mk .here names).text ++ "/"

/-- The rules that settings state. -/
def settingsRules (root : Location) (settings : Settings) : List IgnoreRule :=
  (settings.excludePaths ++ (outputPattern? root settings.outputDir).toList).filterMap
    (IgnoreRule.ofPattern? · false)

/-- Where a program runs: its working directory and the home directory of who runs it. -/
structure Surroundings where
  current : Location
  home : Location

/-- The place that a written path names. -/
def Surroundings.resolve (s : Surroundings) (d : Disk) (path : String) : Except Failure Location :=
  match (Path.ofText path).expandHome? s.home with
  | some p => orRefused (d.resolve s.current p)
  | none => .error .noHome

/-- What a scan found. -/
structure Scan where
  root : Location
  files : List SourceFile
  log : List Log.Entry

/-- All rules of a project, and what the log says about settings that cannot be used. -/
def allRules (yaml : Yaml.Loader) (d : Disk) (root : Location) :
    Except Failure (List IgnoreRule × List Log.Entry) := do
  let fromFile ← fileRules d root
  match Settings.load yaml d (.ofLocation root) with
  | .ok settings => return (fromFile ++ settingsRules root settings, [])
  | .error (.settings fault) =>
    return (fromFile, [⟨"scanner", .warning, "Ignoring exclude_paths: " ++ fault.message⟩])
  | .error failure => throw failure

/-- Scans the project at a place, which was asked for as `given`. -/
def scanAt (yaml : Yaml.Loader) (d : Disk) (given : String) (root : Location) : Except Failure Scan := do
  let path := Path.ofLocation root
  if !(← orRefused (d.has path)) then throw (.noProject given)
  if !(← orRefused (d.hasFolder path)) then throw (.notFolder given)
  let (rules, log) ← allRules yaml d root
  return ⟨root, sourcesBelow rules d root, log⟩

/-- Scans the project at a written path. -/
def scan (yaml : Yaml.Loader) (d : Disk) (s : Surroundings) (path : String) : Except Failure Scan := do
  scanAt yaml d path (← s.resolve d path)

end PropertyQuote.Project
