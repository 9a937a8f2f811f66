import PropertyQuote.CommandLine.Run

/-!
# The program

Reads the part of the disk that a call is about, runs the call, and performs its actions.
-/

namespace PropertyQuote.Main

open Project CommandLine

/-- Adds what is at a place to `d`, with all that is below it but for the directories to be skipped. -/
partial def load (skipped : List String) (d : Disk) (place : Location) : IO Disk := do
  let found ← (IO.FS.realPath (Path.ofLocation place).text).toBaseIO
  match found with
  | .error _ => return d
  | .ok path =>
    if ← path.isDir then
      let entries := (← path.readDir).toList.filter fun entry => !skipped.contains entry.fileName
      entries.foldlM (fun d entry => load skipped d (place ++ [entry.fileName])) (d.put place .folder)
    else if ← path.pathExists then
      return d.put place (.file (← IO.FS.readBinFile path).toList)
    else return d

/-- Adds the directories on the way to a place. -/
def withParents (d : Disk) (place : Location) : Disk :=
  (List.range place.length).foldl
    (fun d n => if n == 0 then d else d.put (place.take n) .folder) d

/-- The part of the disk that a call is about: the project, its output and its templates. -/
def diskFor (c : Call) (s : Surroundings) : IO Disk := do
  match s.resolve .empty c.path with
  | .error _ => return .empty
  | .ok root =>
    let d ← load builtInExclusions (withParents .empty root) root
    match Settings.load .standard d (.ofLocation root) >>= c.output.apply d root with
    | .error _ => return d
    | .ok settings =>
      let others := settings.outputDir :: settings.templatesDir.toList
      others.foldlM (fun d p =>
        let place := p.resolve root
        load [] (withParents d place) place) d

/-- Performs an action. -/
def perform : Action → IO Unit
  | .save target text => do
    IO.FS.createDirAll target.parent.text
    IO.FS.writeFile target.text text
  | .delete target => IO.FS.removeFile target.text
  | .record folder manifest => do
    IO.FS.createDirAll folder.text
    IO.FS.writeFile (folder.child manifestName).text manifest.text

/-- Shows a screen, and gives the status with which the program ends. -/
def Screen.show (screen : Screen) : IO UInt32 := do
  screen.err.forM IO.eprintln
  screen.out.forM IO.println
  return (screen.status.getD 0).toUInt32

/-- Runs a call on the real disk. -/
def runCall (c : Call) : IO UInt32 := do
  let current := Path.ofText (← IO.currentDir).toString
  let home := Path.ofText ((← IO.getEnv "HOME").getD "/")
  let s : Surroundings := ⟨current.names, home.names⟩
  let report := c.report .standard (← diskFor c s) s
  report.actions.forM perform
  match c.screen s.current report with
  | .ok screen => Screen.show screen
  | .error failure =>
    IO.eprintln (failure.message?.getD "The pass could not be completed")
    return 1

end PropertyQuote.Main

/-- The program. -/
def main (args : List String) : IO UInt32 :=
  match PropertyQuote.CommandLine.Call.read args with
  | .ok call => PropertyQuote.Main.runCall call
  | .error stop => PropertyQuote.Main.Screen.show stop.screen
