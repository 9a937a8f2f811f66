import PropertyQuote.Emission
import PropertyQuote.Fingerprint
import PropertyQuote.Project.Failure
import PropertyQuote.Project.Manifest

/-!
# Writing units

Brings a directory up to date with the units of a pass: writes those that changed, takes away those that
are no longer generated, and records what it did in the manifest.  All changes to the disk are actions, which
are performed one after the other, so that a pass that is stopped leaves what the actions before did.
-/

namespace PropertyQuote.Project

/-- A change to the disk. -/
inductive Action where
  /-- Write the text of a unit. -/
  | save (target : Path) (text : String)
  /-- Take a unit away. -/
  | delete (target : Path)
  /-- Write the manifest of a directory. -/
  | record (folder : Path) (manifest : Manifest)
deriving DecidableEq, Repr

namespace Action

/-- The disk after an action. -/
def perform (d : Disk) : Action → Except Disk.Refusal Disk
  | save target text => d.save target (Text.Utf8.encodeText text)
  | delete target => d.remove target
  | record folder manifest => do
    (← d.ensureFolders folder).write (folder.child manifestName)
      (Text.Utf8.encodeText manifest.text)

/-- What the log says about an action. -/
def logged? : Action → Option Log.Entry
  | save target _ => some ⟨"writer", .debug, "Wrote " ++ target.text⟩
  | delete target => some ⟨"writer", .debug, "Removed stale unit " ++ target.text⟩
  | record .. => none

end Action

/-- How units are written. -/
structure WriteOptions where
  fingerprint : String := ""
  /-- Whether units that are no longer generated are taken away. -/
  prune : Bool := true
  /-- Whether the disk stays as it is. -/
  dryRun : Bool := false

/-- How far the writing of units has come. -/
structure Progress where
  disk : Disk
  written : List Path := []
  unchanged : List Path := []
  removed : List Path := []
  /-- The actions that were performed. -/
  actions : List Action := []

/-- The end of a writing that did not succeed. -/
structure Halt where
  failure : Failure
  progress : Progress

namespace Progress

/-- Whether there was anything to write or to take away. -/
def changed (p : Progress) : Bool :=
  !p.written.isEmpty || !p.removed.isEmpty

/-- What the log says about the actions so far. -/
def log (p : Progress) : List Log.Entry :=
  p.actions.filterMap Action.logged?

/-- Performs an action, unless the disk has to stay as it is. -/
def act (dryRun : Bool) (p : Progress) (action : Action) : Except Halt Progress :=
  if dryRun then .ok p
  else
    match action.perform p.disk with
    | .ok disk => .ok { p with disk, actions := p.actions ++ [action] }
    | .error refusal => .error ⟨.disk refusal, { p with disk := refusal.disk }⟩

/-- Whether a path leads to a file with the given text, up to the way in which lines end. -/
def holds (d : Disk) (target : Path) (text : String) : Except Failure Bool := do
  if ← orRefused (d.has target) then return (← readText d target) == text.toList else return false

/-- Writes one unit, unless its file holds it already. -/
def writeUnit (folder : Path) (dryRun : Bool) (p : Progress) (unit : SourceUnit) :
    Except Halt Progress :=
  let target := folder.child unit.hintName
  match holds p.disk target unit.text with
  | .error failure => .error ⟨failure, p⟩
  | .ok true => .ok { p with unchanged := p.unchanged ++ [target] }
  | .ok false =>
    { p with written := p.written ++ [target] }.act dryRun (.save target unit.text)

/-- Takes away the unit of the given name, if it is there. -/
def removeUnit (folder : Path) (dryRun : Bool) (p : Progress) (name : String) :
    Except Halt Progress :=
  let target := folder.child name
  match p.disk.has target with
  | .error refusal => .error ⟨.disk refusal, p⟩
  | .ok true => { p with removed := p.removed ++ [target] }.act dryRun (.delete target)
  | .ok false => .ok p

end Progress

/-- The units that the manifest of a directory lists; a directory without a readable one lists none. -/
def previousUnits (d : Disk) (folder : Path) : Except Failure DigestMap :=
  match d.read (folder.child manifestName) with
  | .ok bytes => (Manifest.unitsOfBytes bytes).mapError .manifest
  | .error _ => .ok []

/-- The digests of some units; of units with the same name the last one counts. -/
def unitDigests (units : List SourceUnit) : DigestMap :=
  units.foldl (fun m u => m.record u.hintName (textDigest u.text)) []

/-- The names of the units in one map that are not in another, in order. -/
def staleNames (previous current : DigestMap) : List String :=
  ((previous.map (·.1)).filter fun name => (current.digest? name).isNone).mergeSort
    fun a b => decide (a ≤ b)

/-- Writes units into a directory. -/
def writeUnits (d : Disk) (folder : Path) (units : List SourceUnit) (options : WriteOptions) :
    Except Halt Progress := do
  let previous ← (previousUnits d folder).mapError fun failure => ⟨failure, { disk := d }⟩
  let current := unitDigests units
  let p ← units.foldlM (Progress.writeUnit folder options.dryRun) { disk := d }
  let stale := if options.prune then staleNames previous current else []
  let p ← stale.foldlM (Progress.removeUnit folder options.dryRun) p
  if p.changed || !previous.same current then
    p.act options.dryRun (.record folder ⟨options.fingerprint, current⟩)
  else return p

end PropertyQuote.Project
