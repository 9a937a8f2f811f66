import PropertyQuote.Json.Reader
import PropertyQuote.Json.Writer
import PropertyQuote.Text.Lines
import PropertyQuote.Text.Utf8

/-!
# Manifests

A directory with generated units holds a manifest: the digest of every unit that the last pass wrote, and
the fingerprint of that pass.  A later pass takes away the units that are in the manifest but no longer
generated.
-/

namespace PropertyQuote.Project

/-- The digests of units by their names.  No name occurs twice. -/
abbrev DigestMap := List (String × String)

namespace DigestMap

/-- The digest of a unit. -/
def digest? (m : DigestMap) (name : String) : Option String :=
  (m.find? (·.1 == name)).map (·.2)

/-- Records the digest of a unit, in place of one that was recorded before. -/
def record (m : DigestMap) (name digest : String) : DigestMap :=
  m.filter (·.1 != name) ++ [(name, digest)]

/-- Whether two maps record the same, in whatever order. -/
def same (m n : DigestMap) : Bool :=
  m.length == n.length && m.all fun (name, digest) => n.digest? name == some digest

/-- The entries of a map in the order of their names. -/
def sorted (m : DigestMap) : DigestMap :=
  m.mergeSort fun a b => decide (a.1 ≤ b.1)

end DigestMap

/-- The file that holds the manifest. -/
def manifestName : String := "manifest.json"

/-- What a manifest says. -/
structure Manifest where
  fingerprint : String
  units : DigestMap
deriving DecidableEq, Repr

namespace Manifest

/-- Whether a value is the number one, which is the version of the format. -/
def isVersion : Json → Bool
  | .int n => n == 1
  | .float x => x == 1.0
  | .bool b => b
  | _ => false

/-- The text of a manifest. -/
def text (m : Manifest) : String :=
  (Json.obj [
    ("fingerprint", .str m.fingerprint),
    ("units", .obj (m.units.sorted.map fun (name, digest) => (name, .str digest))),
    ("version", .int 1)]).render .indented

/-- The unit names and digests that a value lists; other entries are passed over. -/
def unitsOf : Json → DigestMap
  | .obj fields => fields.filterMap fun (name, value) =>
    match value with
    | .str digest => some (name, digest)
    | _ => none
  | _ => []

/-- The units that a value lists, if it is a manifest of this format. -/
def unitsOfValue (value : Json) : DigestMap :=
  if ((value.field? "version").map isVersion).getD false then
    ((value.field? "units").map unitsOf).getD []
  else []

/-- The units that the bytes of a manifest list.  Anything that is no manifest of this format lists
none, but for a text that goes too deep, which is a fault. -/
def unitsOfBytes (bytes : List UInt8) : Except Json.Fault DigestMap :=
  match (Text.Utf8.decode? bytes).map (Json.read ∘ Text.unifyNewlines) with
  | some (.ok value) => .ok (unitsOfValue value)
  | some (.error (.tooDeep isArray)) => .error (.tooDeep isArray)
  | _ => .ok []

end Manifest

end PropertyQuote.Project
