import PropertyQuote.Text.Lines

/-!
# Paths

A path as it is written: the names on the way, and where the way starts.  `..` is kept, because what it
leads to depends on the disk; `Path.resolve` takes the step back without asking the disk.
-/

namespace PropertyQuote

/-- A place on a disk: the names on the way to it from the top. -/
abbrev Location := List String

/-- Where a path starts. -/
inductive Path.Start where
  /-- At the current directory. -/
  | here
  /-- At the top of the disk. -/
  | top
  /-- At the top of the disk, written with two slashes. -/
  | doubled
deriving DecidableEq, Repr

/-- A path: names without slashes, neither empty nor a single dot. -/
structure Path where
  start : Path.Start
  names : List String
deriving DecidableEq, Repr

namespace Path

/-- How a start is written. -/
def Start.text : Start → String
  | .here => ""
  | .top => "/"
  | .doubled => "//"

/-- Reads a path.  Repeated slashes count once and single dots not at all, but exactly two slashes at the
start are kept. -/
def ofText (text : String) : Path :=
  let slashes := (text.toList.takeWhile (· == '/')).length
  ⟨if slashes == 0 then .here else if slashes == 2 then .doubled else .top,
    (Text.splitOnChar '/' text).filter fun name => !name.isEmpty && name != "."⟩

/-- The text of a path; the empty path is a single dot. -/
def text (p : Path) : String :=
  if p.start == .here && p.names.isEmpty then "." else p.start.text ++ "/".intercalate p.names

/-- The path `q` as seen from `p`: a path that starts at the top stays what it is. -/
def join (p q : Path) : Path :=
  if q.start == .here then ⟨p.start, p.names ++ q.names⟩ else q

/-- A path continued by a written one. -/
def child (p : Path) (text : String) : Path :=
  p.join (ofText text)

/-- The path to a place. -/
def ofLocation (l : Location) : Path :=
  ⟨.top, l⟩

/-- The directory that holds what a path leads to. -/
def parent (p : Path) : Path :=
  ⟨p.start, p.names.dropLast⟩

/-- The last name of a path. -/
def name (p : Path) : String :=
  p.names.getLast?.getD ""

/-- Whether a name on the way holds a null character, which no disk takes. -/
def hasNull (p : Path) : Bool :=
  p.names.any fun name => name.toList.contains '\x00'

/-- One step from a place: back for two dots, else to what has the given name. -/
def step (here : Location) (name : String) : Location :=
  if name == ".." then here.dropLast else here ++ [name]

/-- The place that a path names if every step on the way is a directory. -/
def resolve (current : Location) (p : Path) : Location :=
  p.names.foldl step (if p.start == .here then current else [])

/-- The names that lead from one path to another one below it. -/
def below? (base p : Path) : Option (List String) :=
  if base.start == p.start && base.names.isPrefixOf p.names then
    some (p.names.drop base.names.length)
  else none

/-- A path as it is shown to someone in the given directory. -/
def shown (current : Location) (p : Path) : String :=
  match (ofLocation current).below? p with
  | some names => (Path.mk .here names).text
  | none => p.text

/-- Replaces a leading tilde by the home directory.  A tilde with a name asks for the home of someone
else, which is not known. -/
def expandHome? (home : Location) (p : Path) : Option Path :=
  match p.start, p.names with
  | .here, first :: rest =>
    if first == "~" then some ⟨.top, home ++ rest⟩
    else if first.toList.head? == some '~' then none
    else some p
  | _, _ => some p

end Path

end PropertyQuote
