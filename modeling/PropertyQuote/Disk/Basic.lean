import PropertyQuote.Disk.Path

/-!
# A disk

Files and directories by their places.  Reading and writing follow a path name by name, so that a path
through a file or through nothing fails, and `..` leads from a directory to the one that holds it.  A disk
refuses null characters, names of more than 255 bytes, and paths of 4096 bytes or more.

Files and directories are all there is: links and special files are left out, and so are access rights and
the times of changes.  So a place is reached by one path of names alone, and what was written is read back.
-/

namespace PropertyQuote

/-- What is at a place. -/
inductive Content where
  | file (bytes : List UInt8)
  | folder
deriving DecidableEq, Repr

/-- Why a disk refuses. -/
inductive Disk.Cause where
  /-- There is nothing. -/
  | notFound
  /-- There is something already. -/
  | occupied
  /-- There is a directory where a file is wanted. -/
  | isFolder
  /-- There is a file where a directory is wanted. -/
  | notFolder
  /-- A name or the whole path is too long. -/
  | tooLong
  /-- A name holds a null character. -/
  | nullName
deriving DecidableEq, Repr

/-- The contents of a disk by place.  The top is always a directory. -/
structure Disk where
  entries : List (Location × Content)
deriving DecidableEq, Repr

/-- A refusal: its cause, the path that was asked for, and the disk as it was left. -/
structure Disk.Refusal where
  cause : Disk.Cause
  path : Path
  disk : Disk

namespace Disk

/-- A disk with nothing on it. -/
def empty : Disk := ⟨[]⟩

/-- What is at a place. -/
def content? (d : Disk) (l : Location) : Option Content :=
  if l.isEmpty then some .folder else (d.entries.find? (·.1 == l)).map (·.2)

/-- The bytes of the file at a place. -/
def file? (d : Disk) (l : Location) : Option (List UInt8) :=
  match d.content? l with
  | some (.file bytes) => some bytes
  | _ => none

/-- Puts something at a place. -/
def put (d : Disk) (l : Location) (c : Content) : Disk :=
  ⟨(l, c) :: d.entries.filter (·.1 != l)⟩

/-- Takes away what is at a place and everything below it. -/
def erase (d : Disk) (l : Location) : Disk :=
  ⟨d.entries.filter (!l.isPrefixOf ·.1)⟩

/-- The most bytes that a name may have. -/
def longestName : Nat := 255

/-- The most bytes that a path may have. -/
def longestPath : Nat := 4095

/-- Where a path leads when it starts at a place.  All that it passes through must be a directory. -/
def locateFrom (d : Disk) (here : Location) : List String → Except Cause Location
  | [] => .ok here
  | name :: rest =>
    match d.content? here with
    | some .folder =>
      if longestName < name.utf8ByteSize then .error .tooLong
      else d.locateFrom (Path.step here name) rest
    | some (.file _) => .error .notFolder
    | none => .error .notFound

/-- Where a path leads. -/
def locate (d : Disk) (p : Path) : Except Cause Location :=
  if p.hasNull then .error .nullName
  else if longestPath < p.text.utf8ByteSize then .error .tooLong
  else d.locateFrom [] p.names

/-- What a path leads to. -/
def look (d : Disk) (p : Path) : Except Cause Content :=
  match d.locate p with
  | .ok l => (d.content? l).elim (.error .notFound) .ok
  | .error cause => .error cause

/-- Whether a path leads to something that passes a test.  The disk refuses the question if the path is too
long for it. -/
def leadsTo (d : Disk) (p : Path) (test : Content → Bool) : Except Refusal Bool :=
  match d.look p with
  | .ok content => .ok (test content)
  | .error .tooLong => .error ⟨.tooLong, p, d⟩
  | .error _ => .ok false

/-- Whether a path leads to anything. -/
def has (d : Disk) (p : Path) : Except Refusal Bool :=
  d.leadsTo p fun _ => true

/-- Whether a path leads to a directory. -/
def hasFolder (d : Disk) (p : Path) : Except Refusal Bool :=
  d.leadsTo p (· == .folder)

/-- The place that a path names, which need not be there. -/
def resolve (d : Disk) (current : Location) (p : Path) : Except Refusal Location :=
  if p.hasNull then .error ⟨.nullName, p, d⟩ else .ok (p.resolve current)

/-- The bytes of a file. -/
def read (d : Disk) (p : Path) : Except Refusal (List UInt8) :=
  match d.look p with
  | .ok (.file bytes) => .ok bytes
  | .ok .folder => .error ⟨.isFolder, p, d⟩
  | .error cause => .error ⟨cause, p, d⟩

/-- Writes a file in a directory that is there. -/
def write (d : Disk) (p : Path) (bytes : List UInt8) : Except Refusal Disk :=
  match d.locate p with
  | .ok l =>
    if d.content? l == some .folder then .error ⟨.isFolder, p, d⟩ else .ok (d.put l (.file bytes))
  | .error cause => .error ⟨cause, p, d⟩

/-- Takes a file away. -/
def remove (d : Disk) (p : Path) : Except Refusal Disk :=
  match d.locate p, d.look p with
  | .ok l, .ok (.file _) => .ok (d.erase l)
  | .ok _, .ok .folder => .error ⟨.isFolder, p, d⟩
  | _, .error cause => .error ⟨cause, p, d⟩
  | .error cause, _ => .error ⟨cause, p, d⟩

/-- Takes a file or a directory with all that it holds away. -/
def removeAll (d : Disk) (p : Path) : Except Refusal Disk :=
  match d.locate p, d.look p with
  | .ok l, .ok _ => .ok (d.erase l)
  | _, .error cause => .error ⟨cause, p, d⟩
  | .error cause, _ => .error ⟨cause, p, d⟩

/-- Makes a directory in one that is there. -/
def makeFolder (d : Disk) (p : Path) : Except Cause Disk :=
  match d.locate p with
  | .ok l => if (d.content? l).isSome then .error .occupied else .ok (d.put l .folder)
  | .error cause => .error cause

/-- Makes a directory in one that is there, unless there is one already. -/
def ensureFolder (d : Disk) (p : Path) : Except Cause Disk :=
  match d.makeFolder p with
  | .ok made => .ok made
  | .error .notFound => .error .notFound
  | .error cause => if (d.look p).toOption == some .folder then .ok d else .error cause

/-- Makes a directory and those on the way to it.  The names are given from the last to the first. -/
def ensureFoldersFrom (d : Disk) (start : Path.Start) : List String → Except Refusal Disk
  | [] => .ok d
  | name :: above =>
    let p : Path := ⟨start, (name :: above).reverse⟩
    match d.ensureFolder p with
    | .ok made => .ok made
    | .error .notFound =>
      match d.ensureFoldersFrom start above with
      | .ok made =>
        match made.ensureFolder p with
        | .ok made => .ok made
        | .error cause => .error ⟨cause, p, made⟩
      | .error refusal => .error refusal
    | .error cause => .error ⟨cause, p, d⟩

/-- Makes a directory and those on the way to it, as far as they are missing. -/
def ensureFolders (d : Disk) (p : Path) : Except Refusal Disk :=
  d.ensureFoldersFrom p.start p.names.reverse

/-- Writes a file, and makes the directories on the way to it. -/
def save (d : Disk) (p : Path) (bytes : List UInt8) : Except Refusal Disk := do
  (← d.ensureFolders p.parent).write p bytes

/-! ## Directories -/

/-- The name of a place in a directory, if it lies directly in it. -/
def childName? (l place : Location) : Option String :=
  if place.dropLast = l then place.getLast? else none

/-- The names of what lies directly in a directory, each once. -/
def names (d : Disk) (l : Location) : List String :=
  (d.entries.filterMap fun e => childName? l e.1).eraseDups

/-- The names of the directories that lie directly in a directory. -/
def folderNames (d : Disk) (l : Location) : List String :=
  (d.names l).filter fun name => d.content? (l ++ [name]) == some .folder

/-- The names of the files that lie directly in a directory. -/
def fileNames (d : Disk) (l : Location) : List String :=
  (d.names l).filter fun name => (d.file? (l ++ [name])).isSome

/-- The most names that lead to anything. -/
def depth (d : Disk) : Nat :=
  (d.entries.map (·.1.length)).max?.getD 0

/-- A place has a name below another one exactly if it is right below it. -/
theorem childName?_eq_some_iff {l place : Location} {name : String} :
    childName? l place = some name ↔ place = l ++ [name] := by
  rw [childName?, Option.ite_none_right_eq_some]
  constructor
  · rintro ⟨rfl, hname⟩
    have hne : place ≠ [] := by
      rintro rfl
      cases hname
    rw [List.getLast?_eq_some_getLast hne, Option.some.injEq] at hname
    rw [← hname, List.dropLast_concat_getLast hne]
  · rintro rfl
    exact ⟨List.dropLast_concat, List.getLast?_concat⟩

/-- A directory with a name in it is not among the deepest places. -/
theorem length_lt_depth {d : Disk} {l : Location} {name : String} (h : name ∈ d.names l) :
    l.length < d.depth := by
  obtain ⟨e, he, hname⟩ := List.mem_filterMap.1 (List.mem_eraseDups.1 h)
  have hlength : e.1.length = l.length + 1 := by
    rw [childName?_eq_some_iff.1 hname, List.length_append, List.length_singleton]
  have hle : e.1.length ≤ d.depth := List.le_max?_getD_of_mem (List.mem_map.2 ⟨e, he, rfl⟩)
  omega

end Disk

end PropertyQuote
