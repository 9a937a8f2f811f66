import PropertyQuote.Yaml.Tag
import PropertyQuote.Yaml.Token

/-!
# Nodes of a YAML document

The tokens of a text as a graph of tagged nodes.  A node is known by its number, and an alias is the number of
the node that it names, which may be the very collection that the alias stands in.
-/

namespace PropertyQuote.Yaml

/-- What is in a node: a text, or the numbers of other nodes. -/
inductive Content where
  | scalar (text : String)
  | sequence (items : List Nat)
  | mapping (entries : List (Nat × Nat))

/-- A node with its tag. -/
structure Node where
  tag : String
  content : Content

/-- A node for a value that is not written. -/
def emptyNode : Node :=
  ⟨Tag.null, .scalar ""⟩

/-- The nodes of a document by their numbers. -/
abbrev Graph := Array Node

namespace Graph

/-- The node with the given number. -/
def node (g : Graph) (i : Nat) : Node :=
  g.getD i emptyNode

/-- The tag of a node. -/
def tag (g : Graph) (i : Nat) : String :=
  (g.node i).tag

/-- The graph where a node has another content. -/
def withContent (g : Graph) (i : Nat) (content : Content) : Graph :=
  g.setIfInBounds i ⟨g.tag i, content⟩

/-- The graph where a node has another tag. -/
def withTag (g : Graph) (i : Nat) (tag : String) : Graph :=
  g.setIfInBounds i ⟨tag, (g.node i).content⟩

end Graph

/-- The state of composition: the tokens ahead, the nodes so far, and the numbers of those that have
names. -/
structure Composer where
  ahead : List Token
  graph : Graph := #[]
  anchors : List (String × Nat) := []

/-- A step of composition, which may fail on a text that is at fault. -/
abbrev Compose := StateT Composer (Except Error)

namespace Compose

/-- The text is malformed. -/
def malformed {α : Type} : Compose α :=
  throw .malformed

/-- The next token, unless the text is at fault there. -/
def peek : Compose Token := do
  match (← get).ahead.headD .streamEnd with
  | .fault e => throw e
  | t => return t

/-- Moves past the next token. -/
def drop : Compose Unit :=
  modify fun c => { c with ahead := c.ahead.drop 1 }

/-- Takes the next token if it is the given one. -/
def accept (t : Token) : Compose Bool := do
  if (← peek) == t then
    drop
    return true
  else return false

/-- Takes the next token, which must be the given one. -/
def expect (t : Token) : Compose Unit := do
  if !(← accept t) then malformed

/-- Whether the next token is one of the given ones. -/
def isAt (ts : List Token) : Compose Bool := do
  return ts.contains (← peek)

/-- Adds a node, which gets a name if there is one, and gives its number. -/
def add (anchor : Option String) (n : Node) : Compose Nat := do
  let i := (← get).graph.size
  modify fun c =>
    { c with
      graph := c.graph.push n
      anchors := (anchor.map fun a => (a, i)).toList ++ c.anchors }
  return i

/-- Adds a collection, which has its name already while its content is read. -/
def collection (anchor : Option String) (tag : String) (hollow : Content) (read : Compose Content) :
    Compose Nat := do
  let i ← add anchor ⟨tag, hollow⟩
  let content ← read
  modify fun c => { c with graph := c.graph.withContent i content }
  return i

/-- The anchor and the tag in front of a node, in either order. -/
def properties : Compose (Option String × Option (Option String × String)) := do
  match ← peek with
  | .anchor a =>
    drop
    match ← peek with
    | .tag handle suffix =>
      drop
      return (some a, some (handle, suffix))
    | _ => return (some a, none)
  | .tag handle suffix =>
    drop
    match ← peek with
    | .anchor a =>
      drop
      return (some a, some (handle, suffix))
    | _ => return (none, some (handle, suffix))
  | _ => return (none, none)

/-- The full form of a tag. -/
def fullTag (handles : List (String × String)) (tag : Option (Option String × String)) :
    Compose (Option String) :=
  match tag with
  | none => pure none
  | some (none, suffix) => pure (some suffix)
  | some (some handle, suffix) =>
    match handles.find? (·.1 == handle) with
    | some (_, start) => pure (some (start ++ suffix))
    | none => malformed

end Compose

open Compose

/-- The tag of a collection; an absent or unspecific one is replaced by the default. -/
def collectionTag (tag : Option String) (default : String) : String :=
  match tag with
  | none => default
  | some t => if t == "!" then default else t

mutual

/-- A node.  In a block it may be a block collection, and after a key or a value also a sequence that is
not indented. -/
def node (handles : List (String × String)) : Nat → Bool → Bool → Compose Nat
  | fuel + 1, block, indentless => do
    match ← peek with
    | .alias name =>
      drop
      match (← get).anchors.find? (·.1 == name) with
      | some (_, i) => return i
      | none => malformed
    | _ =>
      let (anchor, written) ← properties
      let tag ← fullTag handles written
      let t ← peek
      let known := (← get).anchors
      if anchor.any fun a => known.any (·.1 == a) then malformed
      let sequence (read : Compose (List Nat)) : Compose Nat :=
        collection anchor (collectionTag tag Tag.seq) (.sequence []) (return .sequence (← read))
      let mapping (read : Compose (List (Nat × Nat))) : Compose Nat :=
        collection anchor (collectionTag tag Tag.map) (.mapping []) (return .mapping (← read))
      if indentless && t == .blockEntry then
        return ← sequence (indentlessItems handles fuel)
      match t with
      | .scalar text plain =>
        drop
        add anchor ⟨scalarTag tag plain text, .scalar text⟩
      | .flowSequenceStart =>
        drop
        sequence (flowItems handles fuel true)
      | .flowMappingStart =>
        drop
        mapping (flowEntries handles fuel true)
      | .blockSequenceStart =>
        if !block then malformed
        drop
        sequence (blockItems handles fuel)
      | .blockMappingStart =>
        if !block then malformed
        drop
        mapping (blockEntries handles fuel)
      | _ =>
        if anchor.isNone && tag.isNone then malformed
        add anchor ⟨scalarTag tag true "", .scalar ""⟩
  | 0, _, _ => malformed

/-- A node, unless one of the given tokens says that it is not written. -/
def nodeUnless (handles : List (String × String)) :
    Nat → Bool → Bool → List Token → Compose Nat
  | fuel + 1, block, indentless, stops => do
    if ← isAt stops then add none emptyNode else node handles fuel block indentless
  | 0, _, _, _ => malformed

/-- The value of a key, if there is one. -/
def valueUnless (handles : List (String × String)) :
    Nat → Bool → Bool → List Token → Compose Nat
  | fuel + 1, block, indentless, stops => do
    if ← accept .value then nodeUnless handles fuel block indentless stops else add none emptyNode
  | 0, _, _, _ => malformed

/-- The items of a block sequence. -/
def blockItems (handles : List (String × String)) : Nat → Compose (List Nat)
  | fuel + 1 => do
    if ← accept .blockEntry then
      let i ← nodeUnless handles fuel true false [.blockEntry, .blockEnd]
      return i :: (← blockItems handles fuel)
    else
      expect .blockEnd
      return []
  | 0 => malformed

/-- The items of a sequence that is not indented. -/
def indentlessItems (handles : List (String × String)) : Nat → Compose (List Nat)
  | fuel + 1 => do
    if ← accept .blockEntry then
      let i ← nodeUnless handles fuel true false [.blockEntry, .key, .value, .blockEnd]
      return i :: (← indentlessItems handles fuel)
    else return []
  | 0 => malformed

/-- The entries of a block mapping. -/
def blockEntries (handles : List (String × String)) : Nat → Compose (List (Nat × Nat))
  | fuel + 1 => do
    if ← accept .key then
      let k ← nodeUnless handles fuel true true [.key, .value, .blockEnd]
      let v ← valueUnless handles fuel true true [.key, .value, .blockEnd]
      return (k, v) :: (← blockEntries handles fuel)
    else
      expect .blockEnd
      return []
  | 0 => malformed

/-- The items of a flow sequence; a key makes an item a mapping of one entry. -/
def flowItems (handles : List (String × String)) : Nat → Bool → Compose (List Nat)
  | fuel + 1, first => do
    if ← accept .flowSequenceEnd then return []
    if !first then expect .flowEntry
    if ← accept .key then
      let i ← collection none Tag.map (.mapping []) do
        let k ← nodeUnless handles fuel false false [.value, .flowEntry, .flowSequenceEnd]
        let v ← valueUnless handles fuel false false [.flowEntry, .flowSequenceEnd]
        return .mapping [(k, v)]
      return i :: (← flowItems handles fuel false)
    else if ← accept .flowSequenceEnd then return []
    else
      let i ← node handles fuel false false
      return i :: (← flowItems handles fuel false)
  | 0, _ => malformed

/-- The entries of a flow mapping. -/
def flowEntries (handles : List (String × String)) : Nat → Bool → Compose (List (Nat × Nat))
  | fuel + 1, first => do
    if ← accept .flowMappingEnd then return []
    if !first then expect .flowEntry
    if ← accept .key then
      let k ← nodeUnless handles fuel false false [.value, .flowEntry, .flowMappingEnd]
      let v ← valueUnless handles fuel false false [.flowEntry, .flowMappingEnd]
      return (k, v) :: (← flowEntries handles fuel false)
    else if ← accept .flowMappingEnd then return []
    else
      let k ← node handles fuel false false
      let v ← add none emptyNode
      return (k, v) :: (← flowEntries handles fuel false)
  | 0, _ => malformed

end

/-- The tag handles that every document knows. -/
def standardHandles : List (String × String) :=
  [("!", "!"), ("!!", "tag:yaml.org,2002:")]

/-- The directives in front of a document: at most one version, which must be 1, and handles of different
names. -/
def directives : Nat → Bool → List (String × String) → Compose (List (String × String))
  | fuel + 1, versioned, handles => do
    match ← peek with
    | .directive (.version major _) =>
      drop
      if versioned || major != 1 then malformed
      directives fuel true handles
    | .directive (.handle handle start) =>
      drop
      if handles.any (·.1 == handle) then malformed
      directives fuel versioned ((handle, start) :: handles)
    | .directive .other =>
      drop
      directives fuel versioned handles
    | _ => return handles ++ standardHandles
  | 0, _, _ => malformed

/-- Skips the marks at which documents end. -/
def documentEnds : Nat → Compose Unit
  | fuel + 1 => do if ← accept .documentEnd then documentEnds fuel
  | 0 => pure ()

/-- The end of the text.  Another document is refused once its head has been read. -/
def finish (fuel : Nat) : Compose Unit := do
  documentEnds fuel
  if !(← isAt [.streamEnd]) then
    let _ ← directives fuel false []
    malformed

/-- A document that starts with its head. -/
def explicitDocument (fuel : Nat) : Compose Nat := do
  let handles ← directives fuel false []
  expect .documentStart
  let isEmpty := match ← peek with
    | .directive _ => true
    | t => [Token.documentStart, .documentEnd, .streamEnd].contains t
  if isEmpty then add none emptyNode else node handles fuel true false

/-- The only document of a text; nothing if the text has none. -/
def document (fuel : Nat) : Compose (Option Nat) := do
  match ← peek with
  | .streamEnd => return none
  | t =>
    let i ← match t with
      | .directive _ => explicitDocument fuel
      | .documentStart => explicitDocument fuel
      | _ => node standardHandles fuel true false
    finish fuel
    return some i

/-- The nodes of a text and the number of the first one, which is absent if the text is empty. -/
def compose (text : List Char) : Except Error (Option Nat × Graph) :=
  let ts := tokens text
  ((document (6 * ts.length + 6)).run { ahead := ts }).map fun (i, c) => (i, c.graph)

end PropertyQuote.Yaml
