import PropertyQuote.Yaml.Node
import PropertyQuote.Yaml.Value

/-!
# Values of YAML documents

The value of a document.  Scalars have their values where they are met, and collections are filled in the order
in which they were met: so of several faults the first one that is met counts.
-/

namespace PropertyQuote.Yaml

/-- What is known about a node that was met: the value of a scalar, or that it is a collection. -/
inductive Met where
  | scalar (v : Value)
  | collection

/-- The state of building: the nodes, what is known about them, and the collections to be filled, the latest
first. -/
structure Builder where
  graph : Graph
  met : Array (Option Met)
  pending : List Nat := []

/-- A step of building, which may fail on a value that is at fault. -/
abbrev Build := StateT Builder (Except Error)

/-- The tags of collections. -/
def collectionTags : List String :=
  [Tag.seq, Tag.map, Tag.set, Tag.omap, Tag.pairs]

/-- The text of a node.  A mapping has the text of its default value. -/
def Graph.text (g : Graph) : Nat → Nat → Except Error String
  | fuel + 1, i =>
    match (g.node i).content with
    | .scalar text => .ok text
    | .sequence _ => .error .malformed
    | .mapping entries =>
      match entries.find? fun e => g.tag e.1 == Tag.value with
      | some (_, v) => g.text fuel v
      | none => .error .malformed
  | 0, _ => .error .malformed

/-- The value of a node that is tagged as a scalar. -/
def Graph.scalar (g : Graph) (i : Nat) : Except Error Value := do
  let n := g.node i
  let text ← g.text (g.size + 1) i
  let value ← orMalformed (scalarValue? n.tag text)
  match n.content with
  | .scalar _ => value
  | _ => if n.tag == Tag.timestamp then throw .noText else value

namespace Build

/-- Meets a node. -/
def meet (i : Nat) : Build Unit := do
  let b ← get
  if (b.met.getD i none).isNone then
    if collectionTags.contains (b.graph.tag i) then
      set { b with met := b.met.setIfInBounds i (some .collection), pending := i :: b.pending }
    else
      let v ← b.graph.scalar i
      set { b with met := b.met.setIfInBounds i (some (.scalar v)) }

/-- Meets the key of an entry, which is no collection, and its value. -/
def meetEntry (entry : Nat × Nat) : Build Unit := do
  meet entry.1
  if let some .collection := (← get).met.getD entry.1 none then throw .malformed
  meet entry.2

/-- The entries of a node that is merged into a mapping. -/
def entriesOf (i : Nat) : Build (List (Nat × Nat)) := do
  match ((← get).graph.node i).content with
  | .mapping entries => return entries
  | _ => throw .malformed

/-- Replaces the merging keys of a mapping by the entries that they merge, which come before the others; the
first of several merged mappings comes last, so that its entries count.  The key of a default value becomes a
text. -/
def merge : Nat → Nat → Build Unit
  | fuel + 1, i => do
    let entries ← entriesOf i
    let g := (← get).graph
    let (merging, own) := entries.partition fun e => g.tag e.1 == Tag.merge
    let defaults := (own.map (·.1)).filter fun k => g.tag k == Tag.value
    modify fun b =>
      { b with graph := defaults.foldl (·.withTag · Tag.str) (b.graph.withContent i (.mapping own)) }
    let merged ← merging.mapM fun (_, v) => do
      let sources := match ((← get).graph.node v).content with
        | .sequence items => items
        | _ => [v]
      let found ← sources.mapM fun source => do
        merge fuel source
        entriesOf source
      return found.reverse.flatten
    let rest ← entriesOf i
    modify fun b => { b with graph := b.graph.withContent i (.mapping (merged.flatten ++ rest)) }
  | 0, _ => return

/-- Meets an item of a sequence of pairs, which is a mapping of one entry. -/
def meetPair (i : Nat) : Build Unit := do
  match ← entriesOf i with
  | [(k, v)] =>
    meet k
    meet v
  | _ => throw .malformed

/-- Fills a collection. -/
def fill (i : Nat) : Build Unit := do
  let g := (← get).graph
  let n := g.node i
  if n.tag == Tag.map || n.tag == Tag.set then
    merge (g.size + 1) i
    (← entriesOf i).forM meetEntry
  else
    match n.content with
    | .sequence items => if n.tag == Tag.seq then items.forM meet else items.forM meetPair
    | _ => throw .malformed

/-- Fills all collections that wait for it, and those that they hold. -/
def fillAll : Nat → Build Unit
  | fuel + 1 => do
    let pending := (← get).pending
    if !pending.isEmpty then
      modify fun b => { b with pending := [] }
      pending.reverse.forM fill
      fillAll fuel
  | 0 => return

end Build

/-- The value of a node.  Collections in more than `depth` others are shown without content. -/
def Builder.value (b : Builder) (depth : Nat) (i : Nat) : Value :=
  match b.met.getD i none with
  | some (.scalar v) => v
  | _ =>
    match depth, b.graph.node i with
    | 0, _ => .seq []
    | d + 1, ⟨tag, .sequence items⟩ =>
      if tag == Tag.seq then .seq (items.map (b.value d)) else .seq (items.map fun _ => .pair)
    | d + 1, ⟨tag, .mapping entries⟩ =>
      if tag == Tag.set then .set (entries.map fun e => b.value d e.1)
      else .map (entries.map fun e => (b.value d e.1, b.value d e.2))
    | _ + 1, ⟨_, .scalar _⟩ => .null

/-- The value of a text, down to collections in collections; an empty text has none. -/
def load (text : List Char) : Except Error Value := do
  match ← compose text with
  | (none, _) => return .null
  | (some i, graph) =>
    let start : Builder := { graph, met := Array.replicate graph.size none }
    let (_, b) ← (do Build.meet i; Build.fillAll (graph.size + 1)).run start
    return b.value 2 i

/-- The loader that the program is run with. -/
def Loader.standard : Loader where
  load := Yaml.load
  reports fault := fault == .malformed

end PropertyQuote.Yaml
