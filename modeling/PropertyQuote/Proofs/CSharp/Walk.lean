import Mathlib.Data.List.Basic
import PropertyQuote.CSharp.Compilation

/-!
# The walk through a syntax tree

An outline takes the children of a node one after the other.  What a child adds depends on its sort alone, and only a
namespace without a body changes something for the children after it.

* `Node.sort`: the sorts of nodes that the walk tells apart.
* `outlineAll_cons`, `outlineNode`: the outline of some nodes, one node at a time.
* `Node.induction`: what holds of a node if it holds of its children.
-/

namespace PropertyQuote.CSharp

variable {path : String} {source : Source} {home : String} {owner : Option TypeSymbol} {n : Node}
  {ns rest : List Node}

/-- What holds of every node whose children have it holds of every node. -/
theorem Node.induction {motive : Node → Prop} (node : ∀ n : Node, (∀ c ∈ n.children, motive c) → motive n)
    (n : Node) : motive n :=
  node n fun c _ => Node.induction node c
termination_by sizeOf n
decreasing_by exact Node.sizeOf_lt_of_mem ‹_›

/-! ## Sorts of nodes -/

/-- What a node is for an outline. -/
inductive NodeSort where
  /-- A namespace without a body. -/
  | opened
  /-- A namespace with a body. -/
  | block
  | directive
  | enumeration
  | delegate
  | property
  | members
  | type (kind : TypeKind)
  | ignored
deriving DecidableEq

/-- The sort of a node, by its kind. -/
def Node.sort (n : Node) : NodeSort :=
  match n.kind with
  | .fileScopedNamespace => .opened
  | .namespaceDeclaration => .block
  | .usingDirective => .directive
  | .enumDeclaration => .enumeration
  | .delegateDeclaration => .delegate
  | .propertyDeclaration => .property
  | .declarationList => .members
  | _ =>
    match declaredKind? n with
    | some kind => .type kind
    | none => .ignored

/-- What one node adds to an outline. -/
def outlineNode (path : String) (source : Source) (home : String) (owner : Option TypeSymbol) (n : Node) :
    List Item :=
  match n.sort with
  | .opened => outline path source (Name.join home (nameOf source n)) none n
  | .block => [.block (outlineBody path source (Name.join home (nameOf source n)) none n)]
  | .directive => (using? source n).toList
  | .enumeration => (plainType? source home owner .enum 0 n).toList
  | .delegate => (plainType? source home owner .delegate (typeParameters source n).length n).toList
  | .property => (owner.bind (property? path source home · n)).toList.map .property
  | .members => outline path source home owner n
  | .type kind =>
    if (nameOf source n).isEmpty then []
    else
      let parameters := typeParameters source n
      let symbol := typeSymbol ⟨nameOf source n, kind.word, parameters⟩ home owner
      .type ⟨symbol.displayName, parameters.length, kind⟩ :: outlineBody path source home (some symbol) n
  | .ignored => []

/-- The namespace after a node. -/
def homeAfter (source : Source) (home : String) (n : Node) : String :=
  if n.sort = .opened then Name.join home (nameOf source n) else home

/-! ## One node at a time -/

/-- No nodes have an empty outline. -/
lemma outlineAll_nil : outlineAll path source home owner [] = [] := by
  rw [outlineAll]

/-- The outline of a node comes before that of the nodes after it, which may be in another namespace. -/
lemma outlineAll_cons : outlineAll path source home owner (n :: rest) =
    outlineNode path source home owner n ++ outlineAll path source (homeAfter source home n) owner rest := by
  rw [outlineAll]
  split
  -- the kinds that are not named are types or nothing
  case h_8 =>
    have hsort : n.sort = match declaredKind? n with
        | some kind => .type kind
        | none => .ignored := by
      unfold Node.sort
      split <;> first | contradiction | rfl
    rw [outlineNode, homeAfter, hsort]
    cases declaredKind? n with
    | none => rfl
    | some kind =>
      have hne : NodeSort.type kind ≠ .opened := by
        intro h
        cases h
      dsimp only
      rw [if_neg hne]
      split <;> rfl
  all_goals
    rename_i hkind
    simp [outlineNode, homeAfter, Node.sort, hkind]

/-- The outline of a node is that of its children. -/
lemma outline_eq : outline path source home owner n = outlineAll path source home owner n.children := by
  cases n
  rw [outline]
  rfl

/-- The outline of the body of a node is that of the first body among its children. -/
lemma outlineBody_eq : outlineBody path source home owner n =
    outlineFirstBody path source home owner n.children := by
  cases n
  rw [outlineBody]
  rfl

end PropertyQuote.CSharp
