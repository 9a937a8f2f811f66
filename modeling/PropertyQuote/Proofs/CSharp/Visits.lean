import Mathlib.Data.List.Forall2
import PropertyQuote.Proofs.CSharp.Outlines
import PropertyQuote.Proofs.CSharp.Walk

/-!
# The nodes that the walk visits

Each node that the walk visits has a place in the tree, and the body of the innermost namespace around it is the scope
of a directive that stands there.

* `walk`: the nodes that the walk visits, in order, with their places and scopes.
* `located_outline`: the properties of an outline are the property declarations among them.
-/

namespace PropertyQuote.CSharp

/-- A node that the walk visits.  Its place is the list of child indices that lead to it.  Its scope is the place of the
innermost namespace body around it, if there is one. -/
structure Visit where
  place : List Nat
  scope : Option (List Nat)
  inType : Bool
  node : Node
deriving DecidableEq

namespace Visit

/-- The visit as it is seen from the parent of the node from which it starts. -/
def under (i : Nat) (v : Visit) : Visit :=
  { v with place := i :: v.place, scope := v.scope.map (i :: ·) }

/-- The visit as it is seen from a namespace in whose body it is. -/
def inBlock (v : Visit) : Visit :=
  { v with scope := some (v.scope.getD (v.place.take 1)) }

/-- A property is declared in a type and has a name. -/
def isProperty (v : Visit) : Bool :=
  v.inType && v.node.sort == .property && (v.node.child? .name).isSome

end Visit

mutual

/-- The nodes that the walk visits below a node. -/
def walk (source : Source) (inType : Bool) : Node → List Visit
  | .mk _ _ _ _ _ children => walkAll source inType 0 children

/-- Some nodes, the first of which has the given index, and the nodes that the walk visits below them. -/
def walkAll (source : Source) (inType : Bool) (i : Nat) : List Node → List Visit
  | [] => []
  | n :: rest =>
    (⟨[], none, inType, n⟩ ::
      match n.sort with
      | .opened => walk source false n
      | .block => (walkBody source false n).map Visit.inBlock
      | .members => walk source inType n
      | .type _ => if (nameOf source n).isEmpty then [] else walkBody source true n
      | _ => []).map (Visit.under i) ++ walkAll source inType (i + 1) rest

/-- The nodes that the walk visits in the body of a declaration. -/
def walkBody (source : Source) (inType : Bool) : Node → List Visit
  | .mk _ _ _ _ _ children => walkFirstBody source inType 0 children

/-- The nodes that the walk visits in the first body among some children. -/
def walkFirstBody (source : Source) (inType : Bool) (i : Nat) : List Node → List Visit
  | [] => []
  | n :: rest =>
    if n.role == .body then (walk source inType n).map (Visit.under i)
    else walkFirstBody source inType (i + 1) rest

end

/-- The nodes that the walk visits below a node when it comes to it. -/
def walkInside (source : Source) (inType : Bool) (n : Node) : List Visit :=
  match n.sort with
  | .opened => walk source false n
  | .block => (walkBody source false n).map Visit.inBlock
  | .members => walk source inType n
  | .type _ => if (nameOf source n).isEmpty then [] else walkBody source true n
  | _ => []

variable {path : String} {source : Source} {inType : Bool} {i : Nat} {n : Node} {rest : List Node}

/-- The walk through a node goes through its children. -/
lemma walk_eq : walk source inType n = walkAll source inType 0 n.children := by
  cases n
  rw [walk]
  rfl

/-- Nothing is visited where nothing is. -/
lemma walkAll_nil : walkAll source inType i [] = [] := by
  rw [walkAll]

/-- A node is visited, then what is inside of it, and then the nodes after it. -/
lemma walkAll_cons : walkAll source inType i (n :: rest) =
    (⟨[], none, inType, n⟩ :: walkInside source inType n).map (Visit.under i) ++
      walkAll source inType (i + 1) rest := by
  rw [walkAll]
  rfl

/-- The walk through the body of a node looks for it among the children. -/
lemma walkBody_eq : walkBody source inType n = walkFirstBody source inType 0 n.children := by
  cases n
  rw [walkBody]
  rfl

/-- All that is visited in a body is below the same child. -/
lemma place_of_mem_walkFirstBody (source : Source) (inType : Bool) (i : Nat) (ns : List Node) :
    ∃ j, ∀ v ∈ walkFirstBody source inType i ns, [j] <+: v.place := by
  induction ns generalizing i with
  | nil =>
    refine ⟨i, ?_⟩
    rw [walkFirstBody]
    exact fun _ hmem => absurd hmem List.not_mem_nil
  | cons n ns ih =>
    rw [walkFirstBody]
    split
    · refine ⟨i, ?_⟩
      rw [List.forall_mem_map]
      exact fun v _ => List.cons_prefix_cons.2 ⟨rfl, List.nil_prefix⟩
    · exact ih (i + 1)

/-! ## Properties among the visits -/

/-- The property declarations among some visits are, one by one, the properties of an outline. -/
def Located (path : String) (source : Source) (vs : List Visit) (items : List Item) : Prop :=
  List.Forall₂ (fun v e => property? path source e.home e.owner v.node = some e)
    (vs.filter Visit.isProperty) (entriesIn items)

namespace Located

variable {vs vs' : List Visit} {items items' : List Item}

/-- Nothing is visited and nothing declared. -/
lemma nil : Located path source [] [] := by
  rw [Located, entriesIn]
  exact .nil

/-- Visits and outlines may be put one after the other. -/
lemma append (h : Located path source vs items) (h' : Located path source vs' items') :
    Located path source (vs ++ vs') (items ++ items') := by
  rw [Located, List.filter_append, entriesIn_append]
  exact List.rel_append h h'

/-- Places and scopes do not matter. -/
lemma map (h : Located path source vs items) {move : Visit → Visit} (hnode : ∀ v, (move v).node = v.node)
    (htype : ∀ v, (move v).inType = v.inType) : Located path source (vs.map move) items := by
  have hproperty : Visit.isProperty ∘ move = Visit.isProperty := by
    funext v
    simp only [Function.comp, Visit.isProperty, hnode, htype]
  rw [Located, List.filter_map, hproperty, List.forall₂_map_left_iff]
  simp only [hnode]
  exact h

/-- Seen from further outside, it is the same with longer places. -/
lemma under (h : Located path source vs items) (i : Nat) : Located path source (vs.map (Visit.under i)) items :=
  h.map (fun _ => rfl) fun _ => rfl

/-- A body around the outline changes the scopes of the visits alone. -/
lemma block (h : Located path source vs items) : Located path source (vs.map Visit.inBlock) [.block items] := by
  have hblock : Located path source (vs.map Visit.inBlock) items := h.map (fun _ => rfl) fun _ => rfl
  rw [Located, entriesIn, entriesIn, List.append_nil]
  exact hblock

end Located

/-- What a node adds to an outline is located at the node itself and below it. -/
lemma located_outlineNode
    (hinside : ∀ home owner, Located path source (walk source owner.isSome n) (outline path source home owner n))
    (hbody : ∀ home owner,
      Located path source (walkBody source owner.isSome n) (outlineBody path source home owner n))
    (home : String) (owner : Option TypeSymbol) :
    Located path source (⟨[], none, owner.isSome, n⟩ :: walkInside source owner.isSome n)
      (outlineNode path source home owner n) := by
  -- only a property is located at its own node
  have hcons (hne : n.sort ≠ .property) {vs : List Visit} {items : List Item} (h : Located path source vs items) :
      Located path source (⟨[], none, owner.isSome, n⟩ :: vs) items := by
    have hnot : ¬ Visit.isProperty ⟨[], none, owner.isSome, n⟩ = true := by
      simp [Visit.isProperty, hne]
    rw [Located, List.filter_cons_of_neg hnot]
    exact h
  unfold outlineNode walkInside
  cases hsort : n.sort with
  | opened => exact hcons (by simp [hsort]) (hinside _ none)
  | block =>
    exact hcons (by simp [hsort]) (hbody _ none).block
  | directive =>
    refine hcons (by simp [hsort]) ?_
    dsimp only
    rw [Located, entriesIn_using?]
    exact .nil
  | enumeration =>
    refine hcons (by simp [hsort]) ?_
    dsimp only
    rw [Located, entriesIn_plainType?]
    exact .nil
  | delegate =>
    refine hcons (by simp [hsort]) ?_
    dsimp only
    rw [Located, entriesIn_plainType?]
    exact .nil
  | property =>
    dsimp only
    rw [Located, entriesIn_map_property]
    cases owner with
    | none => exact .nil
    | some t =>
      cases hname : n.child? .name with
      | none => simp [Visit.isProperty, property?, hname]
      | some name => simp [Visit.isProperty, property?, hname, hsort]
  | members => exact hcons (by simp [hsort]) (hinside _ owner)
  | type kind =>
    refine hcons (by simp [hsort]) ?_
    dsimp only
    split
    · exact .nil
    · rw [Located, entriesIn]
      exact hbody home (some _)
  | ignored => exact hcons (by simp [hsort]) .nil

/-- Some nodes: if each of them declares what is visited, so do they together. -/
lemma located_outlineAll {ns : List Node}
    (h : ∀ n ∈ ns, ∀ home owner, Located path source
      (⟨[], none, owner.isSome, n⟩ :: walkInside source owner.isSome n) (outlineNode path source home owner n))
    (i : Nat) (home : String) (owner : Option TypeSymbol) :
    Located path source (walkAll source owner.isSome i ns) (outlineAll path source home owner ns) := by
  induction ns generalizing i home with
  | nil =>
    rw [walkAll_nil, outlineAll_nil]
    exact .nil
  | cons n ns ih =>
    obtain ⟨hn, hns⟩ := List.forall_mem_cons.1 h
    rw [walkAll_cons, outlineAll_cons]
    exact ((hn home owner).under i).append (ih hns (i + 1) _)

/-- A body declares what is visited in it if each child does. -/
lemma located_outlineFirstBody {ns : List Node}
    (h : ∀ n ∈ ns, ∀ home owner,
      Located path source (walk source owner.isSome n) (outline path source home owner n))
    (i : Nat) (home : String) (owner : Option TypeSymbol) :
    Located path source (walkFirstBody source owner.isSome i ns) (outlineFirstBody path source home owner ns) := by
  induction ns generalizing i with
  | nil =>
    rw [walkFirstBody, outlineFirstBody]
    exact .nil
  | cons n ns ih =>
    obtain ⟨hn, hns⟩ := List.forall_mem_cons.1 h
    rw [walkFirstBody, outlineFirstBody]
    split
    · exact (hn home owner).under i
    · exact ih hns (i + 1)

/-- The properties of an outline are the property declarations that the walk visits, in the same order. -/
lemma located_outline (n : Node) :
    (∀ home owner, Located path source (walk source owner.isSome n) (outline path source home owner n)) ∧
    ∀ home owner, Located path source (walkBody source owner.isSome n) (outlineBody path source home owner n) := by
  induction n using Node.induction with
  | node n ih =>
    constructor
    · intro home owner
      rw [walk_eq, outline_eq]
      apply located_outlineAll
      intro c hc
      exact located_outlineNode (ih c hc).1 (ih c hc).2
    · intro home owner
      rw [walkBody_eq, outlineBody_eq]
      exact located_outlineFirstBody (fun c hc => (ih c hc).1) 0 home owner

/-- A node declares the properties that are visited at it and inside of it. -/
lemma located_node (n : Node) (home : String) (owner : Option TypeSymbol) :
    Located path source (⟨[], none, owner.isSome, n⟩ :: walkInside source owner.isSome n)
      (outlineNode path source home owner n) :=
  located_outlineNode (located_outline n).1 (located_outline n).2 home owner

end PropertyQuote.CSharp
