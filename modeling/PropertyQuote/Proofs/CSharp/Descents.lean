import PropertyQuote.Proofs.CSharp.Outlines
import PropertyQuote.Proofs.CSharp.Walk

/-!
# Descents through a syntax tree

Every node of a tree is at the end of one descent, which passes the nodes around it and, at each of them, the siblings in
front of it.  The walk goes down through namespaces without a body, lists of members and the bodies of declarations;
what it records at the end of a descent depends on that descent alone.

* `Node.descents`: the descents to all nodes below a node, in the order of the document.
* `Descent.site?`: the place that the walk comes to at the end of a descent, if it goes that way.
* `entriesIn_outline`: the properties of an outline, one site after the other.
-/

namespace PropertyQuote.CSharp

/-! ## All nodes below a node -/

/-- A node on the way down, with its siblings in front of it. -/
structure Step where
  before : List Node
  node : Node
deriving DecidableEq

/-- The nodes that are passed on the way down to a node, and that node itself at the end. -/
abbrev Descent := List Step

mutual

/-- The descents from a node to all nodes below it, in the order of the document. -/
def Node.descents : Node → List Descent
  | .mk _ _ _ _ _ children => descentsAll [] children

/-- The descents to some nodes that stand after others, and to all nodes below them. -/
def descentsAll (before : List Node) : List Node → List Descent
  | [] => []
  | n :: rest => ([⟨before, n⟩] :: n.descents.map (⟨before, n⟩ :: ·)) ++ descentsAll (before ++ [n]) rest

end

variable {path : String} {source : Source} {n : Node} {s : Step} {before ns rest : List Node}

/-- The descents into a node go to its children and on from there. -/
lemma descents_eq : n.descents = descentsAll [] n.children := by
  cases n
  rw [Node.descents]
  rfl

/-- There is no way down to nothing. -/
lemma descentsAll_nil : descentsAll before [] = [] := by
  rw [descentsAll]

/-- A descent ends at the first node, goes on inside of it, or passes it by. -/
lemma descentsAll_cons : descentsAll before (n :: rest) =
    ([⟨before, n⟩] :: n.descents.map (⟨before, n⟩ :: ·)) ++ descentsAll (before ++ [n]) rest := by
  rw [descentsAll]

/-- A descent has a last step. -/
lemma ne_nil_of_mem_descentsAll {d : Descent} (h : d ∈ descentsAll before ns) : d ≠ [] := by
  induction ns generalizing before with
  | nil =>
    rw [descentsAll_nil] at h
    cases h
  | cons n ns ih =>
    rw [descentsAll_cons, List.mem_append] at h
    rcases h with h | h
    · rcases List.mem_cons.1 h with rfl | h
      · exact List.cons_ne_nil _ _
      · obtain ⟨d, -, rfl⟩ := List.mem_map.1 h
        exact List.cons_ne_nil _ _
    · exact ih h

/-! ## Where the walk goes -/

/-- The step leads to the body of the declaration above it, which is the first child in that role. -/
def Step.isBody (s : Step) : Bool :=
  s.node.role == .body && s.before.all (·.role != .body)

/-- Which of the nodes below a node the walk takes. -/
inductive Passage where
  /-- All children. -/
  | children
  /-- The children of the body. -/
  | body
  | closed
deriving DecidableEq

/-- The walk goes on through namespaces, lists of members, and types that have a name. -/
def Node.passage (source : Source) (n : Node) : Passage :=
  match n.sort with
  | .opened | .members => .children
  | .block => .body
  | .type _ => if (nameOf source n).isEmpty then .closed else .body
  | _ => .closed

/-- A place that the walk comes to: what it passes, from the outside in, and the node at the end.  The body of a
declaration is no step of its own. -/
structure Site where
  around : List Step
  last : Step
deriving DecidableEq

/-- The site as it is seen from further outside. -/
def Site.within (s : Step) (x : Site) : Site :=
  { x with around := s :: x.around }

/-- The site at the end of a descent, if the walk goes that way. -/
def Descent.site? (source : Source) : Descent → Option Site
  | [] => none
  | [s] => some ⟨[], s⟩
  | s :: t :: rest =>
    match s.node.passage source with
    | .children => (site? source (t :: rest)).map (Site.within s)
    | .body => if t.isBody then (site? source rest).map (Site.within s) else none
    | .closed => none

/-- The site at the end of a descent that starts in the body of a declaration. -/
def Descent.bodySite? (source : Source) : Descent → Option Site
  | [] => none
  | t :: rest => if t.isBody then site? source rest else none

/-- A step into a node leads to a site through the children or through the body, or nowhere. -/
lemma Descent.site?_cons {d : Descent} (hd : d ≠ []) : site? source (s :: d) =
    match s.node.passage source with
    | .children => (site? source d).map (Site.within s)
    | .body => (bodySite? source d).map (Site.within s)
    | .closed => none := by
  cases d with
  | nil => exact absurd rfl hd
  | cons t rest =>
    rw [site?, bodySite?]
    cases s.node.passage source with
    | children => rfl
    | body =>
      dsimp only
      split <;> rfl
    | closed => rfl

/-! ## What holds at a site -/

/-- The namespace and the type around a place. -/
structure Setting where
  home : String
  owner : Option TypeSymbol

/-- The namespace after some nodes. -/
def homeAfterAll (source : Source) (home : String) (before : List Node) : String :=
  before.foldl (homeAfter source) home

/-- The setting inside of a node that the walk passes. -/
def Setting.enter (source : Source) (c : Setting) (s : Step) : Setting :=
  let home := homeAfterAll source c.home s.before
  match s.node.sort with
  | .opened | .block => ⟨Name.join home (nameOf source s.node), none⟩
  | .type kind => ⟨home, some (typeSymbol ⟨nameOf source s.node, kind.word, typeParameters source s.node⟩ home c.owner)⟩
  | _ => ⟨home, c.owner⟩

/-- The property that is recorded at a site in the given setting. -/
def Site.entry? (path : String) (source : Source) (c : Setting) (x : Site) : Option PropertyEntry :=
  let inner := x.around.foldl (Setting.enter source) c
  if x.last.node.sort = .property then
    inner.owner.bind (property? path source (homeAfterAll source inner.home x.last.before) · x.last.node)
  else none

/-! ## The walk, one site after the other -/

/-- Below a declaration, only the body leads on. -/
lemma filterMap_bodySite?_of_not_body (h : s.isBody = false) (ds : List Descent) :
    ([s] :: ds.map (s :: ·)).filterMap (Descent.bodySite? source) = [] := by
  rw [List.filterMap_eq_nil_iff]
  intro d hd
  rcases List.mem_cons.1 hd with rfl | hd
  · rw [Descent.bodySite?, h, if_neg Bool.false_ne_true]
  · obtain ⟨d, -, rfl⟩ := List.mem_map.1 hd
    rw [Descent.bodySite?, h, if_neg Bool.false_ne_true]

/-- Only the first body leads to sites. -/
lemma filterMap_bodySite?_after_body (hbefore : before.all (·.role != .body) = false) :
    (descentsAll before ns).filterMap (Descent.bodySite? source) = [] := by
  induction ns generalizing before with
  | nil =>
    rw [descentsAll_nil]
    rfl
  | cons n ns ih =>
    have hbody : Step.isBody ⟨before, n⟩ = false := by
      rw [Step.isBody, hbefore, Bool.and_false]
    have hafter : (before ++ [n]).all (·.role != .body) = false := by
      rw [List.all_append, hbefore, Bool.false_and]
    rw [descentsAll_cons, List.filterMap_append, filterMap_bodySite?_of_not_body hbody, ih hafter]
    rfl

/-- Of some nodes after others that are no bodies, the first body leads on to the sites inside of it. -/
lemma filterMap_bodySite? (hbefore : before.all (·.role != .body) = true) :
    (descentsAll before ns).filterMap (Descent.bodySite? source) =
      ((ns.find? (·.role == .body)).toList.flatMap Node.descents).filterMap (Descent.site? source) := by
  induction ns generalizing before with
  | nil =>
    rw [descentsAll_nil]
    rfl
  | cons n ns ih =>
    have hafter : (before ++ [n]).all (·.role != .body) = (n.role != .body) := by
      rw [List.all_append, hbefore, List.all_cons, List.all_nil, Bool.true_and, Bool.and_true]
    rw [descentsAll_cons, List.filterMap_append, List.find?_cons]
    cases hrole : n.role == .body with
    | true =>
      have hbody : Step.isBody ⟨before, n⟩ = true := by
        rw [Step.isBody, hrole, hbefore, Bool.and_self]
      have hself : Descent.bodySite? source [⟨before, n⟩] = none := by
        rw [Descent.bodySite?, hbody, if_pos rfl, Descent.site?]
      have hinside : Descent.bodySite? source ∘ (⟨before, n⟩ :: ·) = Descent.site? source := by
        funext d
        rw [Function.comp, Descent.bodySite?, hbody, if_pos rfl]
      rw [bne, hrole] at hafter
      rw [filterMap_bodySite?_after_body hafter, List.append_nil, List.filterMap_cons_none hself, List.filterMap_map,
        hinside]
      exact congrArg _ (List.flatMap_singleton _ _).symm
    | false =>
      have hbody : Step.isBody ⟨before, n⟩ = false := by
        rw [Step.isBody, hrole, Bool.false_and]
      rw [bne, hrole] at hafter
      rw [filterMap_bodySite?_of_not_body hbody, List.nil_append, ih hafter]

/-- The first body is outlined, if there is one. -/
lemma outlineFirstBody_eq {home : String} {owner : Option TypeSymbol} :
    outlineFirstBody path source home owner ns =
      (ns.find? (·.role == .body)).toList.flatMap (outline path source home owner) := by
  induction ns with
  | nil => rw [outlineFirstBody, List.find?_nil, Option.toList_none, List.flatMap_nil]
  | cons n ns ih =>
    rw [outlineFirstBody, List.find?_cons]
    cases hrole : n.role == .body with
    | true => exact (List.flatMap_singleton _ _).symm
    | false => exact ih

/-- The properties that are recorded, in a setting, at the sites to which some descents lead. -/
def recorded (path : String) (source : Source) (c : Setting) (lead : Descent → Option Site) (ds : List Descent) :
    List PropertyEntry :=
  (ds.filterMap lead).filterMap (Site.entry? path source c)

/-- A step into a node changes the setting, and the sites inside are taken in the new one. -/
lemma recorded_cons {lead : Descent → Option Site} {c : Setting} {ds : List Descent}
    (hlead : ∀ d ∈ ds, Descent.site? source (s :: d) = (lead d).map (Site.within s)) :
    recorded path source c (Descent.site? source) (ds.map (s :: ·)) =
      recorded path source (c.enter source s) lead ds := by
  have hsites : (ds.map (s :: ·)).filterMap (Descent.site? source) = (ds.filterMap lead).map (Site.within s) := by
    rw [List.filterMap_map, List.map_filterMap]
    exact List.filterMap_congr hlead
  rw [recorded, recorded, hsites, List.filterMap_map]
  rfl

/-- What is recorded at a node and below it, by the way in which the walk goes on. -/
lemma recorded_step (c : Setting) {ds : List Descent} (hds : ∀ d ∈ ds, d ≠ []) :
    recorded path source c (Descent.site? source) ([s] :: ds.map (s :: ·)) =
      (Site.entry? path source c ⟨[], s⟩).toList ++
        match s.node.passage source with
        | .children => recorded path source (c.enter source s) (Descent.site? source) ds
        | .body => recorded path source (c.enter source s) (Descent.bodySite? source) ds
        | .closed => [] := by
  have hcons : recorded path source c (Descent.site? source) ([s] :: ds.map (s :: ·)) =
      (Site.entry? path source c ⟨[], s⟩).toList ++
        recorded path source c (Descent.site? source) (ds.map (s :: ·)) := by
    rw [recorded, List.filterMap_cons, Descent.site?, List.filterMap_cons]
    cases Site.entry? path source c ⟨[], s⟩ <;> rfl
  rw [hcons]
  congr 1
  cases hpassage : s.node.passage source with
  | children =>
    apply recorded_cons
    intro d hd
    rw [Descent.site?_cons (hds d hd), hpassage]
  | body =>
    apply recorded_cons
    intro d hd
    rw [Descent.site?_cons (hds d hd), hpassage]
  | closed =>
    have hnone : (ds.map (s :: ·)).filterMap (Descent.site? source) = [] := by
      rw [List.filterMap_map, List.filterMap_eq_nil_iff]
      intro d hd
      rw [Function.comp, Descent.site?_cons (hds d hd), hpassage]
    rw [recorded, hnone]
    rfl

/-- What a node adds to an outline is recorded at the node itself and below it. -/
lemma recorded_outlineNode
    (hinside : ∀ c : Setting, entriesIn (outline path source c.home c.owner n) =
      recorded path source c (Descent.site? source) n.descents)
    (hbody : ∀ c : Setting, entriesIn (outlineBody path source c.home c.owner n) =
      recorded path source c (Descent.bodySite? source) n.descents)
    (c : Setting) (before : List Node) :
    entriesIn (outlineNode path source (homeAfterAll source c.home before) c.owner n) =
      recorded path source c (Descent.site? source) ([⟨before, n⟩] :: n.descents.map (⟨before, n⟩ :: ·)) := by
  have hds : ∀ d ∈ n.descents, d ≠ [] := by
    rw [descents_eq]
    exact fun d => ne_nil_of_mem_descentsAll
  rw [recorded_step c hds, ← hinside, ← hbody]
  unfold outlineNode Site.entry? Node.passage Setting.enter
  dsimp only [List.foldl_nil]
  cases n.sort with
  | opened => rfl
  | block => simp only [entriesIn, List.append_nil, reduceCtorEq, if_false, Option.toList_none, List.nil_append]
  | members => rfl
  | type kind =>
    dsimp only
    split
    · rw [entriesIn]
      rfl
    · rw [entriesIn]
      rfl
  | property => exact (entriesIn_map_property _).trans (List.append_nil _).symm
  | directive => exact entriesIn_using? source n
  | enumeration => exact entriesIn_plainType? source _ _ _ _ n
  | delegate => exact entriesIn_plainType? source _ _ _ _ n
  | ignored =>
    dsimp only
    rw [entriesIn]
    rfl

/-- Some nodes: if each of them records its sites, so do they together. -/
lemma recorded_outlineAll
    (h : ∀ n ∈ ns, ∀ c before, entriesIn (outlineNode path source (homeAfterAll source c.home before) c.owner n) =
      recorded path source c (Descent.site? source) ([⟨before, n⟩] :: n.descents.map (⟨before, n⟩ :: ·)))
    (c : Setting) (before : List Node) :
    entriesIn (outlineAll path source (homeAfterAll source c.home before) c.owner ns) =
      recorded path source c (Descent.site? source) (descentsAll before ns) := by
  induction ns generalizing before with
  | nil =>
    rw [outlineAll_nil, descentsAll_nil, entriesIn]
    rfl
  | cons n ns ih =>
    obtain ⟨hn, hns⟩ := List.forall_mem_cons.1 h
    have hhome : homeAfter source (homeAfterAll source c.home before) n =
        homeAfterAll source c.home (before ++ [n]) := by
      rw [homeAfterAll, homeAfterAll, List.foldl_append]
      rfl
    rw [outlineAll_cons, entriesIn_append, hhome, hn, ih hns, descentsAll_cons, recorded, recorded, recorded,
      List.filterMap_append, List.filterMap_append]

/-- The properties of an outline are recorded at the sites of the tree, in the order of the document. -/
lemma recorded_outline (n : Node) :
    (∀ c : Setting, entriesIn (outline path source c.home c.owner n) =
      recorded path source c (Descent.site? source) n.descents) ∧
    ∀ c : Setting, entriesIn (outlineBody path source c.home c.owner n) =
      recorded path source c (Descent.bodySite? source) n.descents := by
  induction n using Node.induction with
  | node n ih =>
    constructor
    · intro c
      rw [outline_eq, descents_eq]
      refine recorded_outlineAll ?_ c []
      intro m hm
      exact recorded_outlineNode (ih m hm).1 (ih m hm).2
    · intro c
      rw [outlineBody_eq, descents_eq, outlineFirstBody_eq, recorded, filterMap_bodySite? rfl]
      cases hfind : n.children.find? (·.role == .body) with
      | none => simp [entriesIn]
      | some b =>
        have hb := (ih b (List.mem_of_find?_eq_some hfind)).1 c
        rw [Option.toList_some, List.flatMap_singleton, List.flatMap_singleton, hb]
        rfl

end PropertyQuote.CSharp
