import Mathlib.Data.List.Forall2
import PropertyQuote.Proofs.CSharp.Descents
import PropertyQuote.Proofs.CSharp.Programs

/-!
# The types and namespaces around a property

Where no namespace is declared inside a type, a property is recorded under the types that enclose it in the tree, from the
inside out, and all of them are in the namespace that the enclosing and preceding namespace declarations make up.

* `Node.NamespacesOutside`: no namespace is declared inside a type.
* `Site.home`, `Site.types`: the namespace and the types at a site, read off the nodes that are passed.
* `RecordedAt`, `properties_at_sites`: the properties of a program are recorded at their sites.
-/

namespace PropertyQuote.CSharp

/-! ## Nodes inside of a node -/

mutual

/-- All nodes inside of a node. -/
def Node.inside : Node → List Node
  | .mk _ _ _ _ _ children => insideAll children

/-- The nodes of a list with all nodes inside of them. -/
def insideAll : List Node → List Node
  | [] => []
  | n :: rest => (n :: n.inside) ++ insideAll rest

end

variable {source : Source} {n m : Node} {s : Step} {d : Descent} {before ns : List Node}

/-- A node is among them if it is in the list or inside of a node that is. -/
lemma mem_insideAll : m ∈ insideAll ns ↔ ∃ c ∈ ns, m = c ∨ m ∈ c.inside := by
  induction ns with
  | nil => simp [insideAll]
  | cons n ns ih => simp [insideAll, ih, or_assoc]

/-- What is inside of a node is a child of it or inside of a child. -/
lemma mem_inside : m ∈ n.inside ↔ ∃ c ∈ n.children, m = c ∨ m ∈ c.inside := by
  cases n
  rw [Node.inside, mem_insideAll]
  rfl

/-- No namespace, with or without a body, is declared inside a type. -/
def Node.NamespacesOutside (n : Node) : Prop :=
  ∀ t ∈ n.inside, (declaredKind? t).isSome →
    ∀ m ∈ t.inside, m.kind ≠ .namespaceDeclaration ∧ m.kind ≠ .fileScopedNamespace

/-- The node of a step and the siblings in front of it are inside of a node. -/
def Step.Under (s : Step) (n : Node) : Prop :=
  s.node ∈ n.inside ∧ ∀ m ∈ s.before, m ∈ n.inside

/-- What is under a child is under the node. -/
lemma Step.Under.of_child {c : Node} (h : s.Under c) (hc : c ∈ n.children) : s.Under n :=
  ⟨mem_inside.2 ⟨c, hc, .inr h.1⟩, fun m hm => mem_inside.2 ⟨c, hc, .inr (h.2 m hm)⟩⟩

/-- Each step of a descent is inside of all nodes that are passed before it. -/
def Descent.Nested (n : Node) (d : Descent) : Prop :=
  (∀ s ∈ d, s.Under n) ∧ d.Pairwise fun t s => s.Under t.node

/-- If the descents into each child are nested, so are those that go on through the list of children. -/
lemma nested_of_mem_descentsAll (h : ∀ c ∈ ns, ∀ d ∈ c.descents, Descent.Nested c d)
    (hchildren : ∀ c ∈ before ++ ns, c ∈ n.children) (hd : d ∈ descentsAll before ns) : Descent.Nested n d := by
  induction ns generalizing before with
  | nil =>
    rw [descentsAll_nil] at hd
    cases hd
  | cons c ns ih =>
    obtain ⟨hc, hns⟩ := List.forall_mem_cons.1 h
    have hchild : c ∈ n.children := hchildren c (List.mem_append_right _ List.mem_cons_self)
    have hfirst : Step.Under ⟨before, c⟩ n :=
      ⟨mem_inside.2 ⟨c, hchild, .inl rfl⟩,
        fun m hm => mem_inside.2 ⟨m, hchildren m (List.mem_append_left _ hm), .inl rfl⟩⟩
    rw [descentsAll_cons, List.mem_append, List.mem_cons] at hd
    rcases hd with (rfl | hd) | hd
    · exact ⟨List.forall_mem_singleton.2 hfirst, List.pairwise_singleton _ _⟩
    · obtain ⟨d', hd', rfl⟩ := List.mem_map.1 hd
      obtain ⟨hunder, hpairwise⟩ := hc d' hd'
      exact ⟨List.forall_mem_cons.2 ⟨hfirst, fun s hs => (hunder s hs).of_child hchild⟩,
        List.pairwise_cons.2 ⟨hunder, hpairwise⟩⟩
    · refine ih hns ?_ hd
      rw [List.append_assoc]
      exact hchildren

/-- All descents into a node are nested. -/
lemma nested_of_mem_descents (hd : d ∈ n.descents) : Descent.Nested n d := by
  induction n using Node.induction generalizing d with
  | node n ih =>
    rw [descents_eq] at hd
    exact nested_of_mem_descentsAll (fun c hc d hd => ih c hc hd) (fun c hc => hc) hd

/-! ## The namespace and the types at a site -/

/-- What the walk passes on its way to a site, and the node at the end. -/
def Site.steps (x : Site) : List Step :=
  x.around ++ [x.last]

/-- The names of the namespaces that a step leads into: those without a body in front of the node, and that of the node
itself if it is a namespace. -/
def Step.namespaces (source : Source) (s : Step) : List String :=
  (s.before.filter (·.sort == .opened)).map (nameOf source) ++
    if s.node.sort = .opened ∨ s.node.sort = .block then [nameOf source s.node] else []

/-- The namespace at a site, from the outside in. -/
def Site.home (source : Source) (x : Site) : String :=
  (x.steps.flatMap (Step.namespaces source)).foldl Name.join ""

/-- The heading of a type declaration. -/
def Node.heading? (source : Source) (n : Node) : Option TypeHeading :=
  match n.sort with
  | .type kind => some ⟨nameOf source n, kind.word, typeParameters source n⟩
  | _ => none

/-- The types around a site, from the inside out. -/
def Site.types (source : Source) (x : Site) : List TypeHeading :=
  (x.around.filterMap fun s => s.node.heading? source).reverse

/-- The type with the given headings, from the inside out, in a namespace. -/
def typeIn (home : String) : List TypeHeading → Option TypeSymbol
  | [] => none
  | h :: hs => some (typeSymbol h home (typeIn home hs))

variable {path home : String} {x : Site} {hs : List TypeHeading} {steps : List Step}

/-- The namespaces without a body among the siblings in front are entered one after the other. -/
lemma homeAfterAll_eq : homeAfterAll source home before =
    ((before.filter (·.sort == .opened)).map (nameOf source)).foldl Name.join home := by
  induction before generalizing home with
  | nil => rfl
  | cons n before ih =>
    rw [homeAfterAll, List.foldl_cons, ← homeAfterAll, ih, List.filter_cons, homeAfter]
    by_cases hsort : n.sort = .opened
    · rw [if_pos hsort, if_pos (beq_iff_eq.2 hsort), List.map_cons, List.foldl_cons]
    · rw [if_neg hsort, if_neg (mt beq_iff_eq.1 hsort)]

/-- Inside of a type, a step that leads into no namespace keeps the namespace of all types around. -/
lemma enter_typeIn (h : hs ≠ [] → s.namespaces source = []) :
    Setting.enter source ⟨home, typeIn home hs⟩ s =
      ⟨(s.namespaces source).foldl Name.join home,
        typeIn ((s.namespaces source).foldl Name.join home) ((s.node.heading? source).toList ++ hs)⟩ := by
  have htypes : typeIn ((s.namespaces source).foldl Name.join home) hs = typeIn home hs := by
    by_cases hne : hs = []
    · rw [hne, typeIn, typeIn]
    · rw [h hne, List.foldl_nil]
  by_cases hnamespace : s.node.sort = .opened ∨ s.node.sort = .block
  · -- a namespace stands in no type
    have hnames : s.namespaces source =
        (s.before.filter (·.sort == .opened)).map (nameOf source) ++ [nameOf source s.node] := by
      rw [Step.namespaces, if_pos hnamespace]
    have hhs : hs = [] := by
      by_contra hne
      rw [h hne] at hnames
      exact absurd hnames.symm (List.concat_ne_nil _ _)
    rw [hhs, hnames, List.foldl_append, List.foldl_cons, List.foldl_nil, ← homeAfterAll_eq]
    rcases hnamespace with hsort | hsort <;> simp [Setting.enter, Node.heading?, hsort, typeIn]
  · have hnames : s.namespaces source = (s.before.filter (·.sort == .opened)).map (nameOf source) := by
      rw [Step.namespaces, if_neg hnamespace, List.append_nil]
    rw [hnames, ← homeAfterAll_eq] at htypes ⊢
    unfold Setting.enter Node.heading?
    cases hsort : s.node.sort with
    | opened => exact absurd (.inl hsort) hnamespace
    | block => exact absurd (.inr hsort) hnamespace
    | type kind => exact congrArg _ (by rw [← htypes]; rfl)
    | _ => exact congrArg _ htypes.symm

/-- What is passed inside of a type leads into no namespace. -/
def Separate (source : Source) (t s : Step) : Prop :=
  (t.node.heading? source).isSome → s.namespaces source = []

/-- The setting after some steps, from the headings and the namespaces that are passed. -/
lemma foldl_enter_typeIn (hsteps : steps.Pairwise (Separate source))
    (hhs : hs ≠ [] → ∀ s ∈ steps, s.namespaces source = []) :
    steps.foldl (Setting.enter source) ⟨home, typeIn home hs⟩ =
      ⟨(steps.flatMap (Step.namespaces source)).foldl Name.join home,
        typeIn ((steps.flatMap (Step.namespaces source)).foldl Name.join home)
          ((steps.filterMap fun s => s.node.heading? source).reverse ++ hs)⟩ := by
  induction steps generalizing home hs with
  | nil => rfl
  | cons s steps ih =>
    obtain ⟨hs', hsteps⟩ := List.pairwise_cons.1 hsteps
    have hheadings : ((s :: steps).filterMap fun s => s.node.heading? source).reverse ++ hs =
        (steps.filterMap fun s => s.node.heading? source).reverse ++ ((s.node.heading? source).toList ++ hs) := by
      cases hheading : s.node.heading? source <;> simp [hheading]
    rw [List.foldl_cons, enter_typeIn fun hne => hhs hne s List.mem_cons_self, ih hsteps, List.flatMap_cons,
      List.foldl_append, hheadings]
    intro hne t ht
    cases hheading : s.node.heading? source with
    | some h => exact hs' t ht (by rw [hheading]; rfl)
    | none =>
      rw [hheading] at hne
      exact hhs hne t (List.mem_cons_of_mem _ ht)

/-- A site keeps the steps of its descent in their order. -/
lemma steps_sublist (h : Descent.site? source d = some x) : x.steps.Sublist d := by
  fun_induction Descent.site? source d generalizing x with
  | case1 => cases h
  | case2 s =>
    obtain rfl := Option.some.inj h
    exact List.Sublist.refl _
  | case3 s t rest hpassage ih =>
    obtain ⟨y, hy, rfl⟩ := Option.map_eq_some_iff.1 h
    exact (ih hy).cons_cons s
  | case4 s t rest hpassage hbody ih =>
    obtain ⟨y, hy, rfl⟩ := Option.map_eq_some_iff.1 h
    exact ((ih hy).cons t).cons_cons s
  | case5 => cases h
  | case6 => cases h

/-- Only a namespace without a body opens the rest of its siblings. -/
lemma sort_eq_opened_iff : n.sort = .opened ↔ n.kind = .fileScopedNamespace := by
  unfold Node.sort declaredKind?
  cases n.kind <;> simp

/-- Only a namespace with a body is a block. -/
lemma sort_eq_block_iff : n.sort = .block ↔ n.kind = .namespaceDeclaration := by
  unfold Node.sort declaredKind?
  cases n.kind <;> simp

/-- A node with the heading of a type declares one. -/
lemma isSome_declaredKind? (h : (n.heading? source).isSome) : (declaredKind? n).isSome := by
  unfold Node.heading? Node.sort at h
  unfold declaredKind? at h ⊢
  cases hkind : n.kind <;> simp_all

/-- Where no namespace is declared inside a type, what is passed inside of a type leads into no namespace. -/
lemma separate_of_nested (houtside : n.NamespacesOutside) (hd : Descent.Nested n d) : d.Pairwise (Separate source) := by
  obtain ⟨hunder, hpairwise⟩ := hd
  refine hpairwise.imp_of_mem ?_
  intro t s ht _ hs htype
  have hnone := houtside t.node (hunder t ht).1 (isSome_declaredKind? htype)
  have hbefore : s.before.filter (·.sort == .opened) = [] := by
    rw [List.filter_eq_nil_iff]
    intro m hm hsort
    exact (hnone m (hs.2 m hm)).2 (sort_eq_opened_iff.1 (beq_iff_eq.1 hsort))
  rw [Step.namespaces, hbefore, if_neg]
  · rfl
  · rintro (hsort | hsort)
    · exact (hnone s.node hs.1).2 (sort_eq_opened_iff.1 hsort)
    · exact (hnone s.node hs.1).1 (sort_eq_block_iff.1 hsort)

/-! ## The record of a site -/

/-- The property at a site, with the types and the namespace around it. -/
def Site.record? (path : String) (source : Source) (x : Site) : Option PropertyEntry :=
  if x.last.node.sort = .property then
    (typeIn (x.home source) (x.types source)).bind (property? path source (x.home source) · x.last.node)
  else none

/-- Where namespaces and types do not interleave, the entry of a site is the record that is read off its steps. -/
lemma entry?_eq_record? (hseparate : x.steps.Pairwise (Separate source)) :
    Site.entry? path source ⟨"", none⟩ x = x.record? path source := by
  obtain ⟨haround, -, hlast⟩ := List.pairwise_append.1 hseparate
  have hinner : x.around.foldl (Setting.enter source) ⟨"", none⟩ = _ :=
    @foldl_enter_typeIn source "" [] x.around haround fun hne => absurd rfl hne
  rw [Site.entry?, Site.record?, hinner]
  split
  case isTrue hsort =>
    have hnames : x.last.namespaces source = (x.last.before.filter (·.sort == .opened)).map (nameOf source) := by
      rw [Step.namespaces, hsort, if_neg (by simp), List.append_nil]
    have hhome : x.home source = homeAfterAll source
        ((x.around.flatMap (Step.namespaces source)).foldl Name.join "") x.last.before := by
      rw [homeAfterAll_eq, ← hnames, ← List.foldl_append, Site.home, Site.steps, List.flatMap_append,
        List.flatMap_singleton]
    have htypes : typeIn (x.home source) (x.types source) =
        typeIn ((x.around.flatMap (Step.namespaces source)).foldl Name.join "") (x.types source) := by
      by_cases hnone : x.types source = []
      · rw [hnone, typeIn, typeIn]
      · -- inside of a type nothing leads into a namespace any more
        obtain ⟨h, hh⟩ := List.exists_mem_of_ne_nil _ hnone
        obtain ⟨t, ht, hheading⟩ := List.mem_filterMap.1 (List.mem_reverse.1 hh)
        have hempty := hlast t ht x.last (List.mem_singleton.2 rfl) (by rw [hheading]; rfl)
        rw [hhome, homeAfterAll_eq, ← hnames, hempty, List.foldl_nil]
    rw [List.append_nil, htypes, ← hhome]
    rfl
  case isFalse => rfl

/-- A type with the given headings, from the inside out, all of it in one namespace. -/
structure EnclosedBy (home : String) (hs : List TypeHeading) (t : TypeSymbol) : Prop where
  headings : t.withOuter.map TypeSymbol.heading = hs
  homes : ∀ u ∈ t.withOuter, u.home = home
  outermost : ∀ u ∈ t.withOuter.getLast?, u.isTopLevel = true
  topLevel : t.isTopLevel = true ↔ hs.length = 1

/-- A nested type has the outermost type of the one around it. -/
lemma getLast?_withOuter_nested (h : TypeHeading) (home : String) (t : TypeSymbol) :
    (TypeSymbol.nested h home t).withOuter.getLast? = t.withOuter.getLast? := by
  cases t with
  | inNamespace => rfl
  | nested => exact List.getLast?_cons_cons

/-- A type that is made of headings is enclosed by the types of these headings. -/
lemma enclosedBy_of_typeIn {t : TypeSymbol} (h : typeIn home hs = some t) : EnclosedBy home hs t := by
  induction hs generalizing t with
  | nil => cases h
  | cons heading hs ih =>
    obtain rfl := Option.some.inj h
    cases hs with
    | nil =>
      refine ⟨rfl, ?_, ?_, ?_⟩
      · exact List.forall_mem_singleton.2 rfl
      · rintro u ⟨⟩
        exact beq_self_eq_true home
      · exact iff_of_true (beq_self_eq_true home) rfl
    | cons outer hs =>
      obtain ⟨hheadings, hhomes, houtermost, -⟩ := ih rfl
      refine ⟨congrArg (heading :: ·) hheadings, ?_, ?_, ?_⟩
      · exact List.forall_mem_cons.2 ⟨rfl, hhomes⟩
      · intro u hu
        refine houtermost u ?_
        rw [← getLast?_withOuter_nested heading home]
        exact hu
      · exact iff_of_false Bool.false_ne_true (by simp)

/-! ## Types that are known -/

/-- The types around each property of an outline are around the outline already or are declared in it. -/
def OwnersDeclared (outer : Option TypeSymbol) (items : List Item) : Prop :=
  ∀ e ∈ entriesIn items, ∀ t ∈ e.owner.withOuter,
    (∃ o ∈ outer, t ∈ o.withOuter) ∨
      ∃ entry ∈ typesIn items, entry.fullName = t.displayName ∧ entry.arity = t.arity

namespace OwnersDeclared

variable {outer : Option TypeSymbol} {items items' : List Item}

/-- An outline without properties has no owner to declare. -/
lemma of_entries (h : entriesIn items = []) : OwnersDeclared outer items := by
  intro e he
  rw [h] at he
  cases he

/-- Owners that need no outer type are declared within any. -/
lemma of_none (h : OwnersDeclared none items) : OwnersDeclared outer items := by
  intro e he t ht
  rcases h e he t ht with ⟨o, ho, -⟩ | hdeclared
  · cases ho
  · exact .inr hdeclared

/-- Outlines may be put one after the other. -/
lemma append (h : OwnersDeclared outer items) (h' : OwnersDeclared outer items') :
    OwnersDeclared outer (items ++ items') := by
  intro e he t ht
  rw [entriesIn_append, List.mem_append] at he
  rw [typesIn_append]
  rcases he with he | he
  · rcases h e he t ht with houter | ⟨entry, hentry, hsame⟩
    · exact .inl houter
    · exact .inr ⟨entry, List.mem_append_left _ hentry, hsame⟩
  · rcases h' e he t ht with houter | ⟨entry, hentry, hsame⟩
    · exact .inl houter
    · exact .inr ⟨entry, List.mem_append_right _ hentry, hsame⟩

/-- A block keeps the owners inside of it, and no type reaches into it. -/
lemma block (h : OwnersDeclared none items) : OwnersDeclared outer [.block items] := by
  intro e he t ht
  simp only [entriesIn, List.append_nil] at he
  simp only [typesIn, List.append_nil]
  exact h.of_none e he t ht

/-- A type is declared in front of what it encloses. -/
lemma cons_type {heading : TypeHeading} {kind : TypeKind}
    (h : OwnersDeclared (some (typeSymbol heading home outer)) items) :
    OwnersDeclared outer
      (.type ⟨(typeSymbol heading home outer).displayName, heading.parameters.length, kind⟩ :: items) := by
  intro e he t ht
  rw [entriesIn] at he
  rw [typesIn]
  rcases h e he t ht with ⟨o, ho, hto⟩ | ⟨entry, hentry, hsame⟩
  · obtain rfl := Option.some.inj ho
    cases outer with
    | none =>
      obtain rfl := List.mem_singleton.1 hto
      exact .inr ⟨_, List.mem_cons_self, rfl, rfl⟩
    | some o =>
      rcases List.mem_cons.1 hto with rfl | hto
      · exact .inr ⟨_, List.mem_cons_self, rfl, rfl⟩
      · exact .inl ⟨o, rfl, hto⟩
  · exact .inr ⟨entry, List.mem_cons_of_mem _ hentry, hsame⟩

/-- One node: if the outlines of its inside and of its body declare their owners, so does its own. -/
lemma outlineNode (hinside : ∀ home owner, OwnersDeclared owner (outline path source home owner n))
    (hbody : ∀ home owner, OwnersDeclared owner (outlineBody path source home owner n)) (home : String)
    (owner : Option TypeSymbol) : OwnersDeclared owner (outlineNode path source home owner n) := by
  unfold CSharp.outlineNode
  cases n.sort with
  | opened => exact (hinside _ none).of_none
  | block => exact (hbody _ none).block
  | members => exact hinside home owner
  | type kind =>
    dsimp only
    split
    · exact of_entries (by rw [entriesIn])
    · exact (hbody home _).cons_type
  | property =>
    intro e he t ht
    dsimp only at he
    rw [entriesIn_map_property, Option.mem_toList] at he
    obtain ⟨o, ho, hproperty⟩ := Option.bind_eq_some_iff.1 he
    obtain ⟨name, -, rfl⟩ := Option.map_eq_some_iff.1 hproperty
    exact .inl ⟨o, ho, ht⟩
  | directive => exact of_entries (entriesIn_using? source n)
  | enumeration => exact of_entries (entriesIn_plainType? source _ _ _ _ n)
  | delegate => exact of_entries (entriesIn_plainType? source _ _ _ _ n)
  | ignored => exact of_entries (by rw [entriesIn])

/-- A list of nodes: the owners of each are declared. -/
lemma outlineAll (h : ∀ n ∈ ns, ∀ home owner, OwnersDeclared owner (CSharp.outlineNode path source home owner n))
    (home : String) (owner : Option TypeSymbol) : OwnersDeclared owner (outlineAll path source home owner ns) := by
  induction ns generalizing home with
  | nil => exact of_entries (by rw [outlineAll_nil, entriesIn])
  | cons n ns ih =>
    obtain ⟨hn, hns⟩ := List.forall_mem_cons.1 h
    rw [outlineAll_cons]
    exact (hn home owner).append (ih hns _)

/-- Every outline of a node declares the owners of its properties, and so does that of its body. -/
lemma outline (n : Node) : (∀ home owner, OwnersDeclared owner (outline path source home owner n)) ∧
    ∀ home owner, OwnersDeclared owner (outlineBody path source home owner n) := by
  induction n using Node.induction with
  | node n ih =>
    constructor
    · intro home owner
      rw [outline_eq]
      exact outlineAll (fun c hc => outlineNode (ih c hc).1 (ih c hc).2) home owner
    · intro home owner
      rw [outlineBody_eq, outlineFirstBody_eq]
      cases hfind : n.children.find? (·.role == .body) with
      | none => exact of_entries (by simp [entriesIn])
      | some b =>
        rw [Option.toList_some, List.flatMap_singleton]
        exact (ih b (List.mem_of_find?_eq_some hfind)).1 home owner

end OwnersDeclared

/-! ## Programs -/

/-- The site is that of a property declaration with a name in at least one type. -/
def Site.isProperty (source : Source) (x : Site) : Bool :=
  x.last.node.sort == .property && (x.last.node.child? .name).isSome && !(x.types source).isEmpty

/-- The sites of the properties in a file, in the order of the document. -/
def File.propertySites (f : File) : List Site :=
  (f.root.descents.filterMap (Descent.site? f.source)).filter (Site.isProperty f.source)

/-- A property is recorded as it stands at a site: in the namespace there, under the types around it, all of which the
program knows. -/
structure RecordedAt (p : Compilation) (f : File) (x : Site) (e : PropertyEntry) : Prop where
  record : property? f.path f.source e.home e.owner x.last.node = some e
  home : e.home = x.home f.source
  enclosed : EnclosedBy e.home (x.types f.source) e.owner
  known : ∀ t ∈ e.owner.withOuter, p.declares t.arity t.displayName = true

/-- There is a type as soon as there is a heading. -/
lemma isSome_typeIn : (typeIn home hs).isSome = !hs.isEmpty := by
  cases hs <;> rfl

/-- Exactly the properties have a record. -/
lemma isSome_record? : (x.record? path source).isSome = x.isProperty source := by
  unfold Site.record? Site.isProperty
  split
  case isTrue hsort =>
    have htypes : (typeIn (x.home source) (x.types source)).isSome = !(x.types source).isEmpty := isSome_typeIn
    rw [hsort, ← htypes]
    cases typeIn (x.home source) (x.types source) with
    | none => simp
    | some t => simp [property?]
  case isFalse hsort =>
    rw [beq_false_of_ne hsort]
    rfl

/-- The values that are kept stand in the order of the members that have one. -/
lemma forall₂_filterMap {α β : Type} (g : α → Option β) (l : List α) :
    List.Forall₂ (fun a b => g a = some b) (l.filter fun a => (g a).isSome) (l.filterMap g) := by
  induction l with
  | nil => exact .nil
  | cons a l ih =>
    cases hg : g a with
    | none =>
      rw [List.filterMap_cons_none hg, List.filter_cons_of_neg (by simp [hg])]
      exact ih
    | some b =>
      rw [List.filterMap_cons_some hg, List.filter_cons_of_pos (by simp [hg])]
      exact .cons hg ih

variable {f : File} {files : List File}

/-- The properties in the outline of a file are the records of its sites. -/
lemma entriesIn_outline_file (houtside : f.root.NamespacesOutside) : entriesIn f.outline =
    (f.root.descents.filterMap (Descent.site? f.source)).filterMap (Site.record? f.path f.source) := by
  have hrecorded : entriesIn f.outline = recorded f.path f.source ⟨"", none⟩ (Descent.site? f.source) f.root.descents :=
    (recorded_outline f.root).1 ⟨"", none⟩
  refine hrecorded.trans (List.filterMap_congr ?_)
  intro x hx
  obtain ⟨d, hd, hsite⟩ := List.mem_filterMap.1 hx
  have hseparate : d.Pairwise (Separate f.source) := separate_of_nested houtside (nested_of_mem_descents hd)
  exact entry?_eq_record? (hseparate.sublist (steps_sublist hsite))

/-- What is declared in a file is known to the program. -/
lemma declares_of_mem_typesIn {entry : TypeEntry} (hf : f ∈ files) (hentry : entry ∈ typesIn f.outline) :
    (Compilation.ofFiles files).declares entry.arity entry.fullName = true := by
  rw [Compilation.declares, Compilation.kind?, Compilation.types_ofFiles, Option.isSome_map, List.find?_isSome]
  refine ⟨entry, ?_, by simp⟩
  rw [List.mem_reverse, List.mem_append, List.mem_flatMap]
  exact .inr ⟨f, (byPath_perm files).mem_iff.2 hf, hentry⟩

/-- A property of a program whose entry is the record of a site is recorded at that site. -/
lemma recordedAt_of_record? {e : PropertyEntry} (hf : f ∈ files) (he : e ∈ entriesIn f.outline)
    (hrecord : x.record? f.path f.source = some e) : RecordedAt (Compilation.ofFiles files) f x e := by
  unfold Site.record? at hrecord
  split at hrecord
  case isTrue =>
    obtain ⟨t, ht, hproperty⟩ := Option.bind_eq_some_iff.1 hrecord
    obtain ⟨name, hname, heq⟩ := Option.map_eq_some_iff.1 hproperty
    have hhome : e.home = x.home f.source := by rw [← heq]
    have howner : e.owner = t := by rw [← heq]
    refine ⟨?_, hhome, ?_, ?_⟩
    · rw [hhome, howner]
      exact hproperty
    · rw [hhome, howner]
      exact enclosedBy_of_typeIn ht
    · intro u hu
      rcases (OwnersDeclared.outline f.root).1 "" none e he u hu with ⟨o, ho, -⟩ | ⟨entry, hentry, hname, harity⟩
      · cases ho
      · rw [← hname, ← harity]
        exact declares_of_mem_typesIn hf hentry
  case isFalse => cases hrecord

/-- The properties of a file are recorded at its property sites, in order. -/
lemma recordedAt_file (hf : f ∈ files) (houtside : f.root.NamespacesOutside) :
    List.Forall₂ (fun x here => RecordedAt (Compilation.ofFiles files) f x here.entry) f.propertySites
      f.properties := by
  have hentries : f.properties.map Property.entry = entriesIn f.outline := map_entry_propertiesIn _ _ f.outline
  have hrecords := forall₂_filterMap (Site.record? f.path f.source)
    (f.root.descents.filterMap (Descent.site? f.source))
  simp only [isSome_record?, ← entriesIn_outline_file houtside, ← hentries] at hrecords
  rw [List.forall₂_map_right_iff] at hrecords
  have hmem : ∀ x ∈ f.propertySites, x ∈ f.root.descents.filterMap (Descent.site? f.source) :=
    fun x hx => List.mem_of_mem_filter hx
  refine ((List.forall₂_and_left _ _).2 ⟨hmem, hrecords⟩).imp ?_
  rintro x here ⟨hx, hrecord⟩
  refine recordedAt_of_record? hf ?_ hrecord
  rw [entriesIn_outline_file houtside]
  exact List.mem_filterMap.2 ⟨x, hx, hrecord⟩

/-- The properties of a program are recorded one by one at their sites, over the files in the order of their paths and
within a file in the order of the document.  The namespace of a property is that of the namespaces which enclose its site
or stand in front of it on the way, its owner is the innermost type around it, the types around that are those of the
tree, all of them are in that namespace and are known, and the owner is declared directly in the namespace exactly if it
is the only type around the property. -/
theorem properties_at_sites (houtside : ∀ f ∈ files, f.root.NamespacesOutside) :
    List.Forall₂ (fun (place : File × Site) here => RecordedAt (Compilation.ofFiles files) place.1 place.2 here.entry)
      ((byPath files).flatMap fun f => f.propertySites.map (f, ·)) (Compilation.ofFiles files).properties := by
  rw [Compilation.properties_ofFiles]
  have hfiles : ∀ f ∈ byPath files, List.Forall₂ (fun x here => RecordedAt (Compilation.ofFiles files) f x here.entry)
      f.propertySites f.properties := by
    intro f hf
    have hmem := (byPath_perm files).mem_iff.1 hf
    exact recordedAt_file hmem (houtside f hmem)
  generalize byPath files = l at hfiles
  induction l with
  | nil => exact .nil
  | cons f l ih =>
    obtain ⟨hf, hl⟩ := List.forall_mem_cons.1 hfiles
    rw [List.flatMap_cons, List.flatMap_cons]
    exact List.rel_append (List.forall₂_map_left_iff.2 hf) (ih hl)

/-! ## A property in two types and two namespaces -/

/-- The text from which the nodes below take their names. -/
def nestedSource : Source :=
  Text.Utf8.encodeText "M N C D P"

/-- The property `P`. -/
def nestedProperty : Node :=
  .mk .propertyDeclaration .other true 8 9
    [.mk .predefinedType .type true 8 9 [], .mk .identifier .name true 8 9 []]

/-- The class `D` with the property. -/
def innerClass : Node :=
  .mk .classDeclaration .other true 6 9
    [.mk .identifier .name true 6 7 [], .mk .declarationList .body true 8 9 [nestedProperty]]

/-- The class `C` with the class `D`. -/
def outerClass : Node :=
  .mk .classDeclaration .other true 4 9
    [.mk .identifier .name true 4 5 [], .mk .declarationList .body true 6 9 [innerClass]]

/-- The directive `namespace M;`. -/
def openedNamespace : Node :=
  .mk .fileScopedNamespace .other true 0 1 [.mk .identifier .name true 0 1 []]

/-- The namespace `N` with the classes. -/
def nestedNamespace : Node :=
  .mk .namespaceDeclaration .other true 2 9
    [.mk .identifier .name true 2 3 [], .mk .declarationList .body true 4 9 [outerClass]]

/-- The file: a property in a type in another, in a namespace inside of one without a body. -/
def nestedFile : File where
  path := "A.cs"
  source := nestedSource
  root := .mk .compilationUnit .other true 0 9 [openedNamespace, nestedNamespace]

/-- The site of its property. -/
def nestedSite : Site where
  around := [⟨[openedNamespace], nestedNamespace⟩, ⟨[], outerClass⟩, ⟨[], innerClass⟩]
  last := ⟨[], nestedProperty⟩

/-- No namespace of it is inside of a type. -/
lemma namespacesOutside_nestedFile : nestedFile.root.NamespacesOutside := by
  unfold Node.NamespacesOutside
  decide

/-- It has one property site, with two namespaces around it from the outside in and two types from the inside out. -/
lemma propertySites_nestedFile : nestedFile.propertySites = [nestedSite] ∧ nestedSite.home nestedSource = "M.N" ∧
    nestedSite.types nestedSource = [⟨"D", "class", []⟩, ⟨"C", "class", []⟩] := by
  decide +kernel

/-- The property is recorded in the namespace `M.N` under the class `D` in the class `C`, and both are known. -/
theorem properties_at_sites_nested :
    nestedFile.root.NamespacesOutside ∧ nestedFile.propertySites = [nestedSite] ∧
    ∃ here, (Compilation.ofFiles [nestedFile]).properties = [here] ∧ here.entry.home = "M.N" ∧
      here.entry.owner.withOuter.map TypeSymbol.heading = [⟨"D", "class", []⟩, ⟨"C", "class", []⟩] ∧
      (∀ t ∈ here.entry.owner.withOuter, t.home = "M.N") ∧ here.entry.owner.isTopLevel = false ∧
      ∀ t ∈ here.entry.owner.withOuter, (Compilation.ofFiles [nestedFile]).declares t.arity t.displayName = true := by
  obtain ⟨hsites, hnamespaces, htypes⟩ := propertySites_nestedFile
  have hrecorded := properties_at_sites (List.forall_mem_singleton.2 namespacesOutside_nestedFile)
  rw [byPath, List.mergeSort_singleton, List.flatMap_singleton, hsites, List.map_singleton,
    List.forall₂_cons_left_iff] at hrecorded
  obtain ⟨here, rest, ⟨-, hhome, henclosed, hknown⟩, hrest, heq⟩ := hrecorded
  rw [List.forall₂_nil_left_iff] at hrest
  rw [hrest] at heq
  have hhome' : here.entry.home = "M.N" := hhome.trans hnamespaces
  have hheadings := henclosed.headings.trans htypes
  have hnested : ¬ here.entry.owner.isTopLevel = true := by
    intro htop
    have hlength := henclosed.topLevel.1 htop
    rw [← henclosed.headings, hheadings] at hlength
    cases hlength
  refine ⟨namespacesOutside_nestedFile, hsites, here, heq, hhome', hheadings, ?_,
    Bool.eq_false_iff.2 hnested, hknown⟩
  rw [← hhome']
  exact henclosed.homes

end PropertyQuote.CSharp
