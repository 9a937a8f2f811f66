import Mathlib.Data.List.Nodup
import PropertyQuote.Proofs.CSharp.Resolution
import PropertyQuote.Proofs.CSharp.Trimming
import PropertyQuote.Proofs.CSharp.Visits

/-!
# The scope of a using directive

A using directive without the word `global` acts in the body of the innermost namespace around it, or in its file.  To
take it out of the tree changes nothing elsewhere: the types stay, the properties stay in their order, and those outside
of the scope keep their symbols.

* `SameOutside`: properties that are the same but for those in a scope.
* `Narrowed`: what the outline loses with a directive.
* `resolve?_of_outside`: the symbols of properties outside of the scope.
-/

namespace PropertyQuote.CSharp

variable {path : String} {source : Source} {n : Node} {ns : List Node} {i : Nat} {s : List Nat}
  {scope : Option (List Nat)} {places places' : List (List Nat)} {items items' : List Item}

/-! ## Properties outside of a scope -/

/-- Properties that stand, one by one, at the given places, and are the same but for those in the scope. -/
inductive SameOutside (s : List Nat) : List (List Nat) → List Property → List Property → Prop
  | nil : SameOutside s [] [] []
  | same {place : List Nat} {here : Property} {places : List (List Nat)} {ps ps' : List Property} :
    SameOutside s places ps ps' → SameOutside s (place :: places) (here :: ps) (here :: ps')
  | inside {place : List Nat} {here here' : Property} {places : List (List Nat)} {ps ps' : List Property} :
    s <+: place → SameOutside s places ps ps' → SameOutside s (place :: places) (here :: ps) (here' :: ps')

namespace SameOutside

variable {ps ps' qs qs' : List Property}

/-- Properties are the same as themselves, wherever they stand. -/
lemma refl (h : places.length = ps.length) : SameOutside s places ps ps := by
  induction places generalizing ps with
  | nil =>
    rw [List.length_nil, eq_comm, List.length_eq_zero_iff] at h
    rw [h]
    exact .nil
  | cons place places ih =>
    cases ps with
    | nil => cases h
    | cons here ps => exact .same (ih (Nat.succ.inj h))

/-- Where all places are in the scope, nothing is said but that there is a property at each. -/
lemma of_forall (hin : ∀ place ∈ places, s <+: place) (h : places.length = ps.length)
    (h' : places.length = ps'.length) : SameOutside s places ps ps' := by
  induction places generalizing ps ps' with
  | nil =>
    rw [List.length_nil, eq_comm, List.length_eq_zero_iff] at h h'
    rw [h, h']
    exact .nil
  | cons place places ih =>
    obtain ⟨hplace, hplaces⟩ := List.forall_mem_cons.1 hin
    cases ps with
    | nil => cases h
    | cons here ps =>
      cases ps' with
      | nil => cases h'
      | cons here' ps' => exact .inside hplace (ih hplaces (Nat.succ.inj h) (Nat.succ.inj h'))

/-- Places that follow each other are compared one after the other. -/
lemma append (h : SameOutside s places ps ps') (h' : SameOutside s places' qs qs') :
    SameOutside s (places ++ places') (ps ++ qs) (ps' ++ qs') := by
  induction h with
  | nil => exact h'
  | same _ ih => exact .same ih
  | inside hplace _ ih => exact .inside hplace ih

/-- Seen from further outside, every place and every scope begins with one more index. -/
lemma under (h : SameOutside s places ps ps') (i : Nat) :
    SameOutside (i :: s) (places.map (i :: ·)) ps ps' := by
  induction h with
  | nil => exact .nil
  | same _ ih => exact .same ih
  | inside hplace _ ih => exact .inside (List.cons_prefix_cons.2 ⟨rfl, hplace⟩) ih

/-- A property that stands outside of the scope is the same. -/
lemma getElem?_eq {place : List Nat} {k : Nat} (h : SameOutside s places ps ps') (hk : places[k]? = some place)
    (hout : ¬ s <+: place) : ps'[k]? = ps[k]? := by
  induction h generalizing k with
  | nil => rfl
  | same _ ih =>
    cases k with
    | zero => rfl
    | succ k => exact ih hk
  | inside hplace _ ih =>
    cases k with
    | zero =>
      obtain rfl := Option.some.inj hk
      exact absurd hplace hout
    | succ k => exact ih hk

end SameOutside

/-! ## What an outline loses with a directive -/

/-- An outline loses a directive with the given scope, and its properties stand at the given places.  Without a scope
the directive acts on the whole outline and on what is around it. -/
structure Narrowed (scope : Option (List Nat)) (places : List (List Nat)) (items items' : List Item) : Prop where
  types : typesIn items' = typesIn items
  globals : globalsIn items' = globalsIn items
  entries : entriesIn items' = entriesIn items
  after : scope ≠ none → ∀ t : Scope, t.after items' = t.after items
  outside : ∀ s, scope = some s → ∀ final current,
    SameOutside s places (propertiesIn final current items) (propertiesIn final current items')

namespace Narrowed

variable {more : List Item}

/-- What comes before a narrowed outline stays as it is. -/
lemma append_left (h : Narrowed scope places items items') (hmore : places'.length = (entriesIn more).length) :
    Narrowed scope (places' ++ places) (more ++ items) (more ++ items') := by
  refine ⟨?_, ?_, ?_, ?_, ?_⟩
  · rw [typesIn_append, typesIn_append, h.types]
  · rw [globalsIn_append, globalsIn_append, h.globals]
  · rw [entriesIn_append, entriesIn_append, h.entries]
  · intro hscope t
    rw [Scope.after_append, Scope.after_append, h.after hscope]
  · intro s hs final current
    rw [propertiesIn_append, propertiesIn_append]
    refine (SameOutside.refl ?_).append (h.outside s hs final _)
    rw [hmore, length_propertiesIn]

/-- What comes after a narrowed outline stays as it is, unless the directive has no scope. -/
lemma append_right (h : Narrowed scope places items items') (hmore : places'.length = (entriesIn more).length) :
    Narrowed scope (places ++ places') (items ++ more) (items' ++ more) := by
  refine ⟨?_, ?_, ?_, ?_, ?_⟩
  · rw [typesIn_append, typesIn_append, h.types]
  · rw [globalsIn_append, globalsIn_append, h.globals]
  · rw [entriesIn_append, entriesIn_append, h.entries]
  · intro hscope t
    rw [Scope.after_append, Scope.after_append, h.after hscope]
  · intro s hs final current
    -- what follows is in the same scope only if the directive has no namespace around it
    have hscope : scope ≠ none := by
      rw [hs]
      exact Option.some_ne_none s
    rw [propertiesIn_append, propertiesIn_append, h.after hscope]
    refine (h.outside s hs final current).append (SameOutside.refl ?_)
    rw [hmore, length_propertiesIn]

/-- A type in front changes nothing. -/
lemma cons_type (h : Narrowed scope places items items') (t : TypeEntry) :
    Narrowed scope places (.type t :: items) (.type t :: items') := by
  refine ⟨?_, ?_, ?_, ?_, ?_⟩
  · simp only [typesIn, h.types]
  · simp only [globalsIn, h.globals]
  · simp only [entriesIn, h.entries]
  · intro hscope s
    simp only [Scope.after, h.after hscope]
  · intro s hs final current
    simp only [propertiesIn]
    exact h.outside s hs final current

/-- Seen from further outside, every place and every scope begins with one more index. -/
lemma under (h : Narrowed scope places items items') (i : Nat) :
    Narrowed (scope.map (i :: ·)) (places.map (i :: ·)) items items' := by
  refine ⟨h.types, h.globals, h.entries, ?_, ?_⟩
  · intro hscope
    exact h.after fun hnone => hscope (by rw [hnone]; rfl)
  · intro s hs final current
    obtain ⟨s, hscope, rfl⟩ := Option.map_eq_some_iff.1 hs
    exact (h.outside s hscope final current).under i

/-- A directive acts in the body of its namespace and nowhere around it. -/
lemma block (h : Narrowed scope places items items') (hplaces : places.length = (entriesIn items).length)
    (hin : scope = none → ∀ place ∈ places, s <+: place) :
    Narrowed (some (scope.getD s)) places [.block items] [.block items'] := by
  refine ⟨?_, ?_, ?_, ?_, ?_⟩
  · simp only [typesIn, h.types]
  · simp only [globalsIn, h.globals]
  · simp only [entriesIn, h.entries]
  · intro _ t
    simp only [Scope.after]
  · rintro _ ⟨⟩ final current
    simp only [propertiesIn, List.append_nil]
    -- with a scope further inside the body stays as it is, without one the whole body is the scope
    cases scope with
    | some s =>
      rw [h.after (Option.some_ne_none s)]
      exact h.outside s rfl _ _
    | none =>
      refine .of_forall (hin rfl) ?_ ?_
      · rw [hplaces, length_propertiesIn]
      · rw [hplaces, length_propertiesIn, h.entries]

end Narrowed

/-! ## Taking a directive out of the tree -/

/-- The places of the properties among some visits. -/
def sites (vs : List Visit) : List (List Nat) :=
  (vs.filter Visit.isProperty).map Visit.place

/-- The sites of visits that follow each other follow each other. -/
lemma sites_append (vs vs' : List Visit) : sites (vs ++ vs') = sites vs ++ sites vs' := by
  rw [sites, List.filter_append, List.map_append]
  rfl

/-- Seen from further outside, every site begins with one more index. -/
lemma sites_under (vs : List Visit) (i : Nat) : sites (vs.map (Visit.under i)) = (sites vs).map (i :: ·) := by
  rw [sites, sites, List.filter_map, List.map_map, List.map_map]
  rfl

/-- A body around some visits leaves their sites. -/
lemma sites_inBlock (vs : List Visit) : sites (vs.map Visit.inBlock) = sites vs := by
  rw [sites, sites, List.filter_map, List.map_map]
  rfl

/-- Each site is the place of one property of the outline. -/
lemma Located.length_sites {vs : List Visit} (h : Located path source vs items) :
    (sites vs).length = (entriesIn items).length := by
  rw [sites, List.length_map]
  exact h.length_eq

/-- The visit of a using directive in no role and without the word `global`. -/
structure Visit.IsDirective (v : Visit) : Prop where
  kind : v.node.kind = .usingDirective
  role : v.node.role = .other
  own : v.node.has .globalWord = false

/-- Without a directive that is visited below it, a node looks the same, and its outline is narrowed. -/
def Drops (source : Source) (visited : Bool → Node → List Visit)
    (outlined : String → Option TypeSymbol → Node → List Item) (n : Node) : Prop :=
  ∀ home owner, ∀ v ∈ visited owner.isSome n, v.IsDirective →
    v.place ≠ [] ∧ Trimmed source n.children (n.dropAt v.place).children ∧
      Narrowed v.scope (sites (visited owner.isSome n)) (outlined home owner n) (outlined home owner (n.dropAt v.place))

/-- The same for some nodes, the first of which has the given index. -/
def DropsIn (source : Source) (visited : Bool → Nat → List Node → List Visit)
    (outlined : String → Option TypeSymbol → List Node → List Item) (ns : List Node) : Prop :=
  ∀ i home owner, ∀ v ∈ visited owner.isSome i ns, v.IsDirective →
    ∃ j place, v.place = (i + j) :: place ∧ Trimmed source ns (dropIn j place ns) ∧
      Narrowed v.scope (sites (visited owner.isSome i ns)) (outlined home owner ns)
        (outlined home owner (dropIn j place ns))

/-- A node is what its children are: a directive is dropped from it if it is dropped from them. -/
lemma drops_of_children {visited : Bool → Node → List Visit} {visitedIn : Bool → Nat → List Node → List Visit}
    {outlined : String → Option TypeSymbol → Node → List Item}
    {outlinedIn : String → Option TypeSymbol → List Node → List Item}
    (hvisited : ∀ inType n, visited inType n = visitedIn inType 0 n.children)
    (houtlined : ∀ home owner n, outlined home owner n = outlinedIn home owner n.children)
    (h : DropsIn source visitedIn outlinedIn n.children) : Drops source visited outlined n := by
  intro home owner v hv hdirective
  rw [hvisited] at hv
  obtain ⟨j, place, hplace, htrimmed, hnarrowed⟩ := h 0 home owner v hv hdirective
  rw [Nat.zero_add] at hplace
  rw [houtlined, houtlined, hvisited, hplace, children_dropAt]
  exact ⟨List.cons_ne_nil _ _, htrimmed, hnarrowed⟩

/-- The node itself is no property if anything is visited inside of it. -/
lemma sites_cons_of_ne {inType : Bool} {vs : List Visit} (hne : n.sort ≠ .property) :
    sites (⟨[], none, inType, n⟩ :: vs) = sites vs := by
  have hnot : ¬ Visit.isProperty ⟨[], none, inType, n⟩ = true := by
    simp [Visit.isProperty, hne]
  rw [sites, List.filter_cons_of_neg hnot]
  rfl

/-- A step into a node keeps what is said about a directive inside of it. -/
lemma drops_outlineNode (hinside : Drops source (walk source) (outline path source) n)
    (hbody : Drops source (walkBody source) (outlineBody path source) n) :
    Drops source (walkInside source) (outlineNode path source) n := by
  intro home owner v hv hdirective
  unfold walkInside at hv ⊢
  cases hsort : n.sort with
  | opened =>
    rw [hsort] at hv
    obtain ⟨hplace, htrimmed, hnarrowed⟩ := hinside (Name.join home (nameOf source n)) none v hv hdirective
    refine ⟨hplace, htrimmed, ?_⟩
    rw [outlineNode, outlineNode, htrimmed.sort_eq (fields_dropAt _ n).1, htrimmed.nameOf_eq, hsort]
    exact hnarrowed
  | members =>
    rw [hsort] at hv
    obtain ⟨hplace, htrimmed, hnarrowed⟩ := hinside home owner v hv hdirective
    refine ⟨hplace, htrimmed, ?_⟩
    rw [outlineNode, outlineNode, htrimmed.sort_eq (fields_dropAt _ n).1, hsort]
    exact hnarrowed
  | block =>
    rw [hsort] at hv
    obtain ⟨w, hw, rfl⟩ := List.mem_map.1 hv
    obtain ⟨hplace, htrimmed, hnarrowed⟩ :=
      hbody (Name.join home (nameOf source n)) none w hw ⟨hdirective.kind, hdirective.role, hdirective.own⟩
    refine ⟨hplace, htrimmed, ?_⟩
    change Narrowed (some (w.scope.getD (w.place.take 1))) (sites ((walkBody source false n).map Visit.inBlock))
      (outlineNode path source home owner n) (outlineNode path source home owner (n.dropAt w.place))
    rw [outlineNode, outlineNode, htrimmed.sort_eq (fields_dropAt _ n).1, htrimmed.nameOf_eq, hsort, sites_inBlock]
    refine hnarrowed.block ((located_outline n).2 _ none).length_sites ?_
    -- without a namespace further inside, the scope is the whole body
    intro _ place hmem
    obtain ⟨x, hx, rfl⟩ := List.mem_map.1 hmem
    obtain ⟨j, hj⟩ := place_of_mem_walkFirstBody source false 0 n.children
    rw [← walkBody_eq] at hj
    obtain ⟨rest, hrest⟩ := hj w hw
    rw [← hrest]
    exact hj x (List.mem_of_mem_filter hx)
  | type kind =>
    rw [hsort] at hv
    dsimp only at hv ⊢
    split at hv
    case isTrue => cases hv
    case isFalse hname =>
      obtain ⟨hplace, htrimmed, hnarrowed⟩ := hbody home
        (some (typeSymbol ⟨nameOf source n, kind.word, typeParameters source n⟩ home owner)) v hv hdirective
      refine ⟨hplace, htrimmed, ?_⟩
      rw [outlineNode, outlineNode, htrimmed.sort_eq (fields_dropAt _ n).1, htrimmed.nameOf_eq,
        htrimmed.typeParameters_eq, hsort]
      dsimp only
      rw [if_neg hname, if_neg hname, if_neg hname]
      exact hnarrowed.cons_type _
  | directive =>
    rw [hsort] at hv
    cases hv
  | enumeration =>
    rw [hsort] at hv
    cases hv
  | delegate =>
    rw [hsort] at hv
    cases hv
  | property =>
    rw [hsort] at hv
    cases hv
  | ignored =>
    rw [hsort] at hv
    cases hv

/-- Nothing is visited inside of a property. -/
lemma walkInside_of_property {inType : Bool} (hsort : n.sort = .property) : walkInside source inType n = [] := by
  rw [walkInside, hsort]

/-- A directive that is visited is gone, and all other directives are still there. -/
lemma narrowed_using {v : Visit} (hdirective : v.IsDirective) (home : String) (owner : Option TypeSymbol)
    (rest : List Node) :
    Narrowed none places (outlineAll path source home owner (v.node :: rest))
      (outlineAll path source home owner rest) := by
  have hsort : v.node.sort = .directive := by
    unfold Node.sort
    rw [hdirective.kind]
  have houtline : outlineAll path source home owner (v.node :: rest) =
      (using? source v.node).toList ++ outlineAll path source home owner rest := by
    rw [outlineAll_cons, outlineNode, homeAfter, hsort]
    rfl
  have htypes : typesIn (using? source v.node).toList = [] := by
    unfold using?
    repeat' split
    all_goals simp [typesIn]
  have hglobals : globalsIn (using? source v.node).toList = [] := by
    unfold using?
    rw [hdirective.own]
    repeat' split
    all_goals simp [globalsIn]
  rw [houtline]
  refine ⟨?_, ?_, ?_, ?_, ?_⟩
  · rw [typesIn_append, htypes, List.nil_append]
  · rw [globalsIn_append, hglobals, List.nil_append]
  · rw [entriesIn_append, entriesIn_using?, List.nil_append]
  · exact fun hscope => absurd rfl hscope
  · intro s hs
    cases hs

/-- Nodes are taken one after the other, so what is said about each of them holds of them together. -/
lemma dropsIn_outlineAll (h : ∀ n ∈ ns, Drops source (walkInside source) (outlineNode path source) n) :
    DropsIn source (walkAll source) (outlineAll path source) ns := by
  induction ns with
  | nil =>
    intro i home owner v hv
    rw [walkAll_nil] at hv
    cases hv
  | cons n ns ih =>
    obtain ⟨hn, hns⟩ := List.forall_mem_cons.1 h
    intro i home owner v hv hdirective
    rw [walkAll_cons] at hv ⊢
    rcases List.mem_append.1 hv with hv | hv
    · obtain ⟨w, hw, rfl⟩ := List.mem_map.1 hv
      have hdirective' : w.IsDirective := ⟨hdirective.kind, hdirective.role, hdirective.own⟩
      rcases List.mem_cons.1 hw with rfl | hw
      · -- the node is the directive
        refine ⟨0, [], rfl, ?_, ?_⟩
        · rw [dropIn_zero_nil]
          exact .drop hdirective.kind hdirective.role
        · rw [dropIn_zero_nil]
          exact narrowed_using hdirective' home owner ns
      · -- the directive is inside of the node
        obtain ⟨hplace, htrimmed, hnarrowed⟩ := hn home owner w hw hdirective'
        have hne : n.sort ≠ .property := by
          intro hsort
          rw [walkInside_of_property hsort] at hw
          cases hw
        have hhome : homeAfter source home (n.dropAt w.place) = homeAfter source home n := by
          rw [homeAfter, homeAfter, htrimmed.sort_eq (fields_dropAt _ n).1, htrimmed.nameOf_eq]
        refine ⟨0, w.place, rfl, ?_, ?_⟩
        · rw [dropIn_zero_cons hplace]
          exact .change htrimmed.alike
        · rw [dropIn_zero_cons hplace, outlineAll_cons, outlineAll_cons, hhome, sites_append, sites_under,
            sites_cons_of_ne hne]
          refine (hnarrowed.under i).append_right ?_
          exact (located_outlineAll (fun c _ => located_node c) (i + 1) _ owner).length_sites
    · -- the directive comes after the node
      obtain ⟨j, place, hplace, htrimmed, hnarrowed⟩ :=
        ih hns (i + 1) (homeAfter source home n) owner v hv hdirective
      refine ⟨j + 1, place, ?_, ?_, ?_⟩
      · rw [hplace, Nat.add_right_comm, Nat.add_assoc]
      · rw [dropIn_succ]
        exact .skip htrimmed
      · rw [dropIn_succ, outlineAll_cons, outlineAll_cons, sites_append]
        exact hnarrowed.append_left ((located_node n home owner).under i).length_sites

/-- Only the first body is walked through, so a directive that is visited is in it. -/
lemma dropsIn_outlineFirstBody (h : ∀ n ∈ ns, Drops source (walk source) (outline path source) n) :
    DropsIn source (walkFirstBody source) (outlineFirstBody path source) ns := by
  induction ns with
  | nil =>
    intro i home owner v hv
    rw [walkFirstBody] at hv
    cases hv
  | cons n ns ih =>
    obtain ⟨hn, hns⟩ := List.forall_mem_cons.1 h
    intro i home owner v hv hdirective
    rw [walkFirstBody] at hv ⊢
    cases hrole : n.role == .body with
    | true =>
      rw [hrole, if_pos rfl] at hv
      obtain ⟨w, hw, rfl⟩ := List.mem_map.1 hv
      obtain ⟨hplace, htrimmed, hnarrowed⟩ :=
        hn home owner w hw ⟨hdirective.kind, hdirective.role, hdirective.own⟩
      refine ⟨0, w.place, rfl, ?_, ?_⟩
      · rw [dropIn_zero_cons hplace]
        exact .change htrimmed.alike
      · rw [dropIn_zero_cons hplace, outlineFirstBody, outlineFirstBody, (fields_dropAt w.place n).2.1, hrole,
          if_pos rfl, if_pos rfl, if_pos rfl, sites_under]
        exact hnarrowed.under i
    | false =>
      rw [hrole, if_neg Bool.false_ne_true] at hv
      obtain ⟨j, place, hplace, htrimmed, hnarrowed⟩ := ih hns (i + 1) home owner v hv hdirective
      refine ⟨j + 1, place, ?_, ?_, ?_⟩
      · rw [hplace, Nat.add_right_comm, Nat.add_assoc]
      · rw [dropIn_succ]
        exact .skip htrimmed
      · rw [dropIn_succ, outlineFirstBody, outlineFirstBody, hrole, if_neg Bool.false_ne_true,
          if_neg Bool.false_ne_true, if_neg Bool.false_ne_true]
        exact hnarrowed

/-- Without a directive that the walk visits, the outline of a tree is narrowed. -/
lemma drops_outline (n : Node) :
    Drops source (walk source) (outline path source) n ∧
      Drops source (walkBody source) (outlineBody path source) n := by
  induction n using Node.induction with
  | node n ih =>
    constructor
    · refine drops_of_children (fun _ _ => walk_eq) (fun _ _ _ => outline_eq) (dropsIn_outlineAll ?_)
      intro c hc
      exact drops_outlineNode (ih c hc).1 (ih c hc).2
    · refine drops_of_children (fun _ _ => walkBody_eq) (fun _ _ _ => outlineBody_eq) (dropsIn_outlineFirstBody ?_)
      exact fun c hc => (ih c hc).1

/-! ## Programs without one of their directives -/

/-- The nodes that the walk visits in a file. -/
def File.visits (f : File) : List Visit :=
  walk f.source false f.root

/-- The file without the node at a place. -/
def File.without (place : List Nat) (f : File) : File :=
  { f with root := f.root.dropAt place }

/-- Files of which the one at the given path is without a node. -/
def without (path : String) (place : List Nat) (files : List File) : List File :=
  files.map fun f => if f.path = path then f.without place else f

/-- Whether a place in the same file is in the scope of a directive. -/
def Visit.Covers (v : Visit) (place : List Nat) : Prop :=
  ∀ s, v.scope = some s → s <+: place

section Programs
variable {files : List File} {f g : File} {v w : Visit} {k : Nat} {place : List Nat}

/-- Without a directive that is visited, the outline of a file is narrowed. -/
lemma narrowed_file (hv : v ∈ f.visits) (hdirective : v.IsDirective) :
    Narrowed v.scope (sites f.visits) f.outline (f.without v.place).outline :=
  ((drops_outline f.root).1 "" none v hv hdirective).2.2

/-- Files with different paths are different, so only one of them changes. -/
lemma without_eq (hpaths : (files.map File.path).Nodup) (hf : f ∈ files) (hg : g ∈ files) :
    (if g.path = f.path then g.without place else g) = if g.path = f.path then f.without place else g := by
  split
  case isTrue hpath => rw [List.inj_on_of_nodup_map hpaths hg hf hpath]
  case isFalse => rfl

/-- A file without a node keeps its path. -/
lemma path_without (path : String) (g : File) : (if g.path = path then g.without place else g).path = g.path := by
  split <;> rfl

/-- The order of files is that of their paths, so a dropped node leaves it. -/
lemma byPath_without (path : String) (place : List Nat) (files : List File) :
    byPath (without path place files) = without path place (byPath files) := by
  refine (List.map_mergeSort ?_).symm
  intro a _ b _
  rw [path_without, path_without]

/-- Files are told apart by their paths, so a dropped node leaves their order. -/
lemma precedes_without (path : String) (f g : File) :
    (if f.path = path then f.without place else f).precedes (if g.path = path then g.without place else g) =
      f.precedes g := by
  rw [File.precedes, File.precedes, path_without, path_without]

/-- What stays in the file stays in the program. -/
lemma flatMap_without {β : Type} {q : List Item → List β} {l : List File} (hl : l ⊆ files)
    (hpaths : (files.map File.path).Nodup) (hf : f ∈ files) (hq : q (f.without place).outline = q f.outline) :
    ((without f.path place l).flatMap fun g => q g.outline) = l.flatMap fun g => q g.outline := by
  rw [without, List.flatMap_map]
  apply List.flatMap_congr
  intro g hg
  rw [without_eq hpaths hf (hl hg)]
  split
  case isTrue hpath => rw [hq, List.inj_on_of_nodup_map hpaths (hl hg) hf hpath]
  case isFalse => rfl

/-- The entries of the properties of some files are those in their outlines. -/
lemma map_entry_properties (l : List File) :
    (l.flatMap File.properties).map Property.entry = l.flatMap fun g => entriesIn g.outline := by
  rw [List.map_flatMap]
  apply List.flatMap_congr
  intro g _
  exact map_entry_propertiesIn _ _ g.outline

/-- The number of a property stays. -/
lemma numberOf_without (hpaths : (files.map File.path).Nodup) (hf : f ∈ files)
    (hentries : entriesIn (f.without place).outline = entriesIn f.outline) (g : File) (k : Nat) :
    Compilation.numberOf (without f.path place files) (if g.path = f.path then g.without place else g) k =
      Compilation.numberOf files g k := by
  have hbefore : (without f.path place files).filter
        (·.precedes (if g.path = f.path then g.without place else g)) =
      without f.path place (files.filter (·.precedes g)) := by
    rw [without, List.filter_map]
    simp only [Function.comp_def, precedes_without]
    rfl
  have hlength : ((without f.path place (files.filter (·.precedes g))).flatMap File.properties).length =
      ((files.filter (·.precedes g)).flatMap File.properties).length := by
    have hsubset : files.filter (·.precedes g) ⊆ files := List.filter_sublist.subset
    have hmap := flatMap_without hsubset hpaths hf hentries
    rw [← map_entry_properties, ← map_entry_properties] at hmap
    have hlengths := congrArg List.length hmap
    rw [List.length_map, List.length_map] at hlengths
    exact hlengths
  rw [Compilation.numberOf, Compilation.numberOf, hbefore, hlength]

/-- A property of the file outside of the scope stays as it is. -/
lemma getElem?_without {here : Property} (hv : v ∈ f.visits) (hdirective : v.IsDirective)
    (hk : f.properties[k]? = some here) (hw : (f.visits.filter Visit.isProperty)[k]? = some w)
    (hout : ¬ v.Covers w.place) : (f.without v.place).properties[k]? = some here := by
  have hnarrowed := narrowed_file hv hdirective
  obtain ⟨s, hs⟩ := not_forall.1 hout
  obtain ⟨hs, hplace⟩ := Classical.not_imp.1 hs
  have hsite : (sites f.visits)[k]? = some w.place := by
    rw [sites, List.getElem?_map, hw]
    rfl
  have hscope : v.scope ≠ none := by
    rw [hs]
    exact Option.some_ne_none s
  rw [File.properties, hnarrowed.after hscope, (hnarrowed.outside s hs _ _).getElem?_eq hsite hplace]
  exact hk

/-- The property declarations that the walk visits in a file are, one by one, the properties of the file. -/
lemma located_file (g : File) :
    List.Forall₂ (fun w here => property? g.path g.source here.entry.home here.entry.owner w.node = some here.entry)
      (g.visits.filter Visit.isProperty) g.properties := by
  have hlocated : Located g.path g.source g.visits g.outline := (located_outline g.root).1 "" none
  have hentries : g.properties.map Property.entry = entriesIn g.outline := map_entry_propertiesIn _ _ g.outline
  rw [Located, ← hentries, List.forall₂_map_right_iff] at hlocated
  exact hlocated

/-- A declaration that is visited is recorded as a property with its number. -/
lemma exists_property (hw : (g.visits.filter Visit.isProperty)[k]? = some w) :
    ∃ here, g.properties[k]? = some here ∧
      property? g.path g.source here.entry.home here.entry.owner w.node = some here.entry := by
  obtain ⟨hlength, hget⟩ := List.forall₂_iff_get.1 (located_file g)
  obtain ⟨hlt, hw⟩ := List.getElem?_eq_some_iff.1 hw
  have hlt' : k < g.properties.length := hlength ▸ hlt
  refine ⟨_, List.getElem?_eq_getElem hlt', ?_⟩
  have hproperty := hget k hlt hlt'
  rw [List.get_eq_getElem, List.get_eq_getElem, hw] at hproperty
  exact hproperty

namespace Compilation

/-- A dropped node that declares no type leaves the types of the program. -/
lemma types_without (hpaths : (files.map File.path).Nodup) (hf : f ∈ files)
    (htypes : typesIn (f.without place).outline = typesIn f.outline) :
    (ofFiles (without f.path place files)).types = (ofFiles files).types := by
  rw [types_ofFiles, types_ofFiles, byPath_without, flatMap_without (byPath_perm files).subset hpaths hf htypes]

/-- A dropped node that is no directive for all files leaves those of the program. -/
lemma globals_without (hpaths : (files.map File.path).Nodup) (hf : f ∈ files)
    (hglobals : globalsIn (f.without place).outline = globalsIn f.outline) :
    (ofFiles (without f.path place files)).globals = (ofFiles files).globals := by
  rw [globals_ofFiles, globals_ofFiles, byPath_without,
    flatMap_without (byPath_perm files).subset hpaths hf hglobals]

/-- A dropped node that declares no property leaves the entries of the program. -/
lemma entries_without (hpaths : (files.map File.path).Nodup) (hf : f ∈ files)
    (hentries : entriesIn (f.without place).outline = entriesIn f.outline) :
    (ofFiles (without f.path place files)).properties.map Property.entry =
      (ofFiles files).properties.map Property.entry := by
  rw [properties_ofFiles, properties_ofFiles, map_entry_properties, map_entry_properties, byPath_without,
    flatMap_without (byPath_perm files).subset hpaths hf hentries]

/-- To take a using directive without a role and without the word `global` out of a tree leaves the types and the
declared properties of the program as they are.  Each property has the number of a declaration that the walk visits in
one of the files, and if that is in another file or outside of the scope of the directive, its symbol stays. -/
theorem resolve?_of_outside (hpaths : (files.map File.path).Nodup) (hf : f ∈ files) (hv : v ∈ f.visits)
    (hdirective : v.IsDirective) :
    (ofFiles (without f.path v.place files)).types = (ofFiles files).types ∧
    (ofFiles (without f.path v.place files)).properties.map Property.entry =
      (ofFiles files).properties.map Property.entry ∧
    (∀ i < (ofFiles files).properties.length, ∃ g ∈ files, ∃ k w,
      (g.visits.filter Visit.isProperty)[k]? = some w ∧ numberOf files g k = i + 1) ∧
    ∀ g ∈ files, ∀ k w, (g.visits.filter Visit.isProperty)[k]? = some w →
      ¬ (g.path = f.path ∧ v.Covers w.place) →
      ∃ here, (ofFiles files).properties[(numberOf files g k).toNat - 1]? = some here ∧
        property? g.path g.source here.entry.home here.entry.owner w.node = some here.entry ∧
        ∀ d, (ofFiles (without f.path v.place files)).resolve? (numberOf files g k) d =
          (ofFiles files).resolve? (numberOf files g k) d := by
  have hnarrowed := narrowed_file hv hdirective
  have htypes := types_without hpaths hf hnarrowed.types
  have hglobals := globals_without hpaths hf hnarrowed.globals
  refine ⟨htypes, entries_without hpaths hf hnarrowed.entries, ?_, ?_⟩
  · intro i hi
    obtain ⟨g, hg, k, hk, hnumber⟩ := exists_numberOf hpaths hi
    rw [← (located_file g).length_eq] at hk
    exact ⟨g, hg, k, _, List.getElem?_eq_getElem hk, hnumber⟩
  intro g hg k w hw hout
  obtain ⟨here, hk, hproperty⟩ := exists_property hw
  refine ⟨here, getElem?_numberOf hpaths hg hk, hproperty, ?_⟩
  intro d
  -- the property is the same, and so are all types and all directives for all files
  have hk' : (if g.path = f.path then g.without v.place else g).properties[k]? = some here := by
    split
    case isTrue hpath =>
      obtain rfl : g = f := List.inj_on_of_nodup_map hpaths hg hf hpath
      exact getElem?_without hv hdirective hk hw fun hcovers => hout ⟨rfl, hcovers⟩
    case isFalse => exact hk
  have hsymbol : (ofFiles (without f.path v.place files)).symbol? here = (ofFiles files).symbol? here := by
    apply symbol?_congr
    intro m _
    refine alikeAt_of_globals hglobals ?_
    intro _ _ fullName arity _
    rw [kind?, kind?, htypes]
  have hpaths' : ((without f.path v.place files).map File.path).Nodup := by
    have hsame : (without f.path v.place files).map File.path = files.map File.path := by
      rw [without, List.map_map]
      exact List.map_congr_left fun g _ => path_without f.path g
    rw [hsame]
    exact hpaths
  rw [resolve?_numberOf hpaths hg hk, ← numberOf_without hpaths hf hnarrowed.entries g k,
    resolve?_numberOf hpaths' (List.mem_map_of_mem hg) hk', hsymbol]

/-! ## A directive in a namespace -/

/-- The text `N U U K C P K`, from which the nodes below take their names. -/
def scopedSource : Source :=
  Text.Utf8.encodeText "N U U K C P K"

/-- The directive that opens `U`. -/
def scopedDirective : Node :=
  .mk .usingDirective .other true 2 3 [.mk .identifier .other true 2 3 []]

/-- The property `P` of type `K`. -/
def unscopedProperty : Node :=
  .mk .propertyDeclaration .other true 10 13 [.mk .identifier .name true 10 11 [], .mk .identifier .type true 12 13 []]

/-- A file with the directive in a namespace `N`, a class `K` in a namespace `U`, and the property in a class `C`. -/
def scopedFile : File where
  path := "A.cs"
  source := scopedSource
  root := .mk .compilationUnit .other true 0 13
    [.mk .namespaceDeclaration .other true 0 3
      [.mk .identifier .name true 0 1 [], .mk .declarationList .body true 2 3 [scopedDirective]],
     .mk .namespaceDeclaration .other true 4 7
      [.mk .identifier .name true 4 5 [],
       .mk .declarationList .body true 6 7
        [.mk .classDeclaration .other true 6 7 [.mk .identifier .name true 6 7 []]]],
     .mk .classDeclaration .other true 8 13
      [.mk .identifier .name true 8 9 [], .mk .declarationList .body true 10 13 [unscopedProperty]]]

/-- The visit of the directive. -/
def scopedVisit : Visit :=
  ⟨[0, 1, 0], some [0, 1], false, scopedDirective⟩

/-- The visit of the property. -/
def unscopedVisit : Visit :=
  ⟨[2, 1, 0], none, true, unscopedProperty⟩

/-- The walk visits the directive, and one property. -/
lemma visits_scopedFile : scopedVisit ∈ scopedFile.visits ∧
    scopedFile.visits.filter Visit.isProperty = [unscopedVisit] := by
  decide +kernel

/-- The directive acts in the namespace, so the property next to it has the same symbol without the directive. -/
theorem resolve?_of_next_to_block :
    scopedVisit ∈ scopedFile.visits ∧ scopedVisit.IsDirective ∧
    (scopedFile.visits.filter Visit.isProperty)[0]? = some unscopedVisit ∧
    ¬ scopedVisit.Covers unscopedVisit.place ∧
    ∀ d, (ofFiles (without "A.cs" [0, 1, 0] [scopedFile])).resolve? (numberOf [scopedFile] scopedFile 0) d =
      (ofFiles [scopedFile]).resolve? (numberOf [scopedFile] scopedFile 0) d := by
  obtain ⟨hv, hproperties⟩ := visits_scopedFile
  have hdirective : scopedVisit.IsDirective := ⟨rfl, rfl, rfl⟩
  have hw : (scopedFile.visits.filter Visit.isProperty)[0]? = some unscopedVisit := by
    rw [hproperties]
    rfl
  have hout : ¬ scopedVisit.Covers unscopedVisit.place := by
    intro hcovers
    exact absurd (hcovers [0, 1] rfl) (by decide)
  have hpaths : ([scopedFile].map File.path).Nodup := List.nodup_singleton _
  refine ⟨hv, hdirective, hw, hout, ?_⟩
  obtain ⟨-, -, -, hsymbols⟩ := resolve?_of_outside hpaths List.mem_cons_self hv hdirective
  obtain ⟨-, -, -, hresolve⟩ :=
    hsymbols scopedFile List.mem_cons_self 0 unscopedVisit hw fun hboth => hout hboth.2
  exact hresolve

end Compilation

end Programs

end PropertyQuote.CSharp
