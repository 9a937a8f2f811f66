import PropertyQuote.Proofs.CSharp.DirectiveScope

/-!
# Using directives in force

A property sees the directives of the innermost namespace body around it, and of each body further out the directives
that stand before the next body.

* `inForce`: the directives that a property sees.
* `Arranged`: the visits of a walk come in the order of the document.
* `Ruled`: the directives that are visited make up the scopes of the properties of an outline.
* `scope_eq_foldl`: the directives in force make up the scope of a property of a file.
-/

namespace PropertyQuote.CSharp

variable {path : String} {source : Source} {inType : Bool} {i j : Nat} {n : Node} {ns : List Node}
  {u v : Visit} {vs vs' : List Visit} {items items' : List Item}

/-! ## Bodies and directives -/

/-- Whether a body is around another one or the same.  A file, which is no body, is around all of them. -/
def encloses : Option (List Nat) → Option (List Nat) → Bool
  | none, _ => true
  | some _, none => false
  | some s, some t => s.isPrefixOf t

/-- A body is around another one if its place is the beginning of the other's. -/
lemma encloses_some {s t : List Nat} : encloses (some s) (some t) = true ↔ s <+: t :=
  List.isPrefixOf_iff_prefix

/-- Seen from further outside, the same bodies are around each other. -/
lemma encloses_map (i : Nat) (a b : Option (List Nat)) :
    encloses (a.map (i :: ·)) (b.map (i :: ·)) = encloses a b := by
  cases a with
  | none => rfl
  | some s =>
    cases b with
    | none => rfl
    | some t => simp [encloses]

/-- Around what is in no body there is only the file. -/
lemma encloses_none {a : Option (List Nat)} : encloses a none = a.isNone := by
  cases a <;> rfl

namespace Visit

/-- The using directive that is visited, unless it holds for all files. -/
def directive? (source : Source) (v : Visit) : Option Using :=
  if v.node.sort = .directive then
    match using? source v.node with
    | some (.using false u) => some u
    | _ => none
  else none

/-- Whether a directive is in force at a node: it stands in the innermost body around the node, or before the node in a
body further out. -/
def inForce (u v : Visit) : Bool :=
  u.scope == v.scope || (encloses u.scope v.scope && decide (u.place < v.place))

/-- Seen from further outside, the same directives are in force. -/
lemma inForce_under : (u.under i).inForce (v.under i) = u.inForce v := by
  have hscope : ((u.under i).scope == (v.under i).scope) = (u.scope == v.scope) := by
    rw [Bool.eq_iff_iff, beq_iff_eq, beq_iff_eq]
    exact (Option.map_injective (List.cons_injective)).eq_iff
  have hplace : decide ((u.under i).place < (v.under i).place) = decide (u.place < v.place) := by
    simp [under]
  rw [inForce, inForce, hscope, hplace]
  exact congrArg (fun b => (u.scope == v.scope || (b && decide (u.place < v.place)))) (encloses_map i u.scope v.scope)

/-- Outside of all bodies, exactly the directives outside of all bodies are in force. -/
lemma inForce_of_scope_none (h : v.scope = none) : u.inForce v = u.scope.isNone := by
  rw [inForce, h, encloses_none]
  cases u.scope <;> simp

/-- In a body further on, the directives outside of all bodies are in force. -/
lemma inForce_under_of_lt (hij : i < j) (hscope : v.scope ≠ none) :
    (u.under i).inForce (v.under j) = (u.under i).scope.isNone := by
  obtain ⟨t, ht⟩ := Option.ne_none_iff_exists'.1 hscope
  have hplace : i :: u.place < j :: v.place := List.cons_lt_cons_iff.2 (.inl hij)
  cases hu : u.scope with
  | none => simp [inForce, under, hu, ht, encloses, hplace]
  | some s => simp [inForce, under, hu, ht, encloses, hij.ne]

/-- Directives further on are not in force in a body. -/
lemma inForce_under_of_gt (hij : i < j) (hscope : u.scope ≠ none) : (v.under j).inForce (u.under i) = false := by
  obtain ⟨s, hs⟩ := Option.ne_none_iff_exists'.1 hscope
  have hplace : ¬ j :: v.place < i :: u.place := by
    rw [List.cons_lt_cons_iff]
    omega
  cases hv : v.scope with
  | none => simp [inForce, under, hv, hs, hplace]
  | some t => simp [inForce, under, hv, hs, hplace, hij.ne']

/-- Around a body of a namespace, all that is in it and in no body further inside has the body as its scope. -/
lemma scope_inBlock_under : (v.under j).inBlock.scope = some (j :: v.scope.getD []) := by
  cases hv : v.scope <;> simp [inBlock, under, hv]

/-- In the body of a namespace, all directives of the body itself are in force, and further inside those that were. -/
lemma inForce_inBlock (hu : u.scope ≠ some []) (hv : v.scope ≠ some []) :
    (u.under j).inBlock.inForce (v.under j).inBlock =
      if v.scope = none then u.scope.isNone else u.inForce v := by
  have hplace : decide ((u.under j).inBlock.place < (v.under j).inBlock.place) = decide (u.place < v.place) := by
    simp [inBlock, under]
  rw [inForce, inForce, scope_inBlock_under, scope_inBlock_under, hplace]
  cases hus : u.scope with
  | none =>
    cases hvs : v.scope with
    | none => simp
    | some t =>
      have ht : t ≠ [] := fun h => hv (by rw [hvs, h])
      simp [encloses, ht]
  | some s =>
    have hs : s ≠ [] := fun h => hu (by rw [hus, h])
    cases hvs : v.scope with
    | none => simp [encloses, hs]
    | some t => simp [encloses]

end Visit

/-- Every visit inside of a node is below one of its children. -/
def Visit.Under (i : Nat) (v : Visit) : Prop :=
  ∃ w : Visit, v = w.under i

/-- What is visited in some nodes is below one of them. -/
lemma under_of_mem_walkAll (h : v ∈ walkAll source inType i ns) : ∃ j, i ≤ j ∧ v.Under j := by
  induction ns generalizing i with
  | nil =>
    rw [walkAll_nil] at h
    cases h
  | cons n ns ih =>
    rw [walkAll_cons] at h
    rcases List.mem_append.1 h with h | h
    · obtain ⟨w, -, rfl⟩ := List.mem_map.1 h
      exact ⟨i, le_refl i, w, rfl⟩
    · obtain ⟨j, hj, hv⟩ := ih h
      exact ⟨j, Nat.le_of_succ_le hj, hv⟩

/-- Below a child no scope is empty. -/
lemma Visit.Under.scope_ne (h : v.Under i) : v.scope ≠ some [] := by
  obtain ⟨w, rfl⟩ := h
  cases hw : w.scope <;> simp [Visit.under, hw]

/-- All that is visited in a body is below one child, and nothing of it has that child as its scope. -/
lemma under_of_mem_walkBody (source : Source) (inType : Bool) (n : Node) :
    ∃ j, ∀ v ∈ walkBody source inType n, ∃ w : Visit, v = w.under j ∧ w.scope ≠ some [] := by
  rw [walkBody_eq]
  generalize 0 = i
  generalize n.children = ns
  induction ns generalizing i with
  | nil =>
    refine ⟨i, ?_⟩
    rw [walkFirstBody]
    exact fun _ hmem => absurd hmem List.not_mem_nil
  | cons n ns ih =>
    rw [walkFirstBody]
    split
    · refine ⟨i, List.forall_mem_map.2 fun w hw => ?_⟩
      rw [walk_eq] at hw
      obtain ⟨j, -, hunder⟩ := under_of_mem_walkAll hw
      exact ⟨w, rfl, hunder.scope_ne⟩
    · exact ih (i + 1)

/-- What is visited inside of a node is below one of its children. -/
lemma under_of_mem_walkInside (h : v ∈ walkInside source inType n) : ∃ j, v.Under j := by
  have hinside {inType : Bool} (h : v ∈ walk source inType n) : ∃ j, v.Under j := by
    rw [walk_eq] at h
    obtain ⟨j, -, hunder⟩ := under_of_mem_walkAll h
    exact ⟨j, hunder⟩
  have hbody {inType : Bool} {v : Visit} (h : v ∈ walkBody source inType n) : ∃ j, v.Under j := by
    obtain ⟨j, hj⟩ := under_of_mem_walkBody source inType n
    obtain ⟨w, hw, -⟩ := hj v h
    exact ⟨j, w, hw⟩
  unfold walkInside at h
  split at h
  · exact hinside h
  · obtain ⟨w, hw, rfl⟩ := List.mem_map.1 h
    obtain ⟨j, x, rfl⟩ := hbody hw
    refine ⟨j, { x with scope := some (x.scope.getD []) }, ?_⟩
    cases hx : x.scope <;> simp [Visit.inBlock, Visit.under, hx]
  · exact hinside h
  · split at h
    · cases h
    · exact hbody h
  · cases h

/-! ## The order of the document -/

/-- Visits in the order of the document.  What is in a body has that body, or one inside it, as its scope. -/
structure Arranged (vs : List Visit) : Prop where
  sorted : vs.Pairwise fun u v => u.place < v.place
  own : ∀ v ∈ vs, ∀ s, v.scope = some s → s <+: v.place
  inner : ∀ u ∈ vs, ∀ v ∈ vs, ∀ s, u.scope = some s → s <+: v.place → encloses (some s) v.scope = true

namespace Arranged

/-- Nothing is visited. -/
lemma nil : Arranged [] :=
  ⟨.nil, fun _ h => absurd h List.not_mem_nil, fun _ h => absurd h List.not_mem_nil⟩

/-- Seen from further outside, it is the same with longer places. -/
lemma under (h : Arranged vs) (i : Nat) : Arranged (vs.map (Visit.under i)) := by
  refine ⟨?_, ?_, ?_⟩
  · rw [List.pairwise_map]
    exact h.sorted.imp fun hlt => List.cons_lt_cons_iff.2 (.inr ⟨rfl, hlt⟩)
  · rw [List.forall_mem_map]
    intro v hv s hs
    obtain ⟨t, ht, rfl⟩ := Option.map_eq_some_iff.1 hs
    exact List.cons_prefix_cons.2 ⟨rfl, h.own v hv t ht⟩
  · rw [List.forall_mem_map]
    intro u hu
    rw [List.forall_mem_map]
    intro v hv s hs hstart
    obtain ⟨t, ht, rfl⟩ := Option.map_eq_some_iff.1 hs
    have hinner := h.inner u hu v hv t ht (List.cons_prefix_cons.1 hstart).2
    exact (encloses_map i (some t) v.scope).trans hinner

/-- Visits below one child, and then visits below children further on. -/
lemma append (h : Arranged vs) (h' : Arranged vs') (hunder : ∀ v ∈ vs, v.Under i)
    (hbeyond : ∀ v ∈ vs', ∃ j, i < j ∧ v.Under j) : Arranged (vs ++ vs') := by
  have hbefore : ∀ u ∈ vs, ∀ v ∈ vs', u.place < v.place := by
    intro u hu v hv
    obtain ⟨x, rfl⟩ := hunder u hu
    obtain ⟨j, hij, y, rfl⟩ := hbeyond v hv
    exact List.cons_lt_cons_iff.2 (.inl hij)
  -- a body is below one child
  have hapart {i j : Nat} (hne : i ≠ j) {u v : Visit} (hu : u.Under i) (hv : v.Under j) (s : List Nat)
      (hs : u.scope = some s) (hstart : s <+: v.place) : encloses (some s) v.scope = true := by
    obtain ⟨x, rfl⟩ := hu
    obtain ⟨y, rfl⟩ := hv
    obtain ⟨t, -, rfl⟩ := Option.map_eq_some_iff.1 hs
    exact absurd (List.cons_prefix_cons.1 hstart).1 hne
  refine ⟨List.pairwise_append.2 ⟨h.sorted, h'.sorted, hbefore⟩, List.forall_mem_append.2 ⟨h.own, h'.own⟩, ?_⟩
  intro u hu v hv
  rcases List.mem_append.1 hu with hu | hu
  · rcases List.mem_append.1 hv with hv | hv
    · exact h.inner u hu v hv
    · obtain ⟨j, hij, hj⟩ := hbeyond v hv
      exact hapart hij.ne (hunder u hu) hj
  · rcases List.mem_append.1 hv with hv | hv
    · obtain ⟨j, hij, hj⟩ := hbeyond u hu
      exact hapart hij.ne' hj (hunder v hv)
    · exact h'.inner u hu v hv

/-- A node comes before what is below it. -/
lemma cons (h : Arranged vs) (hunder : ∀ v ∈ vs, ∃ j, v.Under j) : Arranged (⟨[], none, inType, n⟩ :: vs) := by
  refine ⟨?_, ?_, ?_⟩
  · refine List.pairwise_cons.2 ⟨fun v hv => ?_, h.sorted⟩
    obtain ⟨j, x, rfl⟩ := hunder v hv
    exact List.nil_lt_cons _ _
  · refine List.forall_mem_cons.2 ⟨fun s hs => ?_, h.own⟩
    cases hs
  · refine List.forall_mem_cons.2 ⟨fun v _ s hs => ?_, fun u hu => ?_⟩
    · cases hs
    · refine List.forall_mem_cons.2 ⟨fun s hs hstart => ?_, h.inner u hu⟩
      obtain ⟨j, hj⟩ := hunder u hu
      rw [List.prefix_nil.1 hstart] at hs
      exact absurd hs hj.scope_ne

/-- What is in the body of a namespace and in no body further inside has that body as its scope. -/
lemma block (h : Arranged vs) (hunder : ∀ v ∈ vs, v.Under j) : Arranged (vs.map Visit.inBlock) := by
  refine ⟨?_, ?_, ?_⟩
  · rw [List.pairwise_map]
    exact h.sorted
  · rw [List.forall_mem_map]
    intro v hv s hs
    obtain ⟨x, rfl⟩ := hunder v hv
    rw [Visit.scope_inBlock_under] at hs
    obtain rfl := Option.some.inj hs
    refine List.cons_prefix_cons.2 ⟨rfl, ?_⟩
    cases hx : x.scope with
    | none => exact List.nil_prefix
    | some t =>
      have hown := h.own _ hv (j :: t) (congrArg (Option.map (j :: ·)) hx)
      exact (List.cons_prefix_cons.1 hown).2
  · rw [List.forall_mem_map]
    intro u hu
    rw [List.forall_mem_map]
    intro v hv s hs hstart
    obtain ⟨x, rfl⟩ := hunder u hu
    obtain ⟨y, rfl⟩ := hunder v hv
    rw [Visit.scope_inBlock_under] at hs ⊢
    obtain rfl := Option.some.inj hs
    refine encloses_some.2 (List.cons_prefix_cons.2 ⟨rfl, ?_⟩)
    cases hx : x.scope with
    | none => exact List.nil_prefix
    | some t =>
      rw [hx] at hstart
      have hinner := h.inner _ hu _ hv (j :: t) (congrArg (Option.map (j :: ·)) hx) hstart
      rw [← Option.map_some] at hinner
      have hinside := (encloses_map j (some t) y.scope).symm.trans hinner
      cases hy : y.scope with
      | none =>
        rw [hy] at hinside
        cases hinside
      | some r =>
        rw [hy] at hinside
        exact encloses_some.1 hinside

end Arranged

/-! ## Directives and scopes -/

/-- The directives outside of all bodies. -/
def levelDirectives (source : Source) (vs : List Visit) : List Using :=
  (vs.filter (·.scope.isNone)).filterMap (Visit.directive? source)

/-- The directives in force at a node, in the order of the document. -/
def directivesAt (source : Source) (vs : List Visit) (v : Visit) : List Using :=
  (vs.filter (·.inForce v)).filterMap (Visit.directive? source)

/-- The scope of a property whose visit is given: outside of all bodies it is the one at the end. -/
def ScopeAt (source : Source) (vs : List Visit) (final current : Scope) (v : Visit) (here : Property) : Prop :=
  here.scope = if v.scope = none then final else (directivesAt source vs v).foldl Scope.add current

/-- The directives that are visited are those of an outline, and they make up the scopes of its properties. -/
structure Ruled (source : Source) (vs : List Visit) (items : List Item) : Prop where
  after : ∀ t : Scope, t.after items = (levelDirectives source vs).foldl Scope.add t
  scopes : ∀ final current,
    List.Forall₂ (ScopeAt source vs final current) (vs.filter Visit.isProperty) (propertiesIn final current items)

/-- A change of the visits that keeps the directives in force keeps the scopes. -/
lemma forall₂_scopeAt_congr {ps : List Property} {final current current' : Scope}
    (h : List.Forall₂ (ScopeAt source vs final current) (vs.filter Visit.isProperty) ps)
    (hsame : ∀ v ∈ vs, v.scope ≠ none →
      (directivesAt source vs v).foldl Scope.add current = (directivesAt source vs' v).foldl Scope.add current') :
    List.Forall₂ (ScopeAt source vs' final current') (vs.filter Visit.isProperty) ps := by
  have hmem : ∀ v ∈ vs.filter Visit.isProperty, v ∈ vs := fun v hv => (List.mem_filter.1 hv).1
  refine ((List.forall₂_and_left _ _).2 ⟨hmem, h⟩).imp ?_
  rintro v here ⟨hv, hscope⟩
  unfold ScopeAt at hscope ⊢
  rw [hscope]
  by_cases hnone : v.scope = none
  · rw [if_pos hnone, if_pos hnone]
  · rw [if_neg hnone, if_neg hnone, hsame v hv hnone]

namespace Ruled

/-- Nothing is visited. -/
lemma nil : Ruled source [] [] := by
  refine ⟨fun t => ?_, fun final current => ?_⟩
  · rw [Scope.after]
    rfl
  · rw [propertiesIn]
    exact .nil

/-- Seen from further outside, it is the same with longer places. -/
lemma under (h : Ruled source vs items) (i : Nat) : Ruled source (vs.map (Visit.under i)) items := by
  have hlevel : levelDirectives source (vs.map (Visit.under i)) = levelDirectives source vs := by
    have hnone : (fun v : Visit => v.scope.isNone) ∘ Visit.under i = fun v => v.scope.isNone := by
      funext v
      cases hv : v.scope <;> simp [Visit.under, hv]
    rw [levelDirectives, List.filter_map, hnone, List.filterMap_map]
    rfl
  have hforce (v : Visit) : directivesAt source (vs.map (Visit.under i)) (v.under i) = directivesAt source vs v := by
    have hsame : (fun u : Visit => u.inForce (v.under i)) ∘ Visit.under i = fun u => u.inForce v := by
      funext u
      exact Visit.inForce_under
    rw [directivesAt, List.filter_map, hsame, List.filterMap_map]
    rfl
  have hproperty : Visit.isProperty ∘ Visit.under i = Visit.isProperty := rfl
  refine ⟨fun t => ?_, fun final current => ?_⟩
  · rw [hlevel]
    exact h.after t
  · rw [List.filter_map, hproperty, List.forall₂_map_left_iff]
    refine (h.scopes final current).imp fun v here hscope => ?_
    have hnone : (v.under i).scope = none ↔ v.scope = none := Option.map_eq_none_iff
    unfold ScopeAt at hscope ⊢
    simp only [hforce, hnone]
    exact hscope

/-- In a body of the second part the directives of the first part are in force that are outside of all bodies. -/
lemma append (h : Ruled source vs items) (h' : Ruled source vs' items') (hunder : ∀ v ∈ vs, v.Under i)
    (hbeyond : ∀ v ∈ vs', ∃ j, i < j ∧ v.Under j) : Ruled source (vs ++ vs') (items ++ items') := by
  have hlevel : levelDirectives source (vs ++ vs') = levelDirectives source vs ++ levelDirectives source vs' := by
    rw [levelDirectives, List.filter_append, List.filterMap_append]
    rfl
  have hforce (v : Visit) : directivesAt source (vs ++ vs') v = directivesAt source vs v ++ directivesAt source vs' v := by
    rw [directivesAt, List.filter_append, List.filterMap_append]
    rfl
  have hfirst : ∀ v ∈ vs, v.scope ≠ none → directivesAt source vs' v = [] := by
    intro v hv hscope
    have hnone : vs'.filter (·.inForce v) = [] := by
      rw [List.filter_eq_nil_iff]
      intro u hu
      obtain ⟨x, rfl⟩ := hunder v hv
      obtain ⟨j, hij, y, rfl⟩ := hbeyond u hu
      rw [Visit.inForce_under_of_gt hij (mt (congrArg (Option.map (i :: ·))) hscope)]
      exact Bool.false_ne_true
    rw [directivesAt, hnone, List.filterMap_nil]
  have hsecond : ∀ v ∈ vs', v.scope ≠ none → directivesAt source vs v = levelDirectives source vs := by
    intro v hv hscope
    obtain ⟨j, hij, y, rfl⟩ := hbeyond v hv
    have hsame : vs.filter (·.inForce (y.under j)) = vs.filter (·.scope.isNone) := by
      apply List.filter_congr
      intro u hu
      obtain ⟨x, rfl⟩ := hunder u hu
      exact Visit.inForce_under_of_lt hij (mt (congrArg (Option.map (j :: ·))) hscope)
    rw [directivesAt, hsame]
    rfl
  refine ⟨fun t => ?_, fun final current => ?_⟩
  · rw [Scope.after_append, h.after, h'.after, hlevel, List.foldl_append]
  · rw [List.filter_append, propertiesIn_append]
    refine List.rel_append ?_ ?_
    · refine forall₂_scopeAt_congr (h.scopes final current) fun v hv hscope => ?_
      rw [hforce, hfirst v hv hscope, List.append_nil]
    · refine forall₂_scopeAt_congr (h'.scopes final _) fun v hv hscope => ?_
      rw [hforce, hsecond v hv hscope, List.foldl_append, h.after]

/-- A node that is neither a directive nor a property adds nothing. -/
lemma cons (h : Ruled source vs items) (hdirective : n.sort ≠ .directive) (hproperty : n.sort ≠ .property) :
    Ruled source (⟨[], none, inType, n⟩ :: vs) items := by
  have hnone : Visit.directive? source ⟨[], none, inType, n⟩ = none := if_neg hdirective
  have hnot : ¬ Visit.isProperty ⟨[], none, inType, n⟩ = true := by
    simp [Visit.isProperty, hproperty]
  have hskip (q : Visit → Bool) : ((⟨[], none, inType, n⟩ :: vs).filter q).filterMap (Visit.directive? source) =
      (vs.filter q).filterMap (Visit.directive? source) := by
    rw [List.filter_cons]
    split
    · rw [List.filterMap_cons_none hnone]
    · rfl
  refine ⟨fun t => ?_, fun final current => ?_⟩
  · rw [levelDirectives, hskip]
    exact h.after t
  · rw [List.filter_cons_of_neg hnot]
    refine forall₂_scopeAt_congr (h.scopes final current) fun v _ _ => ?_
    rw [directivesAt, directivesAt, hskip]

/-- In the body of a namespace all directives of the body itself are in force after those before the namespace. -/
lemma block (h : Ruled source vs items)
    (hunder : ∀ v ∈ vs, ∃ w : Visit, v = w.under j ∧ w.scope ≠ some []) :
    Ruled source (vs.map Visit.inBlock) [.block items] := by
  have hlevel : levelDirectives source (vs.map Visit.inBlock) = [] := by
    have hnone : (vs.map Visit.inBlock).filter (·.scope.isNone) = [] := by
      rw [List.filter_eq_nil_iff, List.forall_mem_map]
      exact fun v _ => Bool.false_ne_true
    rw [levelDirectives, hnone, List.filterMap_nil]
  have hforce (v : Visit) (hv : v ∈ vs) : directivesAt source (vs.map Visit.inBlock) v.inBlock =
      if v.scope = none then levelDirectives source vs else directivesAt source vs v := by
    have hsame : ∀ u ∈ vs, u.inBlock.inForce v.inBlock = if v.scope = none then u.scope.isNone else u.inForce v := by
      intro u hu
      obtain ⟨x, rfl, hx⟩ := hunder u hu
      obtain ⟨y, rfl, hy⟩ := hunder v hv
      have hxnone : (x.under j).scope.isNone = x.scope.isNone := Option.isNone_map
      have hynone : (y.under j).scope = none ↔ y.scope = none := Option.map_eq_none_iff
      rw [Visit.inForce_inBlock hx hy, Visit.inForce_under, hxnone]
      simp only [hynone]
    have hfilter : vs.filter (fun u => u.inBlock.inForce v.inBlock) =
        if v.scope = none then vs.filter (·.scope.isNone) else vs.filter (·.inForce v) := by
      rw [List.filter_congr hsame]
      split <;> rfl
    rw [directivesAt, List.filter_map, List.filterMap_map]
    change (vs.filter fun u => u.inBlock.inForce v.inBlock).filterMap (Visit.directive? source) = _
    rw [hfilter]
    split <;> rfl
  have hproperty : Visit.isProperty ∘ Visit.inBlock = Visit.isProperty := rfl
  refine ⟨fun t => ?_, fun final current => ?_⟩
  · simp only [hlevel, Scope.after, List.foldl_nil]
  · have hmem : ∀ v ∈ vs.filter Visit.isProperty, v ∈ vs := fun v hv => (List.mem_filter.1 hv).1
    rw [propertiesIn, propertiesIn, List.append_nil, List.filter_map, hproperty, List.forall₂_map_left_iff]
    refine ((List.forall₂_and_left _ _).2 ⟨hmem, h.scopes (current.after items) current⟩).imp ?_
    rintro v here ⟨hv, hscope⟩
    have hsome : v.inBlock.scope ≠ none := Option.some_ne_none _
    unfold ScopeAt at hscope ⊢
    rw [if_neg hsome, hforce v hv, hscope]
    split
    · exact h.after current
    · rfl

/-- A type in front changes nothing. -/
lemma cons_type (h : Ruled source vs items) (t : TypeEntry) : Ruled source vs (.type t :: items) := by
  refine ⟨fun scope => ?_, fun final current => ?_⟩
  · simp only [Scope.after]
    exact h.after scope
  · simp only [propertiesIn]
    exact h.scopes final current

/-- A type without a body has neither directives nor properties. -/
lemma plainType? (home : String) (owner : Option TypeSymbol) (kind : TypeKind) (arity : Nat) (n : Node) :
    Ruled source [] (CSharp.plainType? source home owner kind arity n).toList := by
  unfold CSharp.plainType?
  dsimp only
  split
  · exact .nil
  · exact nil.cons_type _

/-- A directive is visited where its outline has it. -/
lemma using? (hsort : n.sort = .directive) :
    Ruled source [⟨[], none, inType, n⟩] (CSharp.using? source n).toList := by
  have hnot : ¬ Visit.isProperty ⟨[], none, inType, n⟩ = true := by
    simp [Visit.isProperty, hsort]
  refine ⟨fun t => ?_, fun final current => ?_⟩
  · have hlevel : levelDirectives source [⟨[], none, inType, n⟩] =
        (Visit.directive? source ⟨[], none, inType, n⟩).toList := by
      cases hdirective : Visit.directive? source ⟨[], none, inType, n⟩ <;> simp [levelDirectives, hdirective]
    rw [hlevel, Visit.directive?, if_pos hsort]
    cases CSharp.using? source n with
    | none => simp [Scope.after]
    | some item =>
      cases item with
      | «using» isGlobal u => cases isGlobal <;> simp [Scope.after]
      | type t => simp [Scope.after]
      | property e => simp [Scope.after]
      | block items => simp [Scope.after]
  · have hentries : propertiesIn final current (CSharp.using? source n).toList = [] := by
      rw [← List.length_eq_zero_iff, length_propertiesIn, entriesIn_using?, List.length_nil]
    rw [List.filter_cons_of_neg hnot, hentries]
    exact .nil

/-- A property outside of all bodies has the scope at the end. -/
lemma property? (hsort : n.sort = .property) (home : String) (owner : Option TypeSymbol) :
    Ruled source [⟨[], none, owner.isSome, n⟩]
      ((owner.bind (CSharp.property? path source home · n)).toList.map .property) := by
  have hdirective : Visit.directive? source ⟨[], none, owner.isSome, n⟩ = none := by
    rw [Visit.directive?, hsort, if_neg (by decide)]
  have hlevel : levelDirectives source [⟨[], none, owner.isSome, n⟩] = [] := by
    simp [levelDirectives, hdirective]
  refine ⟨fun t => ?_, fun final current => ?_⟩
  · rw [hlevel]
    cases owner.bind (CSharp.property? path source home · n) <;> simp [Scope.after]
  · cases owner with
    | none => simp [Visit.isProperty, propertiesIn]
    | some symbol =>
      cases hname : n.child? .name with
      | none => simp [Visit.isProperty, CSharp.property?, hname, propertiesIn]
      | some name => simp [Visit.isProperty, CSharp.property?, hname, hsort, propertiesIn, ScopeAt]

end Ruled

/-! ## The walk -/

/-- The visits of a part of a tree, with its outline. -/
structure Accounted (source : Source) (vs : List Visit) (items : List Item) : Prop where
  arranged : Arranged vs
  ruled : Ruled source vs items

/-- One node: if its inside and its body are accounted for, so is the node. -/
lemma accounted_outlineNode
    (hinside : ∀ home owner, Accounted source (walk source owner.isSome n) (outline path source home owner n))
    (hbody : ∀ home owner,
      Accounted source (walkBody source owner.isSome n) (outlineBody path source home owner n))
    (home : String) (owner : Option TypeSymbol) :
    Accounted source (⟨[], none, owner.isSome, n⟩ :: walkInside source owner.isSome n)
      (outlineNode path source home owner n) := by
  have hnode (harranged : Arranged (walkInside source owner.isSome n)) :
      Arranged (⟨[], none, owner.isSome, n⟩ :: walkInside source owner.isSome n) :=
    harranged.cons fun v => under_of_mem_walkInside
  have hcons (hdirective : n.sort ≠ .directive) (hproperty : n.sort ≠ .property) {items : List Item}
      (h : Accounted source (walkInside source owner.isSome n) items) :
      Accounted source (⟨[], none, owner.isSome, n⟩ :: walkInside source owner.isSome n) items :=
    ⟨hnode h.arranged, h.ruled.cons hdirective hproperty⟩
  unfold outlineNode
  unfold walkInside at hnode hcons ⊢
  cases hsort : n.sort with
  | opened =>
    rw [hsort] at hcons
    exact hcons (by decide) (by decide) (hinside _ none)
  | block =>
    rw [hsort] at hcons
    refine hcons (by decide) (by decide) ?_
    obtain ⟨j, hj⟩ := under_of_mem_walkBody source false n
    have hunder : ∀ v ∈ walkBody source false n, v.Under j := by
      intro v hv
      obtain ⟨w, hw, -⟩ := hj v hv
      exact ⟨w, hw⟩
    have hfound := hbody (Name.join home (nameOf source n)) none
    exact ⟨hfound.arranged.block hunder, hfound.ruled.block hj⟩
  | directive =>
    rw [hsort] at hnode
    exact ⟨hnode .nil, .using? hsort⟩
  | enumeration =>
    rw [hsort] at hcons
    exact hcons (by decide) (by decide) ⟨.nil, .plainType? _ _ _ _ n⟩
  | delegate =>
    rw [hsort] at hcons
    exact hcons (by decide) (by decide) ⟨.nil, .plainType? _ _ _ _ n⟩
  | property =>
    rw [hsort] at hnode
    exact ⟨hnode .nil, .property? hsort home owner⟩
  | members =>
    rw [hsort] at hcons
    exact hcons (by decide) (by decide) (hinside _ owner)
  | type kind =>
    rw [hsort] at hcons
    refine hcons (by simp) (by simp) ?_
    dsimp only
    split
    · exact ⟨.nil, .nil⟩
    · have hfound := hbody home (some (typeSymbol ⟨nameOf source n, kind.word, typeParameters source n⟩ home owner))
      exact ⟨hfound.arranged, hfound.ruled.cons_type _⟩
  | ignored =>
    rw [hsort] at hcons
    exact hcons (by decide) (by decide) ⟨.nil, .nil⟩

/-- Some nodes: if each of them is accounted for, so are they together. -/
lemma accounted_outlineAll
    (h : ∀ n ∈ ns, ∀ home owner, Accounted source
      (⟨[], none, owner.isSome, n⟩ :: walkInside source owner.isSome n) (outlineNode path source home owner n))
    (i : Nat) (home : String) (owner : Option TypeSymbol) :
    Accounted source (walkAll source owner.isSome i ns) (outlineAll path source home owner ns) := by
  induction ns generalizing i home with
  | nil =>
    rw [walkAll_nil, outlineAll_nil]
    exact ⟨.nil, .nil⟩
  | cons n ns ih =>
    obtain ⟨hn, hns⟩ := List.forall_mem_cons.1 h
    have hfirst := hn home owner
    have hrest := ih hns (i + 1) (homeAfter source home n)
    have hunder : ∀ v ∈ (⟨[], none, owner.isSome, n⟩ :: walkInside source owner.isSome n).map (Visit.under i),
        v.Under i := List.forall_mem_map.2 fun w _ => ⟨w, rfl⟩
    have hbeyond : ∀ v ∈ walkAll source owner.isSome (i + 1) ns, ∃ j, i < j ∧ v.Under j :=
      fun v => under_of_mem_walkAll
    rw [walkAll_cons, outlineAll_cons]
    exact ⟨(hfirst.arranged.under i).append hrest.arranged hunder hbeyond,
      (hfirst.ruled.under i).append hrest.ruled hunder hbeyond⟩

/-- A body is accounted for if each child is. -/
lemma accounted_outlineFirstBody
    (h : ∀ n ∈ ns, ∀ home owner,
      Accounted source (walk source owner.isSome n) (outline path source home owner n))
    (i : Nat) (home : String) (owner : Option TypeSymbol) :
    Accounted source (walkFirstBody source owner.isSome i ns) (outlineFirstBody path source home owner ns) := by
  induction ns generalizing i with
  | nil =>
    rw [walkFirstBody, outlineFirstBody]
    exact ⟨.nil, .nil⟩
  | cons n ns ih =>
    obtain ⟨hn, hns⟩ := List.forall_mem_cons.1 h
    rw [walkFirstBody, outlineFirstBody]
    split
    · exact ⟨(hn home owner).arranged.under i, (hn home owner).ruled.under i⟩
    · exact ih hns (i + 1)

/-- The walk through a node accounts for its outline, and so does the walk through its body. -/
lemma accounted_outline (n : Node) :
    (∀ home owner, Accounted source (walk source owner.isSome n) (outline path source home owner n)) ∧
    ∀ home owner, Accounted source (walkBody source owner.isSome n) (outlineBody path source home owner n) := by
  induction n using Node.induction with
  | node n ih =>
    constructor
    · intro home owner
      rw [walk_eq, outline_eq]
      apply accounted_outlineAll
      intro c hc
      exact accounted_outlineNode (ih c hc).1 (ih c hc).2
    · intro home owner
      rw [walkBody_eq, outlineBody_eq]
      exact accounted_outlineFirstBody (fun c hc => (ih c hc).1) 0 home owner

/-! ## Directives of a file -/

variable {f : File} {k : Nat} {here : Property}

/-- The visits of a file account for its outline. -/
lemma accounted_file (f : File) : Accounted f.source f.visits f.outline :=
  (accounted_outline f.root).1 "" none

/-- The scope of a property is made up of the directives in force at it. -/
lemma scope_eq_foldl (hk : f.properties[k]? = some here) (hv : (f.visits.filter Visit.isProperty)[k]? = some v) :
    here.scope = (directivesAt f.source f.visits v).foldl Scope.add {} := by
  have hruled := (accounted_file f).ruled
  obtain ⟨hlt, hv⟩ := List.getElem?_eq_some_iff.1 hv
  obtain ⟨hlt', hk⟩ := List.getElem?_eq_some_iff.1 hk
  have hscope := (List.forall₂_iff_get.1 (hruled.scopes (Scope.after {} f.outline) {})).2 k hlt hlt'
  rw [List.get_eq_getElem, hv] at hscope
  unfold ScopeAt at hscope
  have hhere : (propertiesIn (Scope.after {} f.outline) {} f.outline).get ⟨k, hlt'⟩ = here := hk
  rw [hhere] at hscope
  rw [hscope]
  split
  case isTrue hnone =>
    have hsame : f.visits.filter (·.inForce v) = f.visits.filter (·.scope.isNone) :=
      List.filter_congr fun u _ => Visit.inForce_of_scope_none hnone
    rw [hruled.after, directivesAt, hsame]
    rfl
  case isFalse => rfl

end PropertyQuote.CSharp
