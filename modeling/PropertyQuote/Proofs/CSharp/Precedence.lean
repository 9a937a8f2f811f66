import PropertyQuote.Proofs.CSharp.Capture
import PropertyQuote.Proofs.CSharp.FileOrder
import PropertyQuote.Proofs.CSharp.InForce

/-!
# Precedence of using directives

The directives in force at a property come in the order in which they are written, so those of outer bodies come before
those of inner ones.  A simple name that nothing else provides is found through the first directive that leads to a known
type, and that is a directive of the outermost body that has one.

* `Arranged.outer_first`: outer directives come first.
* `LeadsTo`: a directive in force opens a namespace with a known type.
* `lookup?_first_in_force`: the first directive wins.
-/

namespace PropertyQuote.CSharp

variable {source : Source} {inType : Bool} {u v w : Visit} {vs : List Visit} {s : List Nat} {files : List File}
  {f : File} {k : Nat} {here : Property}

/-! ## Outer and inner bodies -/

/-- Two bodies around each other are the same. -/
lemma encloses_antisymm {a b : Option (List Nat)} (h : encloses a b = true) (h' : encloses b a = true) : a = b := by
  cases a with
  | none =>
    cases b with
    | none => rfl
    | some t => cases h'
  | some s =>
    cases b with
    | none => cases h
    | some t =>
      have hst := encloses_some.1 h
      rw [hst.eq_of_length_le (encloses_some.1 h').length_le]

/-- Bodies around one node lie in each other. -/
lemma encloses_or {a b c : Option (List Nat)} (ha : encloses a c = true) (hb : encloses b c = true) :
    encloses a b = true ∨ encloses b a = true := by
  cases a with
  | none => exact .inl rfl
  | some s =>
    cases b with
    | none => exact .inr rfl
    | some t =>
      cases c with
      | none => cases ha
      | some r =>
        rw [encloses_some, encloses_some]
        exact List.prefix_or_prefix_of_prefix (encloses_some.1 ha) (encloses_some.1 hb)

/-- A directive in force stands in a body around the node. -/
lemma Visit.encloses_of_inForce (h : u.inForce v = true) : encloses u.scope v.scope = true := by
  rw [inForce, Bool.or_eq_true, beq_iff_eq, Bool.and_eq_true] at h
  rcases h with heq | ⟨hencloses, -⟩
  · rw [heq]
    cases v.scope with
    | none => rfl
    | some s => exact encloses_some.2 (List.prefix_refl s)
  · exact hencloses

/-- What comes before a place in a body, and is not in the body, comes before the whole body. -/
lemma lt_of_prefix {a b c : List Nat} (hlt : a < b) (hb : s <+: b) (hc : s <+: c) (ha : ¬ s <+: a) : a < c := by
  induction s generalizing a b c with
  | nil => exact absurd List.nil_prefix ha
  | cons x s ih =>
    obtain ⟨b, rfl⟩ := hb
    obtain ⟨c, rfl⟩ := hc
    cases a with
    | nil => exact List.nil_lt_cons _ _
    | cons y a =>
      rw [List.cons_append, List.cons_lt_cons_iff] at hlt ⊢
      rcases hlt with hyx | ⟨rfl, hlt⟩
      · exact .inl hyx
      · refine .inr ⟨rfl, ih hlt (List.prefix_append _ _) (List.prefix_append _ _) ?_⟩
        exact fun hstart => ha (List.cons_prefix_cons.2 ⟨rfl, hstart⟩)

/-- Of the directives in force at a node, those of outer bodies come first. -/
lemma Arranged.outer_first (h : Arranged vs) (hu : u ∈ vs) (hw : w ∈ vs) (hv : v ∈ vs) (huv : u.inForce v = true)
    (hwv : w.inForce v = true) (houter : encloses u.scope w.scope = true) (hne : u.scope ≠ w.scope) :
    u.place < w.place := by
  have haround := Visit.encloses_of_inForce hwv
  have hother : u.scope ≠ v.scope := by
    intro heq
    rw [← heq] at haround
    exact hne (encloses_antisymm houter haround)
  have hbefore : u.place < v.place := by
    rw [Visit.inForce, Bool.or_eq_true, beq_iff_eq, Bool.and_eq_true, decide_eq_true_iff] at huv
    exact (huv.resolve_left hother).2
  cases hs : w.scope with
  | none =>
    rw [hs, encloses_none, Option.isNone_iff_eq_none] at houter
    rw [hs] at hne
    exact absurd houter hne
  | some s =>
    cases ht : v.scope with
    | none =>
      rw [hs, ht] at haround
      cases haround
    | some t =>
      rw [hs, ht, encloses_some] at haround
      refine lt_of_prefix hbefore (haround.trans (h.own v hv t ht)) (h.own w hw s hs) fun hstart => ?_
      have hinner := h.inner w hw u hu s hs hstart
      rw [hs] at houter hne
      exact hne (encloses_antisymm houter hinner)

/-! ## Directives that lead to a type -/

namespace Compilation

variable {p : Compilation} {name : String} {arity : Nat} {r : String}

/-- The known type of the given name in the namespace that a directive opens. -/
def leads? (p : Compilation) (source : Source) (name : String) (arity : Nat) (u : Visit) : Option String :=
  (((u.directive? source).bind Using.opening?).map (Name.join · name)).filter (p.declares arity)

/-- A directive of a file that is in force at a node and leads to a known type of the given name. -/
structure LeadsTo (p : Compilation) (f : File) (v : Visit) (name : String) (arity : Nat) (u : Visit) (r : String) :
    Prop where
  visited : u ∈ f.visits
  inForce : u.inForce v = true
  found : p.leads? f.source name arity u = some r

/-- The opened namespaces are tried in the order of the directives in force. -/
lemma lookupOpened?_eq_findSome? (hk : f.properties[k]? = some here)
    (hv : (f.visits.filter Visit.isProperty)[k]? = some v) :
    p.lookupOpened? here name arity =
      ((f.visits.filter (·.inForce v)).findSome? (p.leads? f.source name arity)).or
        ((p.globals.openings.map (Name.join · name)).find? (p.declares arity)) := by
  have hopenings : here.scope.openings =
      (f.visits.filter (·.inForce v)).filterMap fun u => (u.directive? f.source).bind Using.opening? := by
    rw [scope_eq_foldl hk hv, (Scope.foldl_add _ _).1, directivesAt, List.filterMap_filterMap]
    rfl
  have hfind : (here.scope.openings.map (Name.join · name)).find? (p.declares arity) =
      (f.visits.filter (·.inForce v)).findSome? (p.leads? f.source name arity) := by
    rw [hopenings, List.map_filterMap, ← List.head?_filter, List.filter_filterMap, List.head?_filterMap]
    rfl
  rw [lookupOpened?, List.map_append, List.find?_append, hfind]

/-- If a directive leads to a known type, the first such directive does, and none outside of its body does. -/
lemma exists_first (hv : v ∈ f.visits) (hw : p.LeadsTo f v name arity w r) :
    ∃ u r, p.LeadsTo f v name arity u r ∧
      (f.visits.filter (·.inForce v)).findSome? (p.leads? f.source name arity) = some r ∧
      encloses u.scope w.scope = true ∧
      ∀ u' r', p.LeadsTo f v name arity u' r' → encloses u'.scope u.scope = true → u'.scope = u.scope := by
  have harranged := (accounted_file f).arranged
  have hmem {u : Visit} {r : String} (h : p.LeadsTo f v name arity u r) : u ∈ f.visits.filter (·.inForce v) :=
    List.mem_filter.2 ⟨h.visited, h.inForce⟩
  have hsome : ((f.visits.filter (·.inForce v)).findSome? (p.leads? f.source name arity)).isSome = true := by
    rw [List.findSome?_isSome_iff]
    exact ⟨w, hmem hw, by rw [hw.found]; rfl⟩
  obtain ⟨r, hr⟩ := Option.isSome_iff_exists.1 hsome
  obtain ⟨before, u, behind, hsplit, hfound, hnone⟩ := List.findSome?_eq_some_iff.1 hr
  have hu : u ∈ f.visits.filter (·.inForce v) := by
    rw [hsplit]
    exact List.mem_append_right _ List.mem_cons_self
  obtain ⟨hvisited, hforce⟩ := List.mem_filter.1 hu
  have hsorted := harranged.sorted.filter (·.inForce v)
  rw [hsplit, List.pairwise_append, List.pairwise_cons] at hsorted
  -- a directive of a body further out would stand before the first one
  have houtermost {u' : Visit} {r' : String} (h : p.LeadsTo f v name arity u' r')
      (houter : encloses u'.scope u.scope = true) : u'.scope = u.scope := by
    by_contra hne
    have hlt := harranged.outer_first h.visited hvisited hv h.inForce hforce houter hne
    have hin := hmem h
    rw [hsplit, List.mem_append, List.mem_cons] at hin
    rcases hin with hin | rfl | hin
    · have hcontra := h.found
      rw [hnone u' hin] at hcontra
      cases hcontra
    · exact hne rfl
    · exact List.lt_asymm hlt (hsorted.2.1.1 u' hin)
  refine ⟨u, r, ⟨hvisited, hforce, hfound⟩, hr, ?_, fun u' r' => houtermost⟩
  rcases encloses_or (Visit.encloses_of_inForce hforce) (Visit.encloses_of_inForce hw.inForce) with h | h
  · exact h
  · have heq := houtermost hw h
    rw [heq] at h ⊢
    exact h

/-- A simple name that nothing around a property provides, and no alias, is found through the first directive in force
that leads to a known type, and else through the directives for all files.  So if a directive of some body leads to a
known type, the name is found through a directive of this body or of one around it, and of this body if and only if no
directive in force further out leads to a known type. -/
theorem lookup?_first_in_force (hf : f ∈ files) (hv : (f.visits.filter Visit.isProperty)[k]? = some v) :
    ∃ here ∈ (ofFiles files).properties, f.properties[k]? = some here ∧
      property? f.path f.source here.entry.home here.entry.owner v.node = some here.entry ∧
      ∀ name arity, (ofFiles files).lookupEnclosing? here name arity = none →
        (ofFiles files).lookupAlias? here name arity = none →
        (ofFiles files).lookup? here ⟨none, name⟩ arity =
          ((f.visits.filter (·.inForce v)).findSome? ((ofFiles files).leads? f.source name arity)).or
            (((ofFiles files).globals.openings.map (Name.join · name)).find? ((ofFiles files).declares arity)) ∧
        ∀ w r, (ofFiles files).LeadsTo f v name arity w r →
          ∃ u r', (ofFiles files).LeadsTo f v name arity u r' ∧
            (ofFiles files).lookup? here ⟨none, name⟩ arity = some r' ∧ encloses u.scope w.scope = true ∧
            (u.scope = w.scope ↔ ∀ u' r'', (ofFiles files).LeadsTo f v name arity u' r'' →
              encloses u'.scope w.scope = true → u'.scope = w.scope) := by
  obtain ⟨here, hk, hproperty⟩ := exists_property hv
  have hvisited : v ∈ f.visits := (List.mem_filter.1 (List.mem_of_getElem? hv)).1
  have hhere : here ∈ (ofFiles files).properties := by
    rw [properties_ofFiles]
    exact List.mem_flatMap.2 ⟨f, (byPath_perm files).mem_iff.2 hf, List.mem_of_getElem? hk⟩
  refine ⟨here, hhere, hk, hproperty, fun name arity henclosing halias => ?_⟩
  have hlookup : (ofFiles files).lookup? here ⟨none, name⟩ arity = (ofFiles files).lookupOpened? here name arity := by
    unfold lookup?
    dsimp only
    rw [henclosing, halias, Option.none_or, Option.none_or]
  rw [hlookup, lookupOpened?_eq_findSome? hk hv]
  refine ⟨rfl, fun w r hw => ?_⟩
  obtain ⟨u, r', hu, hfirst, houter, houtermost⟩ := exists_first hvisited hw
  refine ⟨u, r', hu, by rw [hfirst, Option.some_or], houter, ?_, ?_⟩
  · intro heq u' r'' hu' hencloses
    rw [← heq] at hencloses ⊢
    exact houtermost u' r'' hu' hencloses
  · exact fun hall => hall u r' hu houter

/-! ## A directive of the file and one of a namespace -/

/-- The text from which the nodes below take their names. -/
def layeredSource : Source :=
  Text.Utf8.encodeText "O K I A C P"

/-- The directive `using O`. -/
def outerUsing : Node :=
  .mk .usingDirective .other true 0 1 [.mk .identifier .other true 0 1 []]

/-- The directive `using I`. -/
def innerUsing : Node :=
  .mk .usingDirective .other true 4 5 [.mk .identifier .other true 4 5 []]

/-- A property `P` of type `K`. -/
def layeredNode : Node :=
  .mk .propertyDeclaration .other true 10 11
    [.mk .identifier .type true 2 3 [], .mk .identifier .name true 10 11 []]

/-- A file with the directive `using O`, a class `K` in the namespace `O`, a delegate `K` in the namespace `I`, and a
namespace `A` that holds the directive `using I` and a class `C` with the property. -/
def layeredFile : File where
  path := "A.cs"
  source := layeredSource
  root := .mk .compilationUnit .other true 0 11
    [outerUsing,
     .mk .namespaceDeclaration .other true 0 3
      [.mk .identifier .name true 0 1 [],
       .mk .declarationList .body true 2 3
        [.mk .classDeclaration .other true 2 3 [.mk .identifier .name true 2 3 []]]],
     .mk .namespaceDeclaration .other true 2 5
      [.mk .identifier .name true 4 5 [],
       .mk .declarationList .body true 2 3
        [.mk .delegateDeclaration .other true 2 3 [.mk .identifier .name true 2 3 []]]],
     .mk .namespaceDeclaration .other true 6 11
      [.mk .identifier .name true 6 7 [],
       .mk .declarationList .body true 4 11
        [innerUsing,
         .mk .classDeclaration .other true 8 11
          [.mk .identifier .name true 8 9 [], .mk .declarationList .body true 10 11 [layeredNode]]]]]

/-- The visit of the directive of the file. -/
def outerVisit : Visit :=
  ⟨[0], none, false, outerUsing⟩

/-- The visit of the directive of the namespace. -/
def innerVisit : Visit :=
  ⟨[3, 1, 0], some [3, 1], false, innerUsing⟩

/-- The visit of the property. -/
def layeredVisit : Visit :=
  ⟨[3, 1, 1, 1, 0], some [3, 1], true, layeredNode⟩

/-- The property, with both namespaces open. -/
def layeredProperty : Property where
  entry := {
    declaration := { name := "P", path := "A.cs", line := 1 }
    type := some (.mk .identifier .type true 2 3 [])
    source := layeredSource
    home := "A"
    owner := .inNamespace ⟨"C", "class", []⟩ "A" "A"
    isStatic := false }
  scope := { openings := ["O", "I"] }

/-- The program of the file. -/
def layeredProgram : Compilation where
  types := (wellKnownTypes ++ [TypeEntry.mk "O.K" 0 .classType, TypeEntry.mk "I.K" 0 .delegate,
    TypeEntry.mk "A.C" 0 .classType]).reverse
  globals := implicitGlobals
  properties := [layeredProperty]
  broken := []

/-- The file has one property and makes up the program.  Its directive is visited first, and one property is
visited. -/
lemma read_layeredFile : layeredFile.properties = [layeredProperty] ∧ ofFiles [layeredFile] = layeredProgram ∧
    layeredFile.visits.head? = some outerVisit ∧ innerVisit ∈ layeredFile.visits ∧
    layeredFile.visits.filter Visit.isProperty = [layeredVisit] := by
  decide +kernel

/-- Each of the two directives leads to a type of the name `K`, and nothing around the property is called so. -/
lemma lookups_layeredProgram : layeredProgram.leads? layeredSource "K" 0 outerVisit = some "O.K" ∧
    layeredProgram.leads? layeredSource "K" 0 innerVisit = some "I.K" ∧
    layeredProgram.lookupEnclosing? layeredProperty "K" 0 = none := by
  decide +kernel

/-- The directive of the namespace leads to the delegate, but the name is the class to which the directive of the file
leads. -/
theorem lookup?_first_in_force_layered :
    (layeredFile.visits.filter Visit.isProperty)[0]? = some layeredVisit ∧
    (ofFiles [layeredFile]).LeadsTo layeredFile layeredVisit "K" 0 innerVisit "I.K" ∧
    innerVisit.scope = layeredVisit.scope ∧
    (ofFiles [layeredFile]).lookupEnclosing? layeredProperty "K" 0 = none ∧
    (ofFiles [layeredFile]).lookupAlias? layeredProperty "K" 0 = none ∧
    (ofFiles [layeredFile]).properties = [layeredProperty] ∧
    (ofFiles [layeredFile]).lookup? layeredProperty ⟨none, "K"⟩ 0 = some "O.K" := by
  obtain ⟨hread, hprogram, hhead, hinner, hproperties⟩ := read_layeredFile
  obtain ⟨houterLeads, hinnerLeads, henclosing⟩ := lookups_layeredProgram
  have hv : (layeredFile.visits.filter Visit.isProperty)[0]? = some layeredVisit := by
    rw [hproperties]
    rfl
  obtain ⟨here, -, hk, -, hlookup⟩ :=
    lookup?_first_in_force (List.mem_singleton.2 rfl : layeredFile ∈ [layeredFile]) hv
  rw [hread] at hk
  obtain rfl : layeredProperty = here := Option.some.inj hk
  rw [hprogram] at hlookup ⊢
  refine ⟨hv, ⟨hinner, by decide, hinnerLeads⟩, rfl, henclosing, rfl, rfl, ?_⟩
  obtain ⟨rest, hvisits⟩ : ∃ rest, layeredFile.visits = outerVisit :: rest := List.head?_eq_some_iff.1 hhead
  have houter : (outerVisit :: rest).filter (·.inForce layeredVisit) =
      outerVisit :: rest.filter (·.inForce layeredVisit) := List.filter_cons_of_pos (by decide)
  have hsource : layeredFile.source = layeredSource := rfl
  rw [(hlookup "K" 0 henclosing rfl).1, hvisits, houter, List.findSome?_cons, hsource,
    houterLeads]
  rfl

end Compilation

end PropertyQuote.CSharp
