import Mathlib.Data.List.TakeWhile
import PropertyQuote.Proofs.CSharp.Resolution
import PropertyQuote.Proofs.CSharp.Walk
import PropertyQuote.Proofs.HintName

/-!
# Recognising the marker

An attribute is looked up under one or two names, around the property, among the aliases and in the opened namespaces.
Where the marker is the only type that is called like it, all of this comes down to one question: whether the
namespace of the marker is one of those that the search goes through.

* `StandsFor`: what a qualifier with an alias in front stands for.
* `candidates`: the full names that are tried for a name, in order.
* `InReach`: where the namespace of the marker has to be for an attribute to be the marker.
* `attribute?_eq_marker_iff`: exactly then the attribute is the marker, and else it is nothing.
-/

namespace PropertyQuote

namespace Name

/-- The part of a name before its first dot. -/
def firstSegment (s : String) : String :=
  String.ofList (s.toList.takeWhile (· != '.'))

/-- Characters of a segment are no dots. -/
lemma bne_dot_of_notMem {head : List Char} (h : '.' ∉ head) : ∀ c ∈ head, (c != '.') = true := by
  intro c hc
  apply bne_iff_ne.2
  rintro rfl
  exact h hc

/-- The first segment goes up to the first dot. -/
lemma takeWhile_append_dot {head : List Char} (h : '.' ∉ head) (rest : List Char) :
    (head ++ '.' :: rest).takeWhile (· != '.') = head ∧
      (head ++ '.' :: rest).dropWhile (· != '.') = '.' :: rest := by
  rw [List.takeWhile_append_of_pos (bne_dot_of_notMem h), List.dropWhile_append_of_pos (bne_dot_of_notMem h)]
  exact ⟨List.append_nil head, rfl⟩

/-- A name without a dot is its first segment. -/
lemma takeWhile_of_notMem {head : List Char} (h : '.' ∉ head) :
    head.takeWhile (· != '.') = head ∧ head.dropWhile (· != '.') = [] := by
  exact ⟨List.takeWhile_eq_self_iff.2 (bne_dot_of_notMem h), List.dropWhile_eq_nil_iff.2 (bne_dot_of_notMem h)⟩

/-- The characters of two names with a dot between them. -/
lemma toList_dotted (head rest : String) : (head ++ "." ++ rest).toList = head.toList ++ '.' :: rest.toList := by
  rw [String.toList_append, String.toList_append, List.append_assoc]
  rfl

/-- A name is one segment, or a first segment with a dot and more behind it. -/
lemma exists_firstSegment (s : String) :
    '.' ∉ s.toList ∨ ∃ head rest, '.' ∉ head.toList ∧ s = head ++ "." ++ rest := by
  by_cases hdot : '.' ∈ s.toList
  · obtain ⟨head, rest, heq, hhead⟩ := List.eq_append_cons_of_mem hdot
    refine .inr ⟨String.ofList head, String.ofList rest, ?_, ?_⟩
    · rwa [String.toList_ofList]
    · apply String.toList_injective
      rw [toList_dotted, String.toList_ofList, String.toList_ofList, heq]
  · exact .inl hdot

/-- Around the global namespace there is no other. -/
lemma chain_empty : chain "" = [""] := by
  rw [chain, enclosing]
  rfl

end Name

namespace CSharp.Compilation

variable {p : Compilation} {here : Property} {ref : Name.Reference} {arity : Nat}

/-- The namespace of the marker. -/
def markerHome : String :=
  "Corvus.Expressions.SourceGenerator"

/-- The names under which the marker is written, with and without the usual ending. -/
def markerNames : List String :=
  ["GenerateBonsai", "GenerateBonsaiAttribute"]

/-- The marker is the only type without type parameters that is called like it, in whatever namespace or type. -/
structure MarkerAlone (p : Compilation) : Prop where
  declared : p.declares 0 standardMarker = true
  alone : ∀ fullName, p.declares 0 fullName = true → Name.simple fullName ∈ markerNames → fullName = standardMarker

/-- What a qualifier stands for.  If its first segment is an alias, the target stands in place of the alias, and the
segments that follow are those of a name inside the target. -/
inductive StandsFor (p : Compilation) (here : Property) : String → String → Prop where
  | itself {q} (halias : p.alias? here (Name.firstSegment q) = none) : StandsFor p here q q
  | target {head a} (hsegment : '.' ∉ head.toList) (halias : p.alias? here head = some a) :
      StandsFor p here head a.target
  | within {head rest a} (hsegment : '.' ∉ head.toList) (halias : p.alias? here head = some a) (hrest : rest ≠ "") :
      StandsFor p here (head ++ "." ++ rest) (Name.join a.target rest)
  /-- Nothing follows the dot. -/
  | dangling {head a} (hsegment : '.' ∉ head.toList) (halias : p.alias? here head = some a) :
      StandsFor p here (head ++ "." ++ "") a.target

/-- The namespace of the marker is where an attribute with the given qualifier is looked for.  Without a qualifier these
are the types and the namespaces around the property and the namespaces opened for it, in its own file or block or for
all files; a qualifier names a namespace inside one of those around the property. -/
def InReach (p : Compilation) (here : Property) : Option String → Prop
  | none => markerHome ∈ here.entry.owner.withOuter.map TypeSymbol.displayName ∨
      markerHome ∈ Name.chain here.entry.home ∨ markerHome ∈ here.scope.openings ∨ markerHome ∈ p.globals.openings
  | some q => ∃ q', StandsFor p here q q' ∧ ∃ ns ∈ Name.chain here.entry.home, Name.join ns q' = markerHome

/-! ## Qualifiers -/

/-- A qualifier of one segment stands for the target of the alias that it is, or for itself. -/
lemma expandQualifier_segment {head : String} (h : '.' ∉ head.toList) :
    p.expandQualifier here head =
      match p.alias? here head with
      | some a => a.target
      | none => head := by
  unfold expandQualifier
  rw [(Name.takeWhile_of_notMem h).1, (Name.takeWhile_of_notMem h).2, String.ofList_toList]
  rfl

/-- In a longer qualifier the first segment may be an alias. -/
lemma expandQualifier_dotted {head : String} (h : '.' ∉ head.toList) (rest : String) :
    p.expandQualifier here (head ++ "." ++ rest) =
      match p.alias? here head with
      | some a => if rest.isEmpty then a.target else Name.join a.target rest
      | none => head ++ "." ++ rest := by
  obtain ⟨hfirst, hrest⟩ := Name.takeWhile_append_dot h rest.toList
  unfold expandQualifier
  rw [Name.toList_dotted, hfirst, hrest, String.ofList_toList]
  show (match p.alias? here head with
    | some a => if (String.ofList rest.toList).isEmpty then a.target else Name.join a.target (String.ofList rest.toList)
    | none => head ++ "." ++ rest) = _
  rw [String.ofList_toList]

/-- A name without a dot is the first segment of itself and of what starts with it and a dot. -/
lemma firstSegment_eq {head : String} (h : '.' ∉ head.toList) (rest : String) :
    Name.firstSegment head = head ∧ Name.firstSegment (head ++ "." ++ rest) = head := by
  rw [Name.firstSegment, Name.firstSegment, Name.toList_dotted, (Name.takeWhile_of_notMem h).1,
    (Name.takeWhile_append_dot h rest.toList).1, String.ofList_toList]
  exact ⟨rfl, rfl⟩

/-- Every qualifier stands for one name. -/
lemma standsFor_iff {q q' : String} : StandsFor p here q q' ↔ q' = p.expandQualifier here q := by
  constructor
  · intro h
    cases h with
    | itself halias =>
      rw [Name.firstSegment] at halias
      unfold expandQualifier
      dsimp only
      rw [halias]
    | target hsegment halias => rw [expandQualifier_segment hsegment, halias]
    | within hsegment halias hrest =>
      rw [expandQualifier_dotted hsegment, halias]
      exact (if_neg (mt String.isEmpty_iff.1 hrest)).symm
    | dangling hsegment halias =>
      rw [expandQualifier_dotted hsegment, halias]
      rfl
  · rintro rfl
    rcases Name.exists_firstSegment q with hsegment | ⟨head, rest, hsegment, rfl⟩
    · rw [expandQualifier_segment hsegment]
      cases halias : p.alias? here q with
      | none =>
        apply StandsFor.itself
        rwa [(firstSegment_eq hsegment "").1]
      | some a => exact .target hsegment halias
    · rw [expandQualifier_dotted hsegment]
      cases halias : p.alias? here head with
      | none =>
        apply StandsFor.itself
        rwa [(firstSegment_eq hsegment rest).2]
      | some a =>
        by_cases hrest : rest = ""
        · subst hrest
          exact .dangling hsegment halias
        · show StandsFor p here _ (if rest.isEmpty then a.target else Name.join a.target rest)
          rw [if_neg (mt String.isEmpty_iff.1 hrest)]
          exact .within hsegment halias hrest

/-! ## The full names that are tried -/

/-- The full names that are tried for a name, in order. -/
def candidates (p : Compilation) (here : Property) (ref : Name.Reference) (arity : Nat) : List String :=
  match ref.qualifier with
  | some q => p.qualifiedNames here q ref.name
  | none =>
    here.entry.owner.withOuter.map (fun t => t.displayName ++ "." ++ ref.name) ++
      (Name.chain here.entry.home).map (Name.join · ref.name) ++
      ((if arity = 0 then ((p.alias? here ref.name).map Alias.target).toList else []) ++
        (here.scope.openings ++ p.globals.openings).map (Name.join · ref.name))

/-- An alias is followed to its target, for a name without type arguments. -/
lemma lookupAlias?_eq_find? {name : String} : p.lookupAlias? here name arity =
    (if arity = 0 then ((p.alias? here name).map Alias.target).toList else []).find? (p.declares arity) := by
  unfold lookupAlias?
  by_cases harity : arity = 0
  · subst harity
    rw [if_pos (beq_self_eq_true 0), if_pos rfl]
    cases p.alias? here name with
    | none => rfl
    | some a =>
      rw [Option.map_some, Option.filter_some, Option.toList_some, List.find?_singleton]
  · rw [if_neg (mt beq_iff_eq.1 harity), if_neg harity, List.find?_nil]

/-- The first candidate that is known is found. -/
lemma lookup?_eq_find?_candidates :
    p.lookup? here ref arity = (p.candidates here ref arity).find? (p.declares arity) := by
  unfold lookup? candidates
  cases ref.qualifier with
  | some q => rfl
  | none =>
    have hafter : ((if arity = 0 then ((p.alias? here ref.name).map Alias.target).toList else []) ++
        (here.scope.openings ++ p.globals.openings).map (Name.join · ref.name)).find? (p.declares arity) =
          (p.lookupAlias? here ref.name arity).or (p.lookupOpened? here ref.name arity) := by
      rw [List.find?_append, ← lookupAlias?_eq_find?]
      rfl
    dsimp only
    rw [List.find?_append, hafter]
    rfl

/-- An unqualified name that is no alias is tried in the types and namespaces around the property and in the opened
namespaces. -/
lemma candidates_unqualified {name : String} (halias : p.alias? here name = none) :
    p.candidates here ⟨none, name⟩ arity =
      here.entry.owner.withOuter.map (fun t => t.displayName ++ "." ++ name) ++
        (Name.chain here.entry.home).map (Name.join · name) ++
        (here.scope.openings ++ p.globals.openings).map (Name.join · name) := by
  have hnone : (if arity = 0 then ((p.alias? here name).map Alias.target).toList else []) = [] := by
    rw [halias]
    exact ite_self _
  unfold candidates
  dsimp only
  rw [hnone, List.nil_append]

/-- The full names that are tried for a name that is no alias end like it. -/
lemma simple_of_mem_candidates (halias : p.alias? here ref.name = none) {fullName : String}
    (h : fullName ∈ p.candidates here ref arity) : Name.simple fullName = Name.simple ref.name := by
  obtain ⟨qualifier, name⟩ := ref
  cases qualifier with
  | some q => exact AlikeAt.simple_of_mem_qualifiedNames h
  | none =>
    rw [candidates_unqualified halias] at h
    rcases List.mem_append.1 h with h | h
    · rcases List.mem_append.1 h with h | h
      · obtain ⟨t, -, rfl⟩ := List.mem_map.1 h
        exact Name.simple_append _ _
      · obtain ⟨ns, -, rfl⟩ := List.mem_map.1 h
        exact Name.simple_join _ _
    · obtain ⟨ns, -, rfl⟩ := List.mem_map.1 h
      exact Name.simple_join _ _

/-! ## Names that end like the marker -/

/-- The marker ends in its class name. -/
lemma simple_standardMarker : Name.simple standardMarker = "GenerateBonsaiAttribute" := by
  decide

/-- The marker is a class in its namespace. -/
lemma standardMarker_eq : standardMarker = markerHome ++ "." ++ "GenerateBonsaiAttribute" := by
  decide

/-- Of some names that end like the marker, the marker itself is found if it is one of them. -/
lemma find?_declares_eq (hmarker : MarkerAlone p) {names : List String}
    (hnames : ∀ fullName ∈ names, Name.simple fullName ∈ markerNames) :
    names.find? (p.declares 0) = if standardMarker ∈ names then some standardMarker else none := by
  cases hfound : names.find? (p.declares 0) with
  | none =>
    have hmissing : standardMarker ∉ names := by
      intro hmem
      exact List.find?_eq_none.1 hfound standardMarker hmem hmarker.declared
    rw [if_neg hmissing]
  | some fullName =>
    have hmem := List.mem_of_find?_eq_some hfound
    have heq := hmarker.alone fullName (List.find?_some hfound) (hnames fullName hmem)
    rw [heq] at hmem ⊢
    rw [if_pos hmem]

/-! ## The marker among the names that are tried -/

/-- A class with the name of the marker is the marker in its namespace alone. -/
lemma dotted_eq_marker_iff {s : String} : s ++ "." ++ "GenerateBonsaiAttribute" = standardMarker ↔ s = markerHome := by
  rw [standardMarker_eq]
  constructor
  · intro h
    have hlist := congrArg String.toList h
    rw [Name.toList_dotted, Name.toList_dotted] at hlist
    exact String.toList_injective (List.append_cancel_right hlist)
  · rintro rfl
    rfl

/-- The same for a namespace that may be the global one. -/
lemma join_eq_marker_iff {ns : String} : Name.join ns "GenerateBonsaiAttribute" = standardMarker ↔ ns = markerHome := by
  have hmarker : standardMarker = Name.join markerHome "GenerateBonsaiAttribute" := by decide
  rw [hmarker, Name.join_inj (by decide) (by decide)]
  exact ⟨And.left, fun h => ⟨h, rfl⟩⟩

/-- A name in a namespace of a namespace. -/
lemma join_dotted (ns s name : String) : Name.join ns (s ++ "." ++ name) = Name.join ns s ++ "." ++ name := by
  unfold Name.join
  split
  · rfl
  · rw [String.append_assoc, String.append_assoc, String.append_assoc, String.append_assoc, String.append_assoc]

/-- The marker is among the full names that are tried exactly if its namespace is in reach. -/
lemma marker_mem_candidates_iff (halias : p.alias? here "GenerateBonsaiAttribute" = none) {qualifier : Option String} :
    standardMarker ∈ p.candidates here ⟨qualifier, "GenerateBonsaiAttribute"⟩ 0 ↔ p.InReach here qualifier := by
  cases qualifier with
  | none =>
    simp only [candidates_unqualified halias, InReach, List.mem_append, List.mem_map, or_assoc, dotted_eq_marker_iff,
      join_eq_marker_iff, exists_eq_right]
  | some q =>
    simp only [candidates, qualifiedNames, InReach, List.mem_map, join_dotted, dotted_eq_marker_iff, standsFor_iff,
      exists_eq_left]

/-! ## Attributes -/

/-- Where the marker is alone, its short name names nothing. -/
lemma lookup?_short (hmarker : MarkerAlone p) (halias : p.alias? here "GenerateBonsai" = none)
    (qualifier : Option String) : p.lookup? here ⟨qualifier, "GenerateBonsai"⟩ 0 = none := by
  have hsimple : ∀ fullName ∈ p.candidates here ⟨qualifier, "GenerateBonsai"⟩ 0,
      Name.simple fullName = "GenerateBonsai" := by
    intro fullName hmem
    rw [simple_of_mem_candidates halias hmem]
    show Name.simple "GenerateBonsai" = "GenerateBonsai"
    decide
  rw [lookup?_eq_find?_candidates, find?_declares_eq hmarker, if_neg]
  · intro hmem
    have hshort := hsimple standardMarker hmem
    rw [simple_standardMarker] at hshort
    revert hshort
    decide
  · intro fullName hmem
    rw [hsimple fullName hmem]
    exact List.mem_cons_self

/-- Where the marker is alone, its full name is found exactly if it is among the names that are tried. -/
lemma lookup?_full (hmarker : MarkerAlone p) (halias : p.alias? here "GenerateBonsaiAttribute" = none)
    (qualifier : Option String) :
    p.lookup? here ⟨qualifier, "GenerateBonsaiAttribute"⟩ 0 =
      if standardMarker ∈ p.candidates here ⟨qualifier, "GenerateBonsaiAttribute"⟩ 0 then some standardMarker
      else none := by
  rw [lookup?_eq_find?_candidates, find?_declares_eq hmarker]
  intro fullName hmem
  rw [simple_of_mem_candidates halias hmem]
  show Name.simple "GenerateBonsaiAttribute" ∈ markerNames
  decide

/-- An attribute that is written like the marker is looked up as the marker in the end. -/
lemma attribute?_eq_lookup? (hmarker : MarkerAlone p) (halias : ∀ name ∈ markerNames, p.alias? here name = none)
    {written : String} (hname : (Name.split written).name ∈ markerNames) :
    p.attribute? here written = p.lookup? here ⟨(Name.split written).qualifier, "GenerateBonsaiAttribute"⟩ 0 := by
  have hshort := lookup?_short hmarker (halias _ List.mem_cons_self) (Name.split written).qualifier
  unfold attribute?
  dsimp only
  rcases List.mem_pair.1 hname with hname | hname
  · have hnames : attributeClassNames "GenerateBonsai" = ["GenerateBonsai", "GenerateBonsaiAttribute"] := by decide
    rw [hname, hnames, List.findSome?_cons, hshort, List.findSome?_singleton]
  · have hnames : attributeClassNames "GenerateBonsaiAttribute" = ["GenerateBonsaiAttribute"] := by decide
    rw [hname, hnames, List.findSome?_singleton]

/-- An attribute that is written like the marker is the marker exactly if the namespace of the marker is in reach of
the property, and else it is nothing.  This holds in every program in which no other type is called like the marker,
at every property at which no alias is. -/
theorem attribute?_eq_marker_iff (hmarker : MarkerAlone p) (halias : ∀ name ∈ markerNames, p.alias? here name = none)
    {written : String} (hname : (Name.split written).name ∈ markerNames) :
    (p.attribute? here written = some standardMarker ↔ p.InReach here (Name.split written).qualifier) ∧
      (¬ p.InReach here (Name.split written).qualifier → p.attribute? here written = none) := by
  have hfree := halias "GenerateBonsaiAttribute" (List.mem_cons_of_mem _ List.mem_cons_self)
  have hfull := lookup?_full hmarker hfree (Name.split written).qualifier
  rw [attribute?_eq_lookup? hmarker halias hname, hfull, ← marker_mem_candidates_iff hfree]
  refine ⟨⟨?_, ?_⟩, ?_⟩
  · intro hfound
    by_contra hmissing
    rw [if_neg hmissing] at hfound
    cases hfound
  · intro hmem
    rw [if_pos hmem]
  · intro hmissing
    rw [if_neg hmissing]

/-! ## An alias for the namespace of the marker -/

/-- The text from which the nodes below take their names. -/
def markedSource : Source :=
  Text.Utf8.encodeText "G = Corvus.Expressions.SourceGenerator ; C P G.GenerateBonsai G..GenerateBonsai"

/-- The target of the alias. -/
def markedTarget : Node :=
  .mk .qualifiedName .other true 4 38 []

/-- A file with the directive `using G = Corvus.Expressions.SourceGenerator` and a class `C` with a property `P` that
has the attributes `G.GenerateBonsai` and `G..GenerateBonsai`. -/
def markedFile : File where
  path := "A.cs"
  source := markedSource
  root := .mk .compilationUnit .other true 0 79
    [.mk .usingDirective .other true 0 40
      [.mk .identifier .name true 0 1 [], .mk .equalsSign .other false 2 3 [], markedTarget],
     .mk .classDeclaration .other true 41 79
      [.mk .identifier .name true 41 42 [],
       .mk .declarationList .body true 43 79
        [.mk .propertyDeclaration .other true 43 79
          [.mk .attributeList .other true 45 79
            [.mk .attribute .other true 45 61 [.mk .qualifiedName .name true 45 61 []],
             .mk .attribute .other true 62 79 [.mk .qualifiedName .name true 62 79 []]],
           .mk .predefinedType .type true 43 44 [], .mk .identifier .name true 43 44 []]]]]

/-- The property `P`. -/
def markedProperty : Property where
  entry := {
    declaration := {
      name := "P"
      attributeNames := ["G.GenerateBonsai", "G..GenerateBonsai"]
      path := "A.cs"
      line := 1 }
    type := some (.mk .predefinedType .type true 43 44 [])
    source := markedSource
    home := ""
    owner := .inNamespace ⟨"C", "class", []⟩ "" ""
    isStatic := false }
  scope := { aliases := [⟨"G", markerHome, markedTarget, markedSource⟩] }

/-- The program of the file. -/
def markedProgram : Compilation where
  types := (wellKnownTypes ++ [TypeEntry.mk "C" 0 .classType]).reverse
  globals := implicitGlobals
  properties := [markedProperty]
  broken := []

/-- The file has the property and makes up the program. -/
lemma read_markedFile : markedFile.properties[0]? = some markedProperty ∧ ofFiles [markedFile] = markedProgram := by
  decide +kernel

/-- No other class is called like the marker. -/
lemma markerAlone_markedProgram : MarkerAlone markedProgram := by
  have hall : markedProgram.declares 0 standardMarker = true ∧ ∀ t ∈ markedProgram.types, t.arity = 0 →
      Name.simple t.fullName ∈ markerNames → t.fullName = standardMarker := by
    decide +kernel
  refine ⟨hall.1, ?_⟩
  intro fullName hdeclared hname
  obtain ⟨kind, hkind⟩ := Option.isSome_iff_exists.1 hdeclared
  obtain ⟨t, ht, rfl, harity, -⟩ := exists_entry_of_kind? hkind
  exact hall.2 t ht harity hname

/-- No alias is called like the marker. -/
lemma alias?_markedProperty : ∀ name ∈ markerNames, markedProgram.alias? markedProperty name = none := by
  decide

/-- The property is in no namespace. -/
lemma chain_markedProperty : Name.chain markedProperty.entry.home = [""] :=
  Name.chain_empty

/-- The alias `G` leads to the namespace of the marker. -/
lemma alias?_markedProperty_G : markedProgram.alias? markedProperty "G" =
    some ⟨"G", markerHome, markedTarget, markedSource⟩ :=
  rfl

/-- What stands for that namespace reaches the marker from the property. -/
lemma inReach_markedProperty {q : String} (h : markedProgram.StandsFor markedProperty q markerHome) :
    markedProgram.InReach markedProperty (some q) := by
  refine ⟨markerHome, h, "", ?_, rfl⟩
  rw [chain_markedProperty]
  exact List.mem_cons_self

/-- With an alias for the namespace, the attribute is the marker if it is written with the alias in front, and nothing
if it is not. -/
theorem attribute?_markedProperty :
    MarkerAlone (ofFiles [markedFile]) ∧ markedFile.properties[0]? = some markedProperty ∧
    (∀ name ∈ markerNames, (ofFiles [markedFile]).alias? markedProperty name = none) ∧
    (ofFiles [markedFile]).InReach markedProperty (some "G") ∧
    (ofFiles [markedFile]).attribute? markedProperty "G.GenerateBonsai" = some standardMarker ∧
    ¬ (ofFiles [markedFile]).InReach markedProperty none ∧
    (ofFiles [markedFile]).attribute? markedProperty "GenerateBonsai" = none := by
  have hqualified : Name.split "G.GenerateBonsai" = ⟨some "G", "GenerateBonsai"⟩ := by decide
  have hplain : Name.split "GenerateBonsai" = ⟨none, "GenerateBonsai"⟩ := by decide
  have hreach : markedProgram.InReach markedProperty (some "G") :=
    inReach_markedProperty (.target (by decide) alias?_markedProperty_G)
  have hout : ¬ markedProgram.InReach markedProperty none := by
    unfold InReach
    rw [chain_markedProperty]
    decide
  have hname : (Name.split "G.GenerateBonsai").name ∈ markerNames := by decide
  have hname' : (Name.split "GenerateBonsai").name ∈ markerNames := by decide
  have hfound := (attribute?_eq_marker_iff markerAlone_markedProgram alias?_markedProperty hname).1
  have hmissing := (attribute?_eq_marker_iff markerAlone_markedProgram alias?_markedProperty hname').2
  rw [hqualified] at hfound
  rw [hplain] at hmissing
  rw [read_markedFile.2]
  exact ⟨markerAlone_markedProgram, read_markedFile.1, alias?_markedProperty, hreach, hfound.2 hreach, hout,
    hmissing hout⟩

/-- A qualifier with the target written in place of an alias in front, and all that follows as it is. -/
def replacedFirst (p : Compilation) (here : Property) (q : String) : String :=
  match p.alias? here (Name.firstSegment q) with
  | some a => a.target ++ String.ofList (q.toList.dropWhile (· != '.'))
  | none => q

/-- A dot that nothing follows is left out: the attribute `G..GenerateBonsai` has the qualifier `G.` and is the marker,
although no namespace is called `Corvus.Expressions.SourceGenerator.` with a dot at its end. -/
theorem dangling_qualifier_finds_marker :
    MarkerAlone (ofFiles [markedFile]) ∧ markedFile.properties[0]? = some markedProperty ∧
    "G..GenerateBonsai" ∈ markedProperty.entry.declaration.attributeNames ∧
    (∀ name ∈ markerNames, (ofFiles [markedFile]).alias? markedProperty name = none) ∧
    Name.split "G..GenerateBonsai" = ⟨some "G.", "GenerateBonsai"⟩ ∧
    (ofFiles [markedFile]).attribute? markedProperty "G..GenerateBonsai" = some standardMarker ∧
    ∀ ns ∈ Name.chain markedProperty.entry.home,
      Name.join ns ((ofFiles [markedFile]).replacedFirst markedProperty "G.") ≠ markerHome := by
  have hname : (Name.split "G..GenerateBonsai").name ∈ markerNames := by decide
  have hsplit : Name.split "G..GenerateBonsai" = ⟨some "G.", "GenerateBonsai"⟩ := by decide
  have hmember : "G..GenerateBonsai" ∈ markedProperty.entry.declaration.attributeNames :=
    List.mem_cons_of_mem _ List.mem_cons_self
  have hmarked : markedProgram.attribute? markedProperty "G..GenerateBonsai" = some standardMarker := by
    have halias := alias?_markedProperty "GenerateBonsaiAttribute" (List.mem_cons_of_mem _ List.mem_cons_self)
    rw [attribute?_eq_lookup? markerAlone_markedProgram alias?_markedProperty hname, hsplit,
      lookup?_full markerAlone_markedProgram halias (some "G."), if_pos]
    rw [marker_mem_candidates_iff halias]
    have hsegment : '.' ∉ "G".toList := by decide
    exact inReach_markedProperty (StandsFor.dangling hsegment alias?_markedProperty_G)
  have hreplaced : markedProgram.replacedFirst markedProperty "G." = markerHome ++ "." := by
    have hfirst : Name.firstSegment "G." = "G" := by decide
    rw [replacedFirst, hfirst, alias?_markedProperty_G]
    decide
  rw [read_markedFile.2]
  refine ⟨markerAlone_markedProgram, read_markedFile.1, hmember, alias?_markedProperty, hsplit, hmarked, ?_⟩
  intro ns hns
  rw [chain_markedProperty, List.mem_singleton] at hns
  rw [hns, hreplaced]
  decide

end CSharp.Compilation

end PropertyQuote
