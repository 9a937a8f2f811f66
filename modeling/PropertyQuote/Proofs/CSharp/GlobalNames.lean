import PropertyQuote.Proofs.CSharp.Names

/-!
# Names after `global::`

The word `global::` in front of an attribute's name is left out before the name is looked up.  So the name is that of a
type from the global namespace unless the surroundings of the property capture it.

* `Name.Dotted`: segments with dots between them.
* `split_global`: the name after `global::` is split like the name alone.
* `attribute?_global`: what the attribute is.
-/

namespace PropertyQuote

namespace Name

/-- A segment of a dotted name. -/
def IsSegment (s : String) : Prop :=
  s ≠ "" ∧ ∀ c ∈ s.toList, c ≠ '.' ∧ c ≠ ':' ∧ c ≠ '<' ∧ Text.isBlank c = false

/-- Segments with dots between them. -/
inductive Dotted : String → Prop where
  | segment {s} (hs : IsSegment s) : Dotted s
  | member {q s} (hq : Dotted q) (hs : IsSegment s) : Dotted (q ++ "." ++ s)

/-- Segments with dots between them are not empty. -/
lemma Dotted.ne_empty {q : String} (h : Dotted q) : q ≠ "" := by
  cases h with
  | segment hs => exact hs.1
  | @member q s =>
    intro hempty
    have hlist := congrArg String.toList hempty
    rw [toList_dotted] at hlist
    exact absurd hlist (List.append_ne_nil_of_right_ne_nil _ (List.cons_ne_nil _ _))

/-- A segment has no dot. -/
lemma IsSegment.dot_notMem {s : String} (h : IsSegment s) : '.' ∉ s.toList :=
  fun hdot => (h.2 '.' hdot).1 rfl

/-- Beside its dots, a dotted name holds only what its segments hold. -/
lemma Dotted.plain {q : String} (h : Dotted q) :
    ∀ c ∈ q.toList, c ≠ ':' ∧ c ≠ '<' ∧ Text.isBlank c = false := by
  induction h with
  | segment hs => exact fun c hc => (hs.2 c hc).2
  | member _ hs ih =>
    intro c hc
    rw [toList_dotted, List.mem_append, List.mem_cons] at hc
    rcases hc with hc | rfl | hc
    · exact ih c hc
    · decide
    · exact (hs.2 c hc).2

/-- A dotted name is normal. -/
lemma Dotted.normal {q : String} (h : Dotted q) : Normal q.toList where
  no_blank := fun c hc => (h.plain c hc).2.2
  no_colons := fun hcolons => (h.plain ':' (hcolons.subset List.mem_cons_self)).1 rfl

/-- Such a name is normal. -/
lemma Dotted.normalise_eq {q : String} (h : Dotted q) : normalise q.toList = q.toList :=
  normalise_eq_self_iff.2 h.normal

/-- The text of a written name without the blanks in it. -/
def withoutBlanks (s : String) : String :=
  String.ofList (s.toList.filter fun c => !Text.isBlank c)

/-- The word `global::` in front of a dotted name is left out. -/
lemma Dotted.normalise_global {q written : String} (h : Dotted q) (hwritten : withoutBlanks written = "global::" ++ q) :
    normalise written.toList = q.toList := by
  have hfilter : written.toList.filter (fun c => !Text.isBlank c) = "global::".toList ++ q.toList := by
    have hlist := congrArg String.toList hwritten
    rw [withoutBlanks, String.toList_ofList, String.toList_append] at hlist
    exact hlist
  have hglobal : withoutGlobal ("global::".toList ++ q.toList) = q.toList := by
    rw [withoutGlobal, if_pos (List.isPrefixOf_iff_prefix.2 (List.prefix_append _ _))]
    rfl
  rw [normalise, hfilter, hglobal, dotted_of_no_colons h.normal.no_colons]

/-- The name after `global::` is split like the name alone. -/
lemma Dotted.split_global {q written : String} (h : Dotted q) (hwritten : withoutBlanks written = "global::" ++ q) :
    split written = split q := by
  rw [split, split, h.normalise_global hwritten, h.normalise_eq]

/-- A name with dots is split at its last one. -/
lemma Dotted.split_eq {q : String} (h : Dotted q) :
    split q = ⟨qualifier? (String.ofList (init q.toList)), String.ofList (last q.toList)⟩ := by
  have hopen : q.toList.takeWhile (· != '<') = q.toList := by
    rw [List.takeWhile_eq_self_iff]
    exact fun c hc => bne_iff_ne.2 (h.plain c hc).2.1
  rw [split, h.normalise_eq, hopen]

/-- A dotted name is split in front of its last segment. -/
lemma Dotted.split_cases {q : String} (h : Dotted q) :
    (IsSegment q ∧ split q = ⟨none, q⟩) ∨
      ∃ home s, IsSegment s ∧ q = home ++ "." ++ s ∧ split q = ⟨some home, s⟩ := by
  rw [h.split_eq]
  cases h with
  | segment hs =>
    refine .inl ⟨hs, ?_⟩
    rw [(last_of_notMem hs.dot_notMem).1, (last_of_notMem hs.dot_notMem).2, String.ofList_toList]
    rfl
  | @member home s hhome hs =>
    refine .inr ⟨home, s, hs, rfl, ?_⟩
    obtain ⟨hlast, hinit⟩ := @last_append_of_notMem home.toList s.toList hs.dot_notMem
    rw [toList_dotted, hlast, hinit, String.ofList_toList, String.ofList_toList, qualifier?,
      if_neg (mt String.isEmpty_iff.1 hhome.ne_empty)]

end Name

namespace CSharp.Compilation

variable {p : Compilation} {here : Property} {q written : String}

/-! ## The names of an attribute -/

/-- The usual ending holds no dot, so it is that of the last segment. -/
lemma isSuffixOf_dotted (home s : String) :
    "Attribute".toList.isSuffixOf (home ++ "." ++ s).toList = "Attribute".toList.isSuffixOf s.toList := by
  have hwhole : '.' :: s.toList <:+ (home ++ "." ++ s).toList := by
    rw [Name.toList_dotted]
    exact List.suffix_append _ _
  have hdot : '.' ∉ "Attribute".toList := by decide
  rw [Bool.eq_iff_iff, List.isSuffixOf_iff_suffix, List.isSuffixOf_iff_suffix]
  constructor
  · intro hsuffix
    rcases List.suffix_or_suffix_of_suffix hsuffix hwhole with h | h
    · rcases List.suffix_cons_iff.1 h with h | h
      · rw [h] at hdot
        exact absurd List.mem_cons_self hdot
      · exact h
    · exact absurd (h.subset List.mem_cons_self) hdot
  · exact fun hsuffix => (hsuffix.trans (List.suffix_cons _ _)).trans hwhole

/-- The full names that an attribute with a dotted name spells. -/
lemma map_fullName_attributeRefs (h : Name.Dotted q) :
    (attributeRefs q).map Name.Reference.fullName = attributeClassNames q := by
  rcases h.split_cases with ⟨-, hsplit⟩ | ⟨home, s, -, rfl, hsplit⟩
  · rw [attributeRefs, hsplit, List.map_map]
    exact List.map_id _
  · rw [attributeRefs, hsplit, List.map_map]
    unfold attributeClassNames
    rw [isSuffixOf_dotted]
    dsimp only
    split
    · rfl
    · simp [Name.Reference.fullName, String.append_assoc]

/-- Where nothing captures its names, an attribute is the first of the full names that it spells. -/
lemma attribute?_of_undisturbed (h : Name.Dotted q) (hfree : ∀ ref ∈ attributeRefs q, p.Undisturbed here ref 0) :
    p.attribute? here q = (attributeClassNames q).find? (p.declares 0) := by
  rw [attribute?_eq_findSome?, ← map_fullName_attributeRefs h]
  generalize attributeRefs q = refs at hfree
  induction refs with
  | nil => rfl
  | cons ref refs ih =>
    obtain ⟨hfirst, hrest⟩ := List.forall_mem_cons.1 hfree
    rw [List.findSome?_cons, lookup?_of_undisturbed hfirst, List.map_cons, List.find?_cons]
    cases p.declares 0 ref.fullName with
    | true => rfl
    | false => exact ih hrest

/-- An attribute that is written as a dotted name after `global::` is what it is without `global::`.  It is one of the
full names that the dotted name spells, with and without the usual ending, or it comes from the surroundings of the
property; and where these provide nothing else, it is the first of those full names that is known. -/
theorem attribute?_global (hname : Name.Dotted q) (hwritten : Name.withoutBlanks written = "global::" ++ q) :
    p.attribute? here written = p.attribute? here q ∧
    (∀ r, p.attribute? here written = some r → p.declares 0 r = true ∧
      (r = q ∨ r = q ++ "Attribute" ∨ ∃ ref ∈ attributeRefs q, p.Provides here ref 0 r)) ∧
    ((∀ ref ∈ attributeRefs q, p.Undisturbed here ref 0) →
      p.attribute? here written = (attributeClassNames q).find? (p.declares 0)) := by
  have hsame : p.attribute? here written = p.attribute? here q := by
    rw [attribute?, attribute?, hname.split_global hwritten]
  rw [hsame]
  refine ⟨rfl, ?_, attribute?_of_undisturbed hname⟩
  intro r hr
  rw [attribute?_eq_findSome?] at hr
  obtain ⟨ref, href, hfound⟩ := List.exists_of_findSome?_eq_some hr
  obtain ⟨hdeclared, hprovided⟩ := provides_of_lookup? hfound
  refine ⟨hdeclared, ?_⟩
  rcases hprovided with hprovided | rfl
  · exact .inr (.inr ⟨ref, href, hprovided⟩)
  · have hspelled : ref.fullName ∈ attributeClassNames q := by
      rw [← map_fullName_attributeRefs hname]
      exact List.mem_map_of_mem href
    unfold attributeClassNames at hspelled
    split at hspelled
    · exact .inl (List.mem_singleton.1 hspelled)
    · rcases List.mem_pair.1 hspelled with heq | heq
      · exact .inl heq
      · exact .inr (.inl heq)

/-! ## A name inside a namespace of the same name -/

/-- The text from which the nodes below take their names. -/
def globalSource : Source :=
  Text.Utf8.encodeText "L M A.L A C P D global::L.M"

/-- A class `M`. -/
def globalClass : Node :=
  .mk .classDeclaration .other true 2 3 [.mk .identifier .name true 2 3 []]

/-- A property `P` with the attribute `global::L.M`. -/
def globalNode : Node :=
  .mk .propertyDeclaration .other true 12 27
    [.mk .attributeList .other true 16 27
      [.mk .attribute .other true 16 27 [.mk .qualifiedName .name true 16 27 []]],
     .mk .predefinedType .type true 12 13 [], .mk .identifier .name true 12 13 []]

/-- A file with a class `M` in the namespaces `L` and `A.L`, and with the property in a class `C` of the namespace `A` and
in a class `D` of no namespace. -/
def globalFile : File where
  path := "A.cs"
  source := globalSource
  root := .mk .compilationUnit .other true 0 27
    [.mk .namespaceDeclaration .other true 0 3
      [.mk .identifier .name true 0 1 [], .mk .declarationList .body true 2 3 [globalClass]],
     .mk .namespaceDeclaration .other true 4 7
      [.mk .qualifiedName .name true 4 7 [], .mk .declarationList .body true 2 3 [globalClass]],
     .mk .namespaceDeclaration .other true 8 13
      [.mk .identifier .name true 8 9 [],
       .mk .declarationList .body true 10 13
        [.mk .classDeclaration .other true 10 13
          [.mk .identifier .name true 10 11 [], .mk .declarationList .body true 12 27 [globalNode]]]],
     .mk .classDeclaration .other true 14 27
      [.mk .identifier .name true 14 15 [], .mk .declarationList .body true 12 27 [globalNode]]]

/-- The property in the given class and namespace. -/
def globalEntry (name home : String) : PropertyEntry where
  declaration := { name := "P", attributeNames := ["global::L.M"], path := "A.cs", line := 1 }
  type := some (.mk .predefinedType .type true 12 13 [])
  source := globalSource
  home := home
  owner := .inNamespace ⟨name, "class", []⟩ home home
  isStatic := false

/-- The property in the namespace `A`. -/
def capturedProperty : Property :=
  ⟨globalEntry "C" "A", {}⟩

/-- The property in no namespace. -/
def freeProperty : Property :=
  ⟨globalEntry "D" "", {}⟩

/-- The program of the file. -/
def globalProgram : Compilation where
  types := (wellKnownTypes ++ [TypeEntry.mk "L.M" 0 .classType, TypeEntry.mk "A.L.M" 0 .classType,
    TypeEntry.mk "A.C" 0 .classType, TypeEntry.mk "D" 0 .classType]).reverse
  globals := implicitGlobals
  properties := [capturedProperty, freeProperty]
  broken := []

/-- The file makes up the program. -/
lemma ofFiles_globalFile : ofFiles [globalFile] = globalProgram := by
  decide +kernel

/-- In the namespace `A` the attribute is the inner class, although the outer one is known.  In no namespace the outer
class is the first known one of the names of the attribute. -/
lemma lookups_globalProgram : globalProgram.declares 0 "L.M" = true ∧
    globalProgram.attribute? capturedProperty "global::L.M" = some "A.L.M" ∧
    (attributeClassNames "L.M").find? (globalProgram.declares 0) = some "L.M" := by
  decide +kernel

/-- The attribute is looked up under two names. -/
lemma attributeRefs_globalFile : attributeRefs "L.M" = [⟨some "L", "M"⟩, ⟨some "L", "MAttribute"⟩] := by
  decide

/-- Its name is two segments. -/
lemma dotted_globalFile : Name.Dotted "L.M" := by
  have hL : Name.IsSegment "L" := ⟨by decide, List.forall_mem_singleton.2 (by decide)⟩
  have hM : Name.IsSegment "M" := ⟨by decide, List.forall_mem_singleton.2 (by decide)⟩
  exact .member (.segment hL) hM

/-- In the namespace `A` the attribute `global::L.M` is the class `A.L.M`, although the class `L.M` is known. -/
theorem global_name_captured :
    (ofFiles [globalFile]).properties[0]? = some capturedProperty ∧
    "global::L.M" ∈ capturedProperty.entry.declaration.attributeNames ∧
    (ofFiles [globalFile]).declares 0 "L.M" = true ∧
    (ofFiles [globalFile]).attribute? capturedProperty "global::L.M" = some "A.L.M" ∧
    "A.L.M" ≠ "L.M" ∧ "A.L.M" ≠ "L.M" ++ "Attribute" := by
  obtain ⟨hknown, hcaptured, -⟩ := lookups_globalProgram
  rw [ofFiles_globalFile]
  exact ⟨rfl, List.mem_cons_self, hknown, hcaptured, by decide, by decide⟩

/-- No surroundings capture the attribute of the property in no namespace. -/
lemma undisturbed_freeProperty (ref : Name.Reference) (href : ref ∈ attributeRefs "L.M") :
    globalProgram.Undisturbed freeProperty ref 0 := by
  have hhome : Name.chain freeProperty.entry.home = [""] := Name.chain_empty
  rw [attributeRefs_globalFile] at href
  have hqualifier : ref.qualifier = some "L" := by
    rcases List.mem_pair.1 href with rfl | rfl <;> rfl
  have halias : globalProgram.alias? freeProperty (Name.firstSegment "L") = none := by decide
  refine ⟨?_, ?_⟩
  · intro q hq
    obtain rfl := Option.some.inj (hqualifier.symm.trans hq)
    exact halias
  · intro r hr _
    cases hr with
    | relative _ hns hne =>
      rw [hhome, List.mem_singleton] at hns
      exact absurd hns hne
    | aliased hsome =>
      obtain rfl := Option.some.inj hqualifier
      rw [halias] at hsome
      cases hsome
    | _ => cases hqualifier

/-- In no namespace the attribute `global::L.M` is the class `L.M`. -/
theorem attribute?_global_free :
    (ofFiles [globalFile]).properties[1]? = some freeProperty ∧
    "global::L.M" ∈ freeProperty.entry.declaration.attributeNames ∧ Name.Dotted "L.M" ∧
    Name.withoutBlanks "global::L.M" = "global::" ++ "L.M" ∧
    (∀ ref ∈ attributeRefs "L.M", (ofFiles [globalFile]).Undisturbed freeProperty ref 0) ∧
    (ofFiles [globalFile]).attribute? freeProperty "global::L.M" = some "L.M" := by
  have hwritten : Name.withoutBlanks "global::L.M" = "global::" ++ "L.M" := by decide
  rw [ofFiles_globalFile]
  refine ⟨rfl, List.mem_cons_self, dotted_globalFile, hwritten, undisturbed_freeProperty, ?_⟩
  obtain ⟨-, -, habsolute⟩ := attribute?_global (p := globalProgram) dotted_globalFile hwritten
  rw [habsolute undisturbed_freeProperty]
  exact lookups_globalProgram.2.2

end CSharp.Compilation

end PropertyQuote
