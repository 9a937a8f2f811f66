import PropertyQuote.Proofs.CSharp.Resolution
import PropertyQuote.Proofs.CSharp.Walk

/-!
# Files that are unrelated to a property

A file that is added to a program changes the numbers of properties and the table of types.  The symbol of a property
stays if the file puts no directive in force elsewhere and declares no type that ends like a name the property
mentions.
-/

namespace PropertyQuote.CSharp

namespace Compilation

variable {files : List File} {f g : File} {k : Nat} {here : Property}

/-- An added file is put somewhere between the others. -/
lemma byPath_cons (f : File) (files : List File) :
    ∃ before after, byPath (f :: files) = before ++ f :: after ∧ byPath files = before ++ after := by
  obtain ⟨before, after, hcons, hfiles, -⟩ := List.mergeSort_cons path_trans path_total f files
  exact ⟨before, after, hcons, hfiles⟩

/-- A file without directives for all files leaves those of the program. -/
lemma globals_cons (hglobals : globalsIn f.outline = []) :
    (ofFiles (f :: files)).globals = (ofFiles files).globals := by
  obtain ⟨before, after, hcons, hfiles⟩ := byPath_cons f files
  rw [globals_ofFiles, globals_ofFiles, hcons, hfiles, List.flatMap_append, List.flatMap_append, List.flatMap_cons,
    hglobals, List.nil_append]

/-- What a name stands for that the added file does not declare. -/
lemma kind?_cons {fullName : String} (hother : ∀ t ∈ typesIn f.outline, t.fullName ≠ fullName) (arity : Nat) :
    (ofFiles (f :: files)).kind? fullName arity = (ofFiles files).kind? fullName arity := by
  obtain ⟨before, after, hcons, hfiles⟩ := byPath_cons f files
  have hnone : (typesIn f.outline).reverse.find? (fun t => t.fullName == fullName && t.arity == arity) = none := by
    rw [List.find?_eq_none]
    intro t ht
    simp [hother t (List.mem_reverse.1 ht)]
  rw [kind?, kind?, types_ofFiles, types_ofFiles, hcons, hfiles]
  simp only [List.flatMap_append, List.flatMap_cons, List.reverse_append, List.append_assoc, List.find?_append,
    hnone, Option.none_or]

/-- A further file that puts no directive in force for all files, and that declares only types whose last names are
not among the names that a property mentions or their aliases, leaves the symbol of the property as it is. -/
theorem resolve?_cons_of_unrelated (hpaths : ((f :: files).map File.path).Nodup)
    (hglobals : globalsIn f.outline = []) (hg : g ∈ files) (hk : g.properties[k]? = some here)
    (hother : ∀ t ∈ typesIn f.outline, ∀ m ∈ (ofFiles files).mentions here,
      ∀ name ∈ (ofFiles files).namesOf here m, Name.simple t.fullName ≠ Name.simple name) :
    (ofFiles files).resolve? (numberOf files g k) here.entry.declaration = (ofFiles files).symbol? here ∧
    ∀ d, (ofFiles (f :: files)).resolve? (numberOf (f :: files) g k) d =
      (ofFiles files).resolve? (numberOf files g k) d := by
  have hfiles := resolve?_numberOf (List.nodup_cons.1 hpaths).2 hg hk
  have hcons := resolve?_numberOf hpaths (List.mem_cons_of_mem f hg) hk
  have hsymbol : (ofFiles (f :: files)).symbol? here = (ofFiles files).symbol? here := by
    apply symbol?_congr
    intro m hm
    refine alikeAt_of_globals (globals_cons hglobals) ?_
    intro name hname fullName arity hsimple
    refine kind?_cons ?_ arity
    rintro t ht rfl
    exact hother t ht m hm name hname hsimple
  refine ⟨?_, ?_⟩
  · rw [hfiles, if_pos rfl]
  · intro d
    rw [hfiles, hcons, hsymbol]

/-! ## An attribute that is an alias -/

/-- The text `M = K ; C P`, from which the nodes below take their names. -/
def aliasSource : Source :=
  Text.Utf8.encodeText "M = K ; C P"

/-- The target of the alias. -/
def aliasTarget : Node :=
  .mk .identifier .other true 4 5 []

/-- A file with the directive `using M = K` and a class `C` with a property `P` that has the attribute `M`. -/
def aliasFile : File where
  path := "B.cs"
  source := aliasSource
  root := .mk .compilationUnit .other true 0 11
    [.mk .usingDirective .other true 0 7
      [.mk .identifier .name true 0 1 [], .mk .equalsSign .other false 2 3 [], aliasTarget],
     .mk .classDeclaration .other true 0 11
      [.mk .identifier .name true 8 9 [],
       .mk .declarationList .body true 9 11
        [.mk .propertyDeclaration .other true 10 11
          [.mk .attributeList .other true 0 1 [.mk .attribute .other true 0 1 [.mk .identifier .name true 0 1 []]],
           .mk .predefinedType .type true 10 11 [], .mk .identifier .name true 10 11 []]]]]

/-- The property of the class. -/
def aliasProperty : Property where
  entry := {
    declaration := { name := "P", attributeNames := ["M"], path := "B.cs", line := 1 }
    type := some (.mk .predefinedType .type true 10 11 [])
    source := aliasSource
    home := ""
    owner := .inNamespace ⟨"C", "class", []⟩ "" ""
    isStatic := false }
  scope := { aliases := [⟨"M", "K", aliasTarget, aliasSource⟩] }

/-- A file with one class, whose name is one letter. -/
def typeFile (name : String) : File where
  path := "A.cs"
  source := Text.Utf8.encodeText name
  root := .mk .compilationUnit .other true 0 1
    [.mk .classDeclaration .other true 0 1 [.mk .identifier .name true 0 1 []]]

/-- A program of the file and files that declare the given classes. -/
def aliasProgram (names : List String) : Compilation where
  types := (wellKnownTypes ++ (names ++ ["C"]).map (TypeEntry.mk · 0 .classType)).reverse
  globals := implicitGlobals
  properties := [aliasProperty]
  broken := []

/-- The file has the property and makes up a program of its own. -/
lemma read_aliasFile : aliasFile.properties[0]? = some aliasProperty ∧ ofFiles [aliasFile] = aliasProgram [] := by
  decide +kernel

/-- The other file declares its class and has no directives for all files. -/
lemma read_typeFile {name : String} (h : name = "K" ∨ name = "D") :
    typesIn (typeFile name).outline = [⟨name, 0, .classType⟩] ∧ globalsIn (typeFile name).outline = [] := by
  rcases h with rfl | rfl <;> decide +kernel

/-- Both files make up a program with both classes. -/
lemma ofFiles_typeFile : ofFiles [typeFile "K", aliasFile] = aliasProgram ["K"] := by
  have hsorted : byPath [typeFile "K", aliasFile] = [typeFile "K", aliasFile] :=
    List.mergeSort_of_pairwise (by decide)
  unfold ofFiles
  rw [← byPath, hsorted]
  decide +kernel

/-- The attribute of the property is the class `K` if there is one. -/
lemma attribute?_aliasProperty : (aliasProgram ["K"]).attribute? aliasProperty "M" = some "K" ∧
    (aliasProgram []).attribute? aliasProperty "M" = none := by
  decide +kernel

/-- The type of the property mentions no name. -/
lemma typeMentions_aliasProperty (p : Compilation) : p.typeMentions aliasProperty = [] := by
  have hwritten : writtenAs? aliasSource (.mk .predefinedType .type true 10 11 []) = none := by
    rw [writtenAs?, withoutNullable, if_neg (by decide), writtenType?]
    rfl
  rw [typeMentions]
  exact congrArg (fun o => o.toList.flatMap (p.mentionsOf aliasProperty)) hwritten

/-- Its attribute is looked up under two names. -/
lemma attributeMentions_aliasProperty :
    attributeMentions aliasProperty = [⟨⟨none, "M"⟩, 0⟩, ⟨⟨none, "MAttribute"⟩, 0⟩] := by
  decide

/-- The symbol of the property changes with a file that declares the target of the alias, though no name in the type
or in the attributes ends like it. -/
theorem alias_of_attribute_related :
    ([typeFile "K", aliasFile].map File.path).Nodup ∧ globalsIn (typeFile "K").outline = [] ∧
    aliasFile.properties[0]? = some aliasProperty ∧
    (∀ t ∈ typesIn (typeFile "K").outline,
      (∀ m ∈ (ofFiles [aliasFile]).typeMentions aliasProperty,
        ∀ name ∈ (ofFiles [aliasFile]).namesOf aliasProperty m, Name.simple t.fullName ≠ Name.simple name) ∧
      ∀ m ∈ attributeMentions aliasProperty, Name.simple t.fullName ≠ Name.simple m.ref.name) ∧
    (ofFiles [typeFile "K", aliasFile]).resolve? (numberOf [typeFile "K", aliasFile] aliasFile 0)
        aliasProperty.entry.declaration ≠
      (ofFiles [aliasFile]).resolve? (numberOf [aliasFile] aliasFile 0) aliasProperty.entry.declaration := by
  obtain ⟨hproperty, halone⟩ := read_aliasFile
  obtain ⟨htypes, hglobals⟩ := read_typeFile (.inl rfl : "K" = "K" ∨ _)
  refine ⟨by decide, hglobals, hproperty, ?_, ?_⟩
  · rw [htypes, typeMentions_aliasProperty, attributeMentions_aliasProperty]
    simp only [List.forall_mem_singleton, List.forall_mem_cons]
    exact ⟨fun _ hmem => absurd hmem List.not_mem_nil, by decide, by decide⟩
  · obtain ⟨hfound, hmissing⟩ := attribute?_aliasProperty
    rw [resolve?_numberOf (by decide) (by simp) hproperty, resolve?_numberOf (by decide) (by simp) hproperty,
      if_pos rfl, if_pos rfl, ofFiles_typeFile, halone]
    intro heq
    have hattributes : some (["M"].filterMap ((aliasProgram ["K"]).attribute? aliasProperty)) =
        some (["M"].filterMap ((aliasProgram []).attribute? aliasProperty)) :=
      congrArg (Option.map PropertySymbol.attributes) heq
    simp [hfound, hmissing] at hattributes

/-- A file with another type leaves the symbol as it is. -/
theorem resolve?_cons_typeFile :
    (∀ t ∈ typesIn (typeFile "D").outline, ∀ m ∈ (ofFiles [aliasFile]).mentions aliasProperty,
      ∀ name ∈ (ofFiles [aliasFile]).namesOf aliasProperty m, Name.simple t.fullName ≠ Name.simple name) ∧
    ∀ d, (ofFiles [typeFile "D", aliasFile]).resolve? (numberOf [typeFile "D", aliasFile] aliasFile 0) d =
      (ofFiles [aliasFile]).resolve? (numberOf [aliasFile] aliasFile 0) d := by
  obtain ⟨hproperty, halone⟩ := read_aliasFile
  obtain ⟨htypes, hglobals⟩ := read_typeFile (.inr rfl : "D" = "K" ∨ _)
  have hother : ∀ t ∈ typesIn (typeFile "D").outline, ∀ m ∈ (ofFiles [aliasFile]).mentions aliasProperty,
      ∀ name ∈ (ofFiles [aliasFile]).namesOf aliasProperty m, Name.simple t.fullName ≠ Name.simple name := by
    have hM : (aliasProgram []).namesOf aliasProperty ⟨⟨none, "M"⟩, 0⟩ = ["M", "K"] := rfl
    have hMAttribute : (aliasProgram []).namesOf aliasProperty ⟨⟨none, "MAttribute"⟩, 0⟩ = ["MAttribute"] := by
      decide
    rw [halone, htypes, mentions, typeMentions_aliasProperty, attributeMentions_aliasProperty]
    simp only [List.nil_append, List.forall_mem_singleton, List.forall_mem_cons, hM, hMAttribute]
    decide
  refine ⟨hother, ?_⟩
  exact (resolve?_cons_of_unrelated (by decide) hglobals List.mem_cons_self hproperty hother).2

end Compilation

end PropertyQuote.CSharp
