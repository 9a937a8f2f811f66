import Mathlib.Data.List.Nodup
import PropertyQuote.Proofs.CSharp.Resolution
import PropertyQuote.Proofs.CSharp.Walk

/-!
# The order of files

A program takes its files in the order of their paths.  With other paths the types, the directives for all files and
the properties come in another order.  The symbols stay where the order decides nothing: no type is declared as two
things, no alias for all files is given twice, and no name is found in two of the namespaces that are open for all
files.

* `movedTo`, `outline_movedTo`: a path shows in the places of the properties alone.
* `find?_map_of_perm`: the first of some elements that are alike does not depend on their order.
* `resolve?_renamed`: symbols do not depend on the paths.
-/

namespace PropertyQuote.CSharp

variable {path path' : String} {source : Source} {files : List File} {f g : File} {k : Nat} {here : Property}

/-! ## Files at other paths -/

/-- The entry of a property with another path. -/
def PropertyEntry.movedTo (path : String) (e : PropertyEntry) : PropertyEntry :=
  { e with declaration := { e.declaration with path } }

/-- A property in a file at another path. -/
def Property.movedTo (path : String) (here : Property) : Property :=
  { here with entry := here.entry.movedTo path }

/-- A file at another path. -/
def File.movedTo (path : String) (f : File) : File :=
  { f with path }

/-- An outline with another path for its properties. -/
def movedTo (path : String) : List Item → List Item
  | [] => []
  | .property e :: rest => .property (e.movedTo path) :: movedTo path rest
  | .block items :: rest => .block (movedTo path items) :: movedTo path rest
  | .using isGlobal u :: rest => .using isGlobal u :: movedTo path rest
  | .type t :: rest => .type t :: movedTo path rest

/-- Outlines that follow each other are moved one by one. -/
lemma movedTo_append (items items' : List Item) :
    movedTo path (items ++ items') = movedTo path items ++ movedTo path items' := by
  induction items with
  | nil => rw [movedTo, List.nil_append, List.nil_append]
  | cons item items ih => cases item <;> simp [movedTo, ih]

/-- The types of an outline show no path. -/
lemma typesIn_movedTo (items : List Item) : typesIn (movedTo path items) = typesIn items := by
  fun_induction typesIn items <;> simp_all [movedTo, typesIn]

/-- The directives for all files show no path. -/
lemma globalsIn_movedTo (items : List Item) : globalsIn (movedTo path items) = globalsIn items := by
  fun_induction globalsIn items <;> simp_all [movedTo, globalsIn]

/-- What is in scope after an outline shows no path. -/
lemma after_movedTo (s : Scope) (items : List Item) : s.after (movedTo path items) = s.after items := by
  induction items generalizing s with
  | nil => rw [movedTo]
  | cons item items ih =>
    cases item with
    | «using» isGlobal u => cases isGlobal <;> simp [movedTo, Scope.after, ih]
    | type t => simp [movedTo, Scope.after, ih]
    | property e => simp [movedTo, Scope.after, ih]
    | block items' => simp [movedTo, Scope.after, ih]

/-- The properties of a moved outline are the moved properties. -/
lemma propertiesIn_movedTo (final current : Scope) (items : List Item) :
    propertiesIn final current (movedTo path items) =
      (propertiesIn final current items).map (Property.movedTo path) := by
  fun_induction propertiesIn final current items <;>
    simp_all [movedTo, propertiesIn, after_movedTo, Property.movedTo]

/-- A directive shows no path. -/
lemma movedTo_using? (n : Node) : movedTo path (using? source n).toList = (using? source n).toList := by
  unfold using?
  repeat' split
  all_goals simp [movedTo]

/-- A type without a body shows no path. -/
lemma movedTo_plainType? (home : String) (owner : Option TypeSymbol) (kind : TypeKind) (arity : Nat) (n : Node) :
    movedTo path (plainType? source home owner kind arity n).toList =
      (plainType? source home owner kind arity n).toList := by
  unfold plainType?
  dsimp only
  split <;> simp [movedTo]

/-- The property that a node declares shows its path in the entry. -/
lemma movedTo_property? (home : String) (owner : Option TypeSymbol) (n : Node) :
    movedTo path' ((owner.bind (property? path source home · n)).toList.map .property) =
      (owner.bind (property? path' source home · n)).toList.map .property := by
  cases owner with
  | none => rw [Option.bind_none, Option.bind_none, Option.toList_none, List.map_nil, movedTo]
  | some t =>
    unfold property?
    cases n.child? .name with
    | none => simp [movedTo]
    | some name => simp [movedTo, PropertyEntry.movedTo]

/-- A node adds the same at every path, if what is inside of it does. -/
lemma outlineNode_movedTo {n : Node}
    (hinside : ∀ home owner, outline path' source home owner n = movedTo path' (outline path source home owner n))
    (hbody : ∀ home owner,
      outlineBody path' source home owner n = movedTo path' (outlineBody path source home owner n))
    (home : String) (owner : Option TypeSymbol) :
    outlineNode path' source home owner n = movedTo path' (outlineNode path source home owner n) := by
  unfold outlineNode
  cases n.sort with
  | opened => exact hinside _ _
  | block =>
    dsimp only
    rw [hbody, movedTo, movedTo]
  | directive => exact (movedTo_using? n).symm
  | enumeration => exact (movedTo_plainType? _ _ _ _ n).symm
  | delegate => exact (movedTo_plainType? _ _ _ _ n).symm
  | property => exact (movedTo_property? home owner n).symm
  | members => exact hinside _ _
  | type kind =>
    dsimp only
    split
    · rw [movedTo]
    · rw [hbody, movedTo]
  | ignored =>
    dsimp only
    rw [movedTo]

/-- If each of some nodes adds the same at every path, so do they together. -/
lemma outlineAll_movedTo {ns : List Node}
    (h : ∀ n ∈ ns, ∀ home owner,
      outlineNode path' source home owner n = movedTo path' (outlineNode path source home owner n))
    (home : String) (owner : Option TypeSymbol) :
    outlineAll path' source home owner ns = movedTo path' (outlineAll path source home owner ns) := by
  induction ns generalizing home with
  | nil => rw [outlineAll_nil, outlineAll_nil, movedTo]
  | cons n ns ih =>
    obtain ⟨hn, hns⟩ := List.forall_mem_cons.1 h
    rw [outlineAll_cons, outlineAll_cons, movedTo_append, hn, ih hns]

/-- The body of a node is outlined alike at every path, if each child is. -/
lemma outlineFirstBody_movedTo {ns : List Node}
    (h : ∀ n ∈ ns, ∀ home owner,
      outline path' source home owner n = movedTo path' (outline path source home owner n))
    (home : String) (owner : Option TypeSymbol) :
    outlineFirstBody path' source home owner ns = movedTo path' (outlineFirstBody path source home owner ns) := by
  induction ns with
  | nil => rw [outlineFirstBody, outlineFirstBody, movedTo]
  | cons n ns ih =>
    obtain ⟨hn, hns⟩ := List.forall_mem_cons.1 h
    rw [outlineFirstBody, outlineFirstBody]
    split
    · exact hn home owner
    · exact ih hns

/-- Every node has the same outline at every path, but for the path itself. -/
lemma outline_movedTo (n : Node) :
    (∀ home owner, outline path' source home owner n = movedTo path' (outline path source home owner n)) ∧
    ∀ home owner, outlineBody path' source home owner n = movedTo path' (outlineBody path source home owner n) := by
  induction n using Node.induction with
  | node n ih =>
    constructor
    · intro home owner
      rw [outline_eq, outline_eq]
      apply outlineAll_movedTo
      intro c hc
      exact outlineNode_movedTo (ih c hc).1 (ih c hc).2
    · intro home owner
      rw [outlineBody_eq, outlineBody_eq]
      exact outlineFirstBody_movedTo (fun c hc => (ih c hc).1) home owner

/-- A moved file has the moved outline. -/
lemma File.outline_movedTo : (f.movedTo path).outline = CSharp.movedTo path f.outline :=
  (CSharp.outline_movedTo f.root).1 "" none

/-- A moved file has the moved properties. -/
lemma File.properties_movedTo : (f.movedTo path).properties = f.properties.map (Property.movedTo path) := by
  rw [File.properties, File.outline_movedTo, after_movedTo, propertiesIn_movedTo]
  rfl

/-! ## The order of types and directives -/

/-- The first of some elements that are alike does not depend on their order. -/
lemma find?_map_of_perm {α β : Type} {q : α → Bool} {v : α → β} {l l' : List α} (hperm : l'.Perm l)
    (halike : ∀ a ∈ l, ∀ b ∈ l, q a = true → q b = true → v a = v b) :
    (l'.find? q).map v = (l.find? q).map v := by
  cases hfound : l.find? q with
  | none =>
    have hnone : l'.find? q = none := by
      rw [List.find?_eq_none] at hfound ⊢
      exact fun a ha => hfound a (hperm.mem_iff.1 ha)
    rw [hnone]
  | some a =>
    have ha := List.mem_of_find?_eq_some hfound
    cases hfound' : l'.find? q with
    | none =>
      rw [List.find?_eq_none] at hfound'
      exact absurd (List.find?_some hfound) (hfound' a (hperm.mem_iff.2 ha))
    | some b =>
      have hb := hperm.mem_iff.1 (List.mem_of_find?_eq_some hfound')
      exact congrArg some (halike b hb a ha (List.find?_some hfound') (List.find?_some hfound))

/-- The alias that a directive introduces. -/
def Using.alias? : Using → Option Alias
  | .alias a => some a
  | .opening _ => none

/-- The namespace that a directive opens. -/
def Using.opening? : Using → Option String
  | .alias _ => none
  | .opening target => some target

/-- Directives are added to a scope with the openings in order and the latest alias in front. -/
lemma Scope.foldl_add (s : Scope) (us : List Using) :
    (us.foldl Scope.add s).openings = s.openings ++ us.filterMap Using.opening? ∧
    (us.foldl Scope.add s).aliases = (us.filterMap Using.alias?).reverse ++ s.aliases := by
  induction us generalizing s with
  | nil => simp
  | cons u us ih =>
    rw [List.foldl_cons]
    cases u with
    | opening target => simp [ih, Scope.add, Using.opening?, Using.alias?, List.filterMap_cons]
    | «alias» a => simp [ih, Scope.add, Using.opening?, Using.alias?, List.filterMap_cons]

namespace Compilation

variable {rename : String → String}

/-- Files at new paths. -/
def renamed (rename : String → String) (files : List File) : List File :=
  files.map fun f => f.movedTo (rename f.path)

/-- Each file is among the renamed ones, at its new path. -/
lemma mem_renamed (hg : g ∈ files) : g.movedTo (rename g.path) ∈ renamed rename files :=
  List.mem_map_of_mem hg

/-- New paths that keep files apart are distinct. -/
lemma nodup_renamed (hpaths : (files.map File.path).Nodup)
    (hrename : ∀ f ∈ files, ∀ g ∈ files, rename f.path = rename g.path → f.path = g.path) :
    ((renamed rename files).map File.path).Nodup := by
  have hmap : (renamed rename files).map File.path = (files.map File.path).map rename := by
    rw [renamed, List.map_map, List.map_map]
    rfl
  rw [hmap]
  refine hpaths.map_on ?_
  intro a ha b hb
  obtain ⟨f, hf, rfl⟩ := List.mem_map.1 ha
  obtain ⟨g, hg, rfl⟩ := List.mem_map.1 hb
  exact hrename f hf g hg

/-- What is taken from the outlines and does not depend on paths comes in another order. -/
lemma flatMap_renamed_perm {β : Type} {part : List Item → List β}
    (hpart : ∀ path items, part (movedTo path items) = part items) :
    ((byPath (renamed rename files)).flatMap fun f => part f.outline).Perm
      ((byPath files).flatMap fun f => part f.outline) := by
  have hsame : ((renamed rename files).flatMap fun f => part f.outline) = files.flatMap fun f => part f.outline := by
    rw [renamed, List.flatMap_map]
    simp only [File.outline_movedTo, hpart]
  have hleft := (byPath_perm (renamed rename files)).flatMap_right fun f => part f.outline
  have hright := (byPath_perm files).flatMap_right fun f => part f.outline
  rw [hsame] at hleft
  exact hleft.trans hright.symm

/-- No type is declared as two things. -/
def DeclaredOnce (files : List File) : Prop :=
  ∀ f ∈ files, ∀ g ∈ files, ∀ s ∈ typesIn f.outline, ∀ t ∈ typesIn g.outline,
    s.fullName = t.fullName → s.arity = t.arity → s.kind = t.kind

/-- The kind of a type does not depend on the paths, if no type is declared as two things. -/
lemma kind?_renamed (hdeclared : DeclaredOnce files) (fullName : String) (arity : Nat) :
    (ofFiles (renamed rename files)).kind? fullName arity = (ofFiles files).kind? fullName arity := by
  have hperm : ((byPath (renamed rename files)).flatMap fun f => typesIn f.outline).reverse.Perm
      ((byPath files).flatMap fun f => typesIn f.outline).reverse :=
    (List.reverse_perm _).trans
      ((flatMap_renamed_perm fun _ => typesIn_movedTo).trans (List.reverse_perm _).symm)
  have hfirst := find?_map_of_perm (q := fun t => t.fullName == fullName && t.arity == arity)
    (v := TypeEntry.kind) hperm ?_
  · -- the well-known types come after all that is declared, in every order of the files
    rw [kind?, kind?, types_ofFiles, types_ofFiles, List.reverse_append, List.reverse_append, List.find?_append,
      List.find?_append, Option.map_or, Option.map_or, hfirst]
  · intro s hs t ht hsq htq
    obtain ⟨f, hf, hs⟩ := List.mem_flatMap.1 (List.mem_reverse.1 hs)
    obtain ⟨g, hg, ht⟩ := List.mem_flatMap.1 (List.mem_reverse.1 ht)
    simp only [Bool.and_eq_true, beq_iff_eq] at hsq htq
    exact hdeclared f ((byPath_perm files).mem_iff.1 hf) g ((byPath_perm files).mem_iff.1 hg) s hs t ht
      (hsq.1.trans htq.1.symm) (hsq.2.trans htq.2.symm)

/-- The directives for all files are the same at all paths, in another order. -/
lemma globals_renamed_perm (rename : String → String) (files : List File) :
    (ofFiles (renamed rename files)).globals.openings.Perm (ofFiles files).globals.openings ∧
    (ofFiles (renamed rename files)).globals.aliases.Perm (ofFiles files).globals.aliases := by
  have hperm : ((byPath (renamed rename files)).flatMap fun f => globalsIn f.outline).Perm
      ((byPath files).flatMap fun f => globalsIn f.outline) :=
    flatMap_renamed_perm fun _ => globalsIn_movedTo
  rw [globals_ofFiles, globals_ofFiles, (Scope.foldl_add _ _).1, (Scope.foldl_add _ _).1, (Scope.foldl_add _ _).2,
    (Scope.foldl_add _ _).2]
  constructor
  · exact (hperm.filterMap Using.opening?).append_left _
  · refine List.Perm.append_right _ ?_
    exact (List.reverse_perm _).trans ((hperm.filterMap Using.alias?).trans (List.reverse_perm _).symm)

/-- An alias does not depend on the paths, if none is given twice for all files. -/
lemma alias?_renamed (haliases : ((ofFiles files).globals.aliases.map Alias.name).Nodup) (name : String) :
    (ofFiles (renamed rename files)).alias? here name = (ofFiles files).alias? here name := by
  have hfirst := find?_map_of_perm (q := fun a => a.name == name) (v := id)
    (globals_renamed_perm rename files).2 ?_
  · rw [Option.map_id_fun, id, id] at hfirst
    exact congrArg (here.scope.alias? name).or hfirst
  · intro a ha b hb haq hbq
    exact List.inj_on_of_nodup_map haliases ha hb ((beq_iff_eq.1 haq).trans (beq_iff_eq.1 hbq).symm)

/-- A name is found under one full name at most in the namespaces that are open for all files. -/
def OpensOnce (p : Compilation) (name : String) (arity : Nat) : Prop :=
  ∀ ns ∈ p.globals.openings, ∀ ns' ∈ p.globals.openings, p.declares arity (Name.join ns name) = true →
    p.declares arity (Name.join ns' name) = true → Name.join ns name = Name.join ns' name

/-- A type in an opened namespace does not depend on the paths, if the name is found under one full name at most. -/
lemma lookupOpened?_renamed {name : String} {arity : Nat} (hdeclared : DeclaredOnce files)
    (hopens : (ofFiles files).OpensOnce name arity) :
    (ofFiles (renamed rename files)).lookupOpened? here name arity =
      (ofFiles files).lookupOpened? here name arity := by
  have hdeclares : (ofFiles (renamed rename files)).declares arity = (ofFiles files).declares arity := by
    funext fullName
    rw [declares, declares, kind?_renamed hdeclared]
  have hperm := (globals_renamed_perm rename files).1.map fun ns => Name.join ns name
  have hfirst := find?_map_of_perm (q := (ofFiles files).declares arity) (v := id) hperm ?_
  · rw [Option.map_id_fun, id, id] at hfirst
    unfold lookupOpened?
    rw [hdeclares, List.map_append, List.map_append, List.find?_append, List.find?_append, hfirst]
  · intro a ha b hb haq hbq
    obtain ⟨ns, hns, rfl⟩ := List.mem_map.1 ha
    obtain ⟨ns', hns', rfl⟩ := List.mem_map.1 hb
    exact hopens ns hns ns' hns' haq hbq

/-! ## Symbols -/

section Moved
variable (p : Compilation)

/-- A name is looked up regardless of the path of the property. -/
lemma lookup?_movedTo (ref : Name.Reference) (arity : Nat) :
    p.lookup? (here.movedTo path) ref arity = p.lookup? here ref arity :=
  rfl

/-- A written type is resolved regardless of the path of the property. -/
lemma resolveDirect_movedTo (n : Node) :
    p.resolveDirect (here.movedTo path) source n = p.resolveDirect here source n := by
  unfold resolveDirect resolveWritten
  simp only [lookup?_movedTo]

/-- So is a type behind aliases. -/
lemma resolveType_movedTo (n : Node) : p.resolveType (here.movedTo path) n = p.resolveType here n := by
  have halias : p.wholeAlias? (here.movedTo path) = p.wholeAlias? here := rfl
  unfold resolveType
  rw [halias]
  simp only [resolveDirect_movedTo]
  rfl

/-- So is an attribute. -/
lemma attribute?_movedTo (written : String) :
    p.attribute? (here.movedTo path) written = p.attribute? here written := by
  unfold attribute?
  simp only [lookup?_movedTo]

/-- The path of a property does not show in its symbol. -/
lemma symbol?_movedTo : p.symbol? (here.movedTo path) = p.symbol? here := by
  have hattribute : p.attribute? (here.movedTo path) = p.attribute? here := funext (attribute?_movedTo p)
  unfold symbol?
  rw [hattribute]
  simp only [resolveType_movedTo]
  rfl

end Moved

/-- With the files at other paths, and so in another order, each property has the same symbol, if no type is declared
as two things, no alias for all files is given twice, and the names that the property mentions are found once at most
in the namespaces that are open for all files. -/
theorem resolve?_renamed (hpaths : (files.map File.path).Nodup)
    (hrename : ∀ f ∈ files, ∀ g ∈ files, rename f.path = rename g.path → f.path = g.path)
    (hdeclared : DeclaredOnce files) (haliases : ((ofFiles files).globals.aliases.map Alias.name).Nodup)
    (hg : g ∈ files) (hk : g.properties[k]? = some here)
    (hopens : ∀ m ∈ (ofFiles files).mentions here, m.ref.qualifier = none →
      (ofFiles files).OpensOnce m.ref.name m.arity) :
    (ofFiles files).resolve? (numberOf files g k) here.entry.declaration = (ofFiles files).symbol? here ∧
    (ofFiles (renamed rename files)).resolve?
        (numberOf (renamed rename files) (g.movedTo (rename g.path)) k)
        (here.movedTo (rename g.path)).entry.declaration =
      (ofFiles files).resolve? (numberOf files g k) here.entry.declaration := by
  have hsymbol : (ofFiles (renamed rename files)).symbol? here = (ofFiles files).symbol? here := by
    apply symbol?_congr
    intro m hm
    refine ⟨alias?_renamed haliases, ?_, ?_⟩
    · intro name _ fullName arity _
      exact kind?_renamed hdeclared fullName arity
    · intro hsimple
      exact lookupOpened?_renamed hdeclared (hopens m hm hsimple)
  have hk' : (g.movedTo (rename g.path)).properties[k]? = some (here.movedTo (rename g.path)) := by
    rw [File.properties_movedTo, List.getElem?_map, hk]
    rfl
  have hfirst := resolve?_numberOf hpaths hg hk here.entry.declaration
  rw [if_pos rfl] at hfirst
  refine ⟨hfirst, ?_⟩
  rw [hfirst, resolve?_numberOf (nodup_renamed hpaths hrename) (mem_renamed hg) hk', if_pos rfl, symbol?_movedTo,
    hsymbol]

/-! ## A type in a later file -/

/-- The text `C P K`, from which the nodes below take their names. -/
def referringSource : Source :=
  Text.Utf8.encodeText "C P K"

/-- A file with a class `C` and in it a property `P` of type `K`. -/
def referringFile : File where
  path := "A.cs"
  source := referringSource
  root := .mk .compilationUnit .other true 0 5
    [.mk .classDeclaration .other true 0 5
      [.mk .identifier .name true 0 1 [],
       .mk .declarationList .body true 2 5
        [.mk .propertyDeclaration .other true 2 5
          [.mk .identifier .name true 2 3 [], .mk .identifier .type true 4 5 []]]]]

/-- A file with a class `K`. -/
def referredFile : File where
  path := "B.cs"
  source := Text.Utf8.encodeText "K"
  root := .mk .compilationUnit .other true 0 1
    [.mk .classDeclaration .other true 0 1 [.mk .identifier .name true 0 1 []]]

/-- The property `P`. -/
def referringProperty : Property where
  entry := {
    declaration := { name := "P", path := "A.cs", line := 1 }
    type := some (.mk .identifier .type true 4 5 [])
    source := referringSource
    home := ""
    owner := .inNamespace ⟨"C", "class", []⟩ "" ""
    isStatic := false }
  scope := {}

/-- The paths of the two files, exchanged. -/
def exchange (path : String) : String :=
  if path = "A.cs" then "B.cs" else "A.cs"

/-- A property has the same symbol whether its type is declared in a later file or in an earlier one. -/
theorem resolve?_exchanged :
    DeclaredOnce [referringFile, referredFile] ∧
    (ofFiles (renamed exchange [referringFile, referredFile])).resolve?
        (numberOf (renamed exchange [referringFile, referredFile]) (referringFile.movedTo "B.cs") 0)
        (referringProperty.movedTo "B.cs").entry.declaration =
      (ofFiles [referringFile, referredFile]).resolve? (numberOf [referringFile, referredFile] referringFile 0)
        referringProperty.entry.declaration := by
  have hdeclared : DeclaredOnce [referringFile, referredFile] := by
    have htypes : typesIn referringFile.outline = [⟨"C", 0, .classType⟩] ∧
        typesIn referredFile.outline = [⟨"K", 0, .classType⟩] := by
      decide +kernel
    simp [DeclaredOnce, htypes]
  have hglobals : (ofFiles [referringFile, referredFile]).globals = implicitGlobals := by
    have hsorted : byPath [referringFile, referredFile] = [referringFile, referredFile] :=
      List.mergeSort_of_pairwise (by decide)
    rw [globals_ofFiles, hsorted]
    decide +kernel
  have hproperty : referringFile.properties[0]? = some referringProperty := by
    decide +kernel
  refine ⟨hdeclared, ?_⟩
  refine (resolve?_renamed (by decide) ?_ hdeclared ?_ List.mem_cons_self hproperty ?_).2
  · decide
  · rw [hglobals]
    decide
  · -- one namespace is open
    intro m _ _ ns hns ns' hns' _ _
    rw [hglobals] at hns hns'
    rw [List.mem_singleton.1 hns, List.mem_singleton.1 hns']

end Compilation

end PropertyQuote.CSharp
