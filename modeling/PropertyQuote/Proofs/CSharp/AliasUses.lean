import PropertyQuote.Proofs.CSharp.Capture

/-!
# Uses of an alias

The target of an alias is read as it is written in the directive, but its name is looked up from the property that uses
the alias.  So two uses agree in the name and the arguments of their types, and they are the same type if and only if the
name of the target is a type of the same kind at both properties.

* `UsesAlias`: the type of a property is an alias.
* `resolveType_of_usesAlias`: the type is the target, resolved at the property.
* `resolve?_same_alias`: what two uses of one alias have in common.
-/

namespace PropertyQuote.CSharp

/-- The name under which the target of an alias is looked up, if it is a name. -/
def Alias.mention? (t : Alias) : Option Mention :=
  (writtenAs? t.source t.node).map WrittenType.mention

/-- An identifier is written as a simple name without arguments. -/
lemma writtenAs?_identifier {source : Source} {n : Node} (h : n.kind = .identifier) :
    writtenAs? source n = some ⟨⟨none, source.text n⟩, []⟩ := by
  rw [writtenAs?, withoutNullable, h, if_neg (by decide), writtenType?, h]

/-- A keyword is no name. -/
lemma kind_ne_of_writtenAs? {source : Source} {n : Node} {w : WrittenType} (h : writtenAs? source n = some w) :
    ((withoutNullable n).kind == .predefinedType) = false := by
  cases hkind : (withoutNullable n).kind == .predefinedType with
  | false => rfl
  | true =>
    rw [writtenAs?, writtenType?, beq_iff_eq.1 hkind] at h
    cases h

namespace Compilation

variable {p : Compilation} {here x y : Property} {source : Source} {n : Node} {a : String} {t : Alias} {i j : Nat}
  {m : Mention}

/-! ## Types at two properties -/

/-- What kind of type a name is at a property. -/
def kindAt (p : Compilation) (here : Property) (m : Mention) : TypeKind :=
  ((p.lookup? here m.ref m.arity).bind (p.kind? · m.arity)).getD .unknown

/-- An undisturbed name has the kind of the full name that it spells. -/
lemma kindAt_of_undisturbed (h : p.Undisturbed here m.ref m.arity) :
    p.kindAt here m = (p.kind? m.ref.fullName m.arity).getD .unknown := by
  rw [kindAt, lookup?_of_undisturbed h, declares]
  cases hkind : p.kind? m.ref.fullName m.arity with
  | none => rfl
  | some kind => exact congrArg (·.getD .unknown) hkind

/-- Properties with the same surroundings see the same types. -/
lemma kindAt_congr (howner : x.entry.owner = y.entry.owner) (hhome : x.entry.home = y.entry.home)
    (hscope : x.scope = y.scope) : p.kindAt x m = p.kindAt y m := by
  have halias : p.alias? x = p.alias? y := by
    funext name
    rw [alias?, alias?, hscope]
  have hcandidates : p.candidates x m.ref m.arity = p.candidates y m.ref m.arity := by
    unfold candidates qualifiedNames expandQualifier
    rw [halias, howner, hhome, hscope]
  rw [kindAt, kindAt, lookup?_eq_find?_candidates, lookup?_eq_find?_candidates, hcandidates]

/-- A written type keeps its name, gets the kind of what is found, and takes its arguments as they are written. -/
lemma resolveDirect_of_written {w : WrittenType} (h : writtenAs? source n = some w) :
    p.resolveDirect here source n =
      .mk w.ref.name (p.kindAt here w.mention) (w.arguments.map fun a => .mk (argumentName source a) .unknown []) := by
  have hwritten : writtenType? source (withoutNullable n) = some w := h
  unfold resolveDirect
  dsimp only
  rw [kind_ne_of_writtenAs? h, hwritten]
  rfl

/-- A type that is no name is the same everywhere. -/
lemma resolveDirect_of_unwritten (h : writtenAs? source n = none) :
    p.resolveDirect x source n = p.resolveDirect y source n := by
  have hwritten : writtenType? source (withoutNullable n) = none := h
  unfold resolveDirect
  dsimp only
  rw [hwritten]

/-- The kind of the name is all that may differ between two places. -/
lemma resolveDirect_eq_iff :
    (p.resolveDirect x source n).name = (p.resolveDirect y source n).name ∧
    (p.resolveDirect x source n).arguments = (p.resolveDirect y source n).arguments ∧
    (p.resolveDirect x source n = p.resolveDirect y source n ↔
      ∀ m ∈ (writtenAs? source n).map WrittenType.mention, p.kindAt x m = p.kindAt y m) := by
  cases hwritten : writtenAs? source n with
  | none =>
    rw [@resolveDirect_of_unwritten p x y source n hwritten]
    refine ⟨rfl, rfl, fun _ m hm => ?_, fun _ => rfl⟩
    cases hm
  | some w =>
    rw [resolveDirect_of_written hwritten, resolveDirect_of_written hwritten]
    refine ⟨rfl, rfl, ?_, ?_⟩
    · intro heq m hm
      obtain rfl := Option.some.inj hm
      injection heq
    · intro hkind
      rw [hkind w.mention rfl]

/-! ## Uses -/

/-- The type of a property is that of an alias if it is one as a whole, and else what is written. -/
lemma resolveType_of_written {w : WrittenType} (hwritten : writtenAs? here.entry.source n = some w) :
    p.resolveType here n =
      (p.wholeAlias? here w).elim (p.resolveDirect here here.entry.source n) fun t =>
        p.resolveDirect here t.source t.node := by
  have hwhole : (writtenType? here.entry.source (withoutNullable n)).bind (p.wholeAlias? here) = p.wholeAlias? here w :=
    congrArg (·.bind (p.wholeAlias? here)) hwritten
  unfold resolveType
  rw [hwhole]
  cases p.wholeAlias? here w with
  | none => rfl
  | some t => rfl

/-- A simple name that nothing around the property captures is the alias that is in scope. -/
lemma wholeAlias?_of_free (hfree : p.lookupEnclosing? here a 0 = none) :
    p.wholeAlias? here ⟨⟨none, a⟩, []⟩ = p.alias? here a := by
  unfold wholeAlias?
  rw [hfree]
  rfl

/-- The type of a property is written as a simple name without arguments.  The name is an alias there, and no type or
namespace around the property has a type of this name. -/
structure UsesAlias (p : Compilation) (here : Property) (a : String) (t : Alias) : Prop where
  written : here.entry.type.bind (writtenAs? here.entry.source) = some ⟨⟨none, a⟩, []⟩
  target : p.alias? here a = some t
  free : p.lookupEnclosing? here a 0 = none

/-- A property that uses an alias has the type that the alias is written for. -/
lemma resolveType_of_usesAlias (h : p.UsesAlias here a t) :
    ∃ n, here.entry.type = some n ∧ p.resolveType here n = p.resolveDirect here t.source t.node := by
  obtain ⟨n, htype, hwritten⟩ := Option.bind_eq_some_iff.1 h.written
  refine ⟨n, htype, ?_⟩
  rw [resolveType_of_written hwritten, wholeAlias?_of_free h.free, h.target]
  rfl

/-- A property is resolved by its number. -/
lemma resolve?_getElem (h : p.properties[i]? = some here) :
    p.resolve? (i + 1) here.entry.declaration = p.symbol? here := by
  have hpos : ¬ (i + 1 : Int) < 1 := by omega
  have hindex : (i + 1 : Int).toNat - 1 = i := by omega
  rw [resolve?, if_neg hpos, hindex, h]
  exact if_pos rfl

/-- The symbol of a property whose type is an alias. -/
lemma exists_symbol_of_usesAlias (hi : p.properties[i]? = some here) (h : p.UsesAlias here a t) :
    ∃ s, p.resolve? (i + 1) here.entry.declaration = some s ∧ s.type = p.resolveDirect here t.source t.node := by
  obtain ⟨n, htype, hresolved⟩ := resolveType_of_usesAlias h
  rw [resolve?_getElem hi, symbol?, htype]
  exact ⟨_, rfl, hresolved⟩

/-- Two properties whose types are one alias have symbols with types of the same name and arguments.  The types are the
same if and only if the name of the target is a type of the same kind at both.  That is so where nothing around the
properties captures this name, and where both have the same surroundings. -/
theorem resolve?_same_alias (hi : p.properties[i]? = some x) (hj : p.properties[j]? = some y)
    (hx : p.UsesAlias x a t) (hy : p.UsesAlias y a t) :
    ∃ sx sy, p.resolve? (i + 1) x.entry.declaration = some sx ∧ p.resolve? (j + 1) y.entry.declaration = some sy ∧
      sx.type.name = sy.type.name ∧ sx.type.arguments = sy.type.arguments ∧
      (sx.type = sy.type ↔ ∀ m ∈ t.mention?, p.kindAt x m = p.kindAt y m) ∧
      ((∀ m ∈ t.mention?, p.Undisturbed x m.ref m.arity ∧ p.Undisturbed y m.ref m.arity) → sx.type = sy.type) ∧
      (x.entry.owner = y.entry.owner → x.entry.home = y.entry.home → x.scope = y.scope → sx.type = sy.type) := by
  obtain ⟨sx, hsx, htypex⟩ := exists_symbol_of_usesAlias hi hx
  obtain ⟨sy, hsy, htypey⟩ := exists_symbol_of_usesAlias hj hy
  obtain ⟨hname, harguments, hsame⟩ := @resolveDirect_eq_iff p x y t.source t.node
  rw [← htypex, ← htypey] at hname harguments hsame
  refine ⟨sx, sy, hsx, hsy, hname, harguments, hsame, ?_, ?_⟩
  · intro hfree
    refine hsame.2 fun m hm => ?_
    rw [kindAt_of_undisturbed (hfree m hm).1, kindAt_of_undisturbed (hfree m hm).2]
  · intro howner hhome hscope
    exact hsame.2 fun m _ => kindAt_congr howner hhome hscope

/-! ## An alias of an alias -/

/-- The text from which the nodes below take their names. -/
def shadowSource : Source :=
  Text.Utf8.encodeText "F G System.Action A C P D"

/-- The alias `F` of the file. -/
def shadowAlias : Alias :=
  ⟨"F", "G", .mk .identifier .other true 2 3 [], shadowSource⟩

/-- The alias `G` of the namespace `A`. -/
def innerAlias : Alias :=
  ⟨"G", "System.Action", .mk .qualifiedName .other true 4 17 [], shadowSource⟩

/-- A property `P` of type `F`. -/
def shadowNode : Node :=
  .mk .propertyDeclaration .other true 22 23
    [.mk .identifier .type true 0 1 [], .mk .identifier .name true 22 23 []]

/-- A file with the directive `using F = G`, with a namespace `A` that holds the directive `using G = System.Action` and
a class `C` with the property, and with a class `D` with the property. -/
def shadowFile : File where
  path := "A.cs"
  source := shadowSource
  root := .mk .compilationUnit .other true 0 25
    [.mk .usingDirective .other true 0 3
      [.mk .identifier .name true 0 1 [], .mk .equalsSign .other false 1 2 [], shadowAlias.node],
     .mk .namespaceDeclaration .other true 2 23
      [.mk .identifier .name true 18 19 [],
       .mk .declarationList .body true 2 23
        [.mk .usingDirective .other true 2 17
          [.mk .identifier .name true 2 3 [], .mk .equalsSign .other false 3 4 [], innerAlias.node],
         .mk .classDeclaration .other true 20 23
          [.mk .identifier .name true 20 21 [], .mk .declarationList .body true 22 23 [shadowNode]]]],
     .mk .classDeclaration .other true 24 25
      [.mk .identifier .name true 24 25 [], .mk .declarationList .body true 22 23 [shadowNode]]]

/-- The property in the given class and namespace. -/
def shadowEntry (name home : String) : PropertyEntry where
  declaration := { name := "P", path := "A.cs", line := 1 }
  type := some (.mk .identifier .type true 0 1 [])
  source := shadowSource
  home := home
  owner := .inNamespace ⟨name, "class", []⟩ home home
  isStatic := false

/-- The property in the namespace `A`. -/
def shadowedUse : Property :=
  ⟨shadowEntry "C" "A", { aliases := [innerAlias, shadowAlias] }⟩

/-- The property in no namespace. -/
def plainUse : Property :=
  ⟨shadowEntry "D" "", { aliases := [shadowAlias] }⟩

/-- The program of the file. -/
def shadowProgram : Compilation where
  types := (wellKnownTypes ++ [TypeEntry.mk "A.C" 0 .classType, TypeEntry.mk "D" 0 .classType]).reverse
  globals := implicitGlobals
  properties := [shadowedUse, plainUse]
  broken := []

/-- The file makes up the program.  Both properties have the type `F`, and the alias `F` is written for `G`. -/
lemma read_shadowFile : ofFiles [shadowFile] = shadowProgram ∧
    writtenAs? shadowSource (.mk .identifier .type true 0 1 []) = some ⟨⟨none, "F"⟩, []⟩ ∧
    shadowAlias.mention? = some ⟨⟨none, "G"⟩, 0⟩ := by
  decide +kernel

/-- Nothing around a property is called `F`.  In the namespace `A` the name `G` is an alias for a delegate, elsewhere it
is unknown. -/
lemma lookups_shadowProgram : shadowProgram.lookupEnclosing? shadowedUse "F" 0 = none ∧
    shadowProgram.lookupEnclosing? plainUse "F" 0 = none ∧
    shadowProgram.kindAt shadowedUse ⟨⟨none, "G"⟩, 0⟩ = .delegate ∧
    shadowProgram.kindAt plainUse ⟨⟨none, "G"⟩, 0⟩ = .unknown := by
  decide +kernel

/-- Two uses of the alias `F`, of which one sees an alias `G` of its own. -/
theorem resolve?_same_alias_shadowed :
    (ofFiles [shadowFile]).properties[0]? = some shadowedUse ∧ (ofFiles [shadowFile]).properties[1]? = some plainUse ∧
    (ofFiles [shadowFile]).UsesAlias shadowedUse "F" shadowAlias ∧
    (ofFiles [shadowFile]).UsesAlias plainUse "F" shadowAlias ∧
    ∃ sx sy, (ofFiles [shadowFile]).resolve? 1 shadowedUse.entry.declaration = some sx ∧
      (ofFiles [shadowFile]).resolve? 2 plainUse.entry.declaration = some sy ∧
      sx.type.name = sy.type.name ∧ sx.type ≠ sy.type := by
  obtain ⟨hprogram, hwritten, hmention⟩ := read_shadowFile
  obtain ⟨hfreeX, hfreeY, hkindX, hkindY⟩ := lookups_shadowProgram
  have hX : shadowProgram.UsesAlias shadowedUse "F" shadowAlias := ⟨hwritten, rfl, hfreeX⟩
  have hY : shadowProgram.UsesAlias plainUse "F" shadowAlias := ⟨hwritten, rfl, hfreeY⟩
  rw [hprogram]
  refine ⟨rfl, rfl, hX, hY, ?_⟩
  obtain ⟨sx, sy, hsx, hsy, hname, -, hsame, -⟩ :=
    resolve?_same_alias (p := shadowProgram) (i := 0) (j := 1) rfl rfl hX hY
  refine ⟨sx, sy, hsx, hsy, hname, fun heq => ?_⟩
  have hkind := hsame.1 heq _ hmention
  rw [hkindX, hkindY] at hkind
  cases hkind

end Compilation

end PropertyQuote.CSharp
