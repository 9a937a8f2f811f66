import PropertyQuote.Proofs.CSharp.AliasUses
import PropertyQuote.Signature

/-!
# Types named like a type parameter

The type parameters of a type are recorded with it, but a name is looked up without them.  So a property whose type is
written as a type parameter has a function type exactly if the name is that of a delegate at the property: a member of a
type or namespace around it, the target of an alias, or a member of an opened namespace.

* `FirstDelegate`: the first known one of some full names is a delegate.
* `NamesDelegate`: the three ways in which a simple name is that of a delegate.
* `isFunction_resolveType_iff`: a simple name is a function type exactly in these ways.
* `resolve?_of_parameter`: what this means for type parameters.
-/

namespace PropertyQuote

/-- The type parameters in scope inside a type: its own and those of the types around it. -/
def TypeSymbol.parametersInScope (t : TypeSymbol) : List String :=
  t.withOuter.flatMap (·.heading.parameters)

namespace CSharp

/-- The type of a property is written as a simple name without arguments that is a type parameter in scope. -/
structure Property.TypedByParameter (here : Property) (a : String) : Prop where
  written : here.entry.type.bind (writtenAs? here.entry.source) = some ⟨⟨none, a⟩, []⟩
  parameter : a ∈ here.entry.owner.parametersInScope

/-- The full names of members of the types and namespaces around a property, from the inside out. -/
def Property.enclosingNames (here : Property) (a : String) : List String :=
  here.entry.owner.withOuter.map (fun t => t.displayName ++ "." ++ a) ++
    (Name.chain here.entry.home).map (Name.join · a)

namespace Compilation

variable {p : Compilation} {here : Property} {source : Source} {n : Node} {a r : String} {i arity : Nat}
  {names : List String} {m : Mention}

/-- The full names of members of opened namespaces, those of the property's own directives first. -/
def openedNames (p : Compilation) (here : Property) (a : String) : List String :=
  (here.scope.openings ++ p.globals.openings).map (Name.join · a)

/-! ## Delegates among names -/

/-- The first one of some full names that is a known type is a delegate. -/
def FirstDelegate (p : Compilation) (arity : Nat) (names : List String) : Prop :=
  ∃ before r after, names = before ++ r :: after ∧ (∀ s ∈ before, p.declares arity s = false) ∧
    p.kind? r arity = some .delegate

/-- The first known one of some names is a delegate exactly if what is found under them is of that kind. -/
lemma firstDelegate_iff :
    p.FirstDelegate arity names ↔ (names.find? (p.declares arity)).bind (p.kind? · arity) = some .delegate := by
  constructor
  · rintro ⟨before, r, after, rfl, hbefore, hkind⟩
    have hknown : p.declares arity r = true := by
      rw [declares, hkind]
      rfl
    have hnone : before.find? (p.declares arity) = none := by
      rw [List.find?_eq_none]
      intro s hs
      rw [hbefore s hs]
      exact Bool.false_ne_true
    rw [List.find?_append, hnone, Option.none_or, List.find?_cons_of_pos hknown]
    exact hkind
  · intro h
    obtain ⟨r, hfound, hkind⟩ := Option.bind_eq_some_iff.1 h
    obtain ⟨-, before, after, rfl, hbefore⟩ := List.find?_eq_some_iff_append.1 hfound
    refine ⟨before, r, after, rfl, fun s hs => ?_, hkind⟩
    simpa using hbefore s hs

/-- Where none of the names is known, none is a delegate. -/
lemma not_firstDelegate (h : ∀ r ∈ names, p.declares arity r = false) : ¬ p.FirstDelegate arity names := by
  rintro ⟨before, r, after, rfl, -, hkind⟩
  have hknown := h r (List.mem_append_right _ List.mem_cons_self)
  rw [declares, hkind] at hknown
  cases hknown

/-- A name is a delegate at a property exactly if the first known candidate for it is. -/
lemma kindAt_eq_delegate_iff :
    p.kindAt here m = .delegate ↔ p.FirstDelegate m.arity (p.candidates here m.ref m.arity) := by
  rw [firstDelegate_iff, ← lookup?_eq_find?_candidates, kindAt]
  cases hkind : (p.lookup? here m.ref m.arity).bind (p.kind? · m.arity) with
  | none =>
    constructor
    · intro h
      cases h
    · intro h
      cases h
  | some kind => exact (Option.some.injEq kind .delegate).symm.to_iff

/-- A type that is no name, such as an array or a predefined type, is no function type. -/
lemma isFunction_of_unwritten (h : writtenAs? source n = none) : (p.resolveDirect here source n).isFunction = false := by
  have hnone : writtenType? source (withoutNullable n) = none := h
  unfold resolveDirect
  dsimp only
  rw [hnone]
  split
  case isTrue =>
    unfold predefinedType
    split <;> rfl
  case isFalse => rfl

/-- A type that is taken as it is written is a function type exactly if it is a name and the first known candidate for
it is a delegate. -/
lemma isFunction_resolveDirect_iff :
    (p.resolveDirect here source n).isFunction = true ↔
      ∃ w, writtenAs? source n = some w ∧
        p.FirstDelegate w.arguments.length (p.candidates here w.ref w.arguments.length) := by
  cases hwritten : writtenAs? source n with
  | none =>
    rw [isFunction_of_unwritten hwritten]
    constructor
    · intro h
      cases h
    · rintro ⟨w, hw, -⟩
      cases hw
  | some w =>
    have hkind : (p.resolveDirect here source n).isFunction = true ↔ p.kindAt here w.mention = .delegate := by
      rw [resolveDirect_of_written hwritten]
      exact beq_iff_eq
    rw [hkind, kindAt_eq_delegate_iff]
    constructor
    · intro h
      exact ⟨w, rfl, h⟩
    · rintro ⟨w', hw', h⟩
      cases hw'
      exact h

/-! ## Simple names -/

/-- The ways in which a simple name is that of a delegate at a property: by a type or namespace around it; else by the
target of an alias; and else, if it is no alias, by an opened namespace. -/
inductive NamesDelegate (p : Compilation) (here : Property) (a : String) : Prop where
  | enclosing (hfirst : p.FirstDelegate 0 (here.enclosingNames a))
  | aliased {t w} (hfree : ∀ r ∈ here.enclosingNames a, p.declares 0 r = false) (halias : p.alias? here a = some t)
      (hwritten : writtenAs? t.source t.node = some w)
      (hfirst : p.FirstDelegate w.arguments.length (p.candidates here w.ref w.arguments.length))
  | opened (hfree : ∀ r ∈ here.enclosingNames a, p.declares 0 r = false) (halias : p.alias? here a = none)
      (hfirst : p.FirstDelegate 0 (p.openedNames here a))

/-- Around a property, the first known member is found. -/
lemma lookupEnclosing?_eq_find? : p.lookupEnclosing? here a 0 = (here.enclosingNames a).find? (p.declares 0) :=
  rfl

/-- Nothing is found around a property if no member is known. -/
lemma lookupEnclosing?_eq_none_iff :
    p.lookupEnclosing? here a 0 = none ↔ ∀ r ∈ here.enclosingNames a, p.declares 0 r = false := by
  rw [lookupEnclosing?_eq_find?, List.find?_eq_none]
  exact forall₂_congr fun r _ => Bool.not_eq_true _ |>.to_iff

/-- A simple name that is no alias is a function type exactly if a delegate is found for it. -/
lemma isFunction_of_no_alias (hwritten : writtenAs? here.entry.source n = some ⟨⟨none, a⟩, []⟩)
    (halias : p.wholeAlias? here ⟨⟨none, a⟩, []⟩ = none) :
    (p.resolveType here n).isFunction = true ↔ (p.lookup? here ⟨none, a⟩ 0).bind (p.kind? · 0) = some .delegate := by
  rw [resolveType_of_written hwritten, halias, Option.elim_none, isFunction_resolveDirect_iff,
    lookup?_eq_find?_candidates, ← firstDelegate_iff]
  constructor
  · rintro ⟨w, hw, h⟩
    cases hwritten.symm.trans hw
    exact h
  · intro h
    exact ⟨_, hwritten, h⟩

/-- A type that is written as a simple name is a function type exactly if the name is that of a delegate. -/
lemma isFunction_resolveType_iff (hwritten : writtenAs? here.entry.source n = some ⟨⟨none, a⟩, []⟩) :
    (p.resolveType here n).isFunction = true ↔ p.NamesDelegate here a := by
  cases henclosing : p.lookupEnclosing? here a 0 with
  | some r =>
    -- a member of the surroundings hides aliases and opened namespaces
    have halias : p.wholeAlias? here ⟨⟨none, a⟩, []⟩ = none := by
      unfold wholeAlias?
      rw [henclosing]
      rfl
    have hlookup : p.lookup? here ⟨none, a⟩ 0 = some r := by
      unfold lookup?
      dsimp only
      rw [henclosing, Option.some_or]
    have hknown : ¬ ∀ r ∈ here.enclosingNames a, p.declares 0 r = false := by
      rw [← lookupEnclosing?_eq_none_iff, henclosing]
      exact Option.some_ne_none r
    rw [isFunction_of_no_alias hwritten halias, hlookup, ← henclosing, lookupEnclosing?_eq_find?, ← firstDelegate_iff]
    constructor
    · exact .enclosing
    · rintro (hfirst | ⟨hfree, -, -, -⟩ | ⟨hfree, -, -⟩)
      · exact hfirst
      · exact absurd hfree hknown
      · exact absurd hfree hknown
  | none =>
    have hfree := lookupEnclosing?_eq_none_iff.1 henclosing
    have hwhole := wholeAlias?_of_free henclosing
    cases hname : p.alias? here a with
    | some t =>
      rw [resolveType_of_written hwritten, hwhole, hname, Option.elim_some, isFunction_resolveDirect_iff]
      constructor
      · rintro ⟨w, hw, hfirst⟩
        exact .aliased hfree hname hw hfirst
      · rintro (hfirst | ⟨-, hname', hw, hfirst⟩ | ⟨-, hname', -⟩)
        · exact absurd hfirst (not_firstDelegate hfree)
        · cases hname.symm.trans hname'
          exact ⟨_, hw, hfirst⟩
        · cases hname.symm.trans hname'
    | none =>
      have hlookup : p.lookup? here ⟨none, a⟩ 0 = (p.openedNames here a).find? (p.declares 0) := by
        unfold lookup? lookupAlias?
        dsimp only
        rw [henclosing, hname]
        rfl
      rw [isFunction_of_no_alias hwritten (hwhole.trans hname), hlookup, ← firstDelegate_iff]
      constructor
      · exact .opened hfree hname
      · rintro (hfirst | ⟨-, hname', -, -⟩ | ⟨-, -, hfirst⟩)
        · exact absurd hfirst (not_firstDelegate hfree)
        · cases hname.symm.trans hname'
        · exact hfirst

/-! ## Programs without such a delegate -/

/-- Members of what is around a property end like the name. -/
lemma simple_of_mem_enclosingNames (h : r ∈ here.enclosingNames a) : Name.simple r = Name.simple a := by
  rcases List.mem_append.1 h with h | h
  · obtain ⟨t, -, rfl⟩ := List.mem_map.1 h
    exact Name.simple_append t.displayName a
  · obtain ⟨ns, -, rfl⟩ := List.mem_map.1 h
    exact Name.simple_join ns a

/-- So do members of opened namespaces. -/
lemma simple_of_mem_openedNames (h : r ∈ p.openedNames here a) : Name.simple r = Name.simple a := by
  obtain ⟨ns, -, rfl⟩ := List.mem_map.1 h
  exact Name.simple_join ns a

/-- The program has a delegate without type parameters that is called like a name. -/
def HasDelegate (p : Compilation) (a : String) : Prop :=
  ∃ e ∈ p.types, e.kind = .delegate ∧ e.arity = 0 ∧ Name.simple e.fullName = Name.simple a

/-- A delegate among names that end alike is one that is called so. -/
lemma hasDelegate_of_firstDelegate (hnames : ∀ r ∈ names, Name.simple r = Name.simple a)
    (h : p.FirstDelegate 0 names) : p.HasDelegate a := by
  obtain ⟨before, r, after, rfl, -, hkind⟩ := h
  obtain ⟨e, he, rfl, harity, hdelegate⟩ := exists_entry_of_kind? hkind
  exact ⟨e, he, hdelegate, harity, hnames _ (List.mem_append_right _ List.mem_cons_self)⟩

/-- A simple name is that of a delegate only if an alias or a delegate is called so. -/
lemma NamesDelegate.exists_alias_or_delegate (h : p.NamesDelegate here a) :
    (∃ t, p.alias? here a = some t) ∨ p.HasDelegate a := by
  cases h with
  | enclosing hfirst => exact .inr (hasDelegate_of_firstDelegate (fun _ => simple_of_mem_enclosingNames) hfirst)
  | aliased _ halias => exact .inl ⟨_, halias⟩
  | opened _ _ hfirst => exact .inr (hasDelegate_of_firstDelegate (fun _ => simple_of_mem_openedNames) hfirst)

/-! ## Type parameters -/

/-- A property with a type parameter as its type has a symbol, and the name decides about the type. -/
lemma exists_symbol_of_parameter (hi : p.properties[i]? = some here) (h : here.TypedByParameter a) :
    ∃ s, p.resolve? (i + 1) here.entry.declaration = some s ∧ (s.type.isFunction = true ↔ p.NamesDelegate here a) := by
  obtain ⟨n, htype, hwritten⟩ := Option.bind_eq_some_iff.1 h.written
  rw [resolve?_getElem hi, symbol?, htype]
  exact ⟨_, rfl, isFunction_resolveType_iff hwritten⟩

/-- A property whose type is written as a type parameter in scope has a symbol.  Its type is a function type exactly if
the name, looked up without regard to type parameters, is that of a delegate; otherwise the descriptor is empty.  So it is
where the name is no alias in scope and no delegate without type parameters is called like it. -/
theorem resolve?_of_parameter (hi : p.properties[i]? = some here) (h : here.TypedByParameter a) :
    ∃ s, p.resolve? (i + 1) here.entry.declaration = some s ∧
      (s.type.isFunction = true ↔ p.NamesDelegate here a) ∧
      (¬ p.NamesDelegate here a → s.type.descriptor = "") ∧
      (p.alias? here a = none → ¬ p.HasDelegate a → s.type.isFunction = false ∧ s.type.descriptor = "") := by
  obtain ⟨s, hs, hfunction⟩ := exists_symbol_of_parameter hi h
  have hempty (hnot : ¬ p.NamesDelegate here a) : s.type.isFunction = false ∧ s.type.descriptor = "" := by
    have hfalse : s.type.isFunction = false := Bool.not_eq_true _ |>.mp (mt hfunction.1 hnot)
    rw [TypeRef.descriptor, hfalse]
    exact ⟨rfl, rfl⟩
  refine ⟨s, hs, hfunction, fun hnot => (hempty hnot).2, ?_⟩
  intro halias hdelegate
  apply hempty
  intro hnames
  rcases hnames.exists_alias_or_delegate with ⟨t, ht⟩ | hhas
  · cases halias.symm.trans ht
  · exact hdelegate hhas

/-! ## A type with captured parameters -/

/-- The text from which the nodes below take their names. -/
def parameterSource : Source :=
  Text.Utf8.encodeText "A D C N EventHandler T P Q R S"

/-- The alias `A` of the delegate `D`. -/
def parameterAlias : Alias :=
  ⟨"A", "D", .mk .identifier .other true 2 3 [], parameterSource⟩

/-- A type parameter with its name in the given range. -/
def parameterNode (start stop : Nat) : Node :=
  .mk .typeParameter .other true start stop [.mk .identifier .name true start stop []]

/-- A property with its type and its name in the given ranges. -/
def typedNode (start stop nameStart nameStop : Nat) : Node :=
  .mk .propertyDeclaration .other true start nameStop
    [.mk .identifier .type true start stop [], .mk .identifier .name true nameStart nameStop []]

/-- A file with the directive `using A = D`, a delegate `D`, and a class `C<A, D, EventHandler, T>`.  The class has a
property `P` of type `A` and a nested class `N` with properties `Q`, `R` and `S` of the types `D`, `EventHandler` and
`T`. -/
def parameterFile : File where
  path := "A.cs"
  source := parameterSource
  root := .mk .compilationUnit .other true 0 30
    [.mk .usingDirective .other true 0 3
      [.mk .identifier .name true 0 1 [], .mk .equalsSign .other false 1 2 [], parameterAlias.node],
     .mk .delegateDeclaration .other true 2 3 [.mk .identifier .name true 2 3 []],
     .mk .classDeclaration .other true 4 30
      [.mk .identifier .name true 4 5 [],
       .mk .typeParameterList .other true 0 22
        [parameterNode 0 1, parameterNode 2 3, parameterNode 8 20, parameterNode 21 22],
       .mk .declarationList .body true 6 30
        [typedNode 0 1 23 24,
         .mk .classDeclaration .other true 6 30
          [.mk .identifier .name true 6 7 [],
           .mk .declarationList .body true 8 30
            [typedNode 2 3 25 26, typedNode 8 20 27 28, typedNode 21 22 29 30]]]]]

/-- The class with the type parameters. -/
def parameterOwner : TypeSymbol :=
  .inNamespace ⟨"C", "class", ["A", "D", "EventHandler", "T"]⟩ "" ""

/-- A property of the given owner, with its type in the given range. -/
def parameterUse (owner : TypeSymbol) (name : String) (start stop : Nat) : Property where
  entry :=
    { declaration := { name, path := "A.cs", line := 1 }
      type := some (.mk .identifier .type true start stop [])
      source := parameterSource
      home := ""
      owner
      isStatic := false }
  scope := { aliases := [parameterAlias] }

/-- The property `P` of type `A`. -/
def aliasedUse : Property :=
  parameterUse parameterOwner "P" 0 1

/-- A property of the nested class. -/
def nestedUse (name : String) (start stop : Nat) : Property :=
  parameterUse (.nested ⟨"N", "class", []⟩ "" parameterOwner) name start stop

/-- The program of the file. -/
def parameterProgram : Compilation where
  types := (wellKnownTypes ++
    [TypeEntry.mk "D" 0 .delegate, TypeEntry.mk "C" 4 .classType, TypeEntry.mk "C.N" 0 .classType]).reverse
  globals := implicitGlobals
  properties := [aliasedUse, nestedUse "Q" 2 3, nestedUse "R" 8 20, nestedUse "S" 21 22]
  broken := []

/-- The file makes up the program, and the four types are spelled like the type parameters. -/
lemma read_parameterFile : ofFiles [parameterFile] = parameterProgram ∧ parameterSource.slice 0 1 = "A" ∧
    parameterSource.slice 2 3 = "D" ∧ parameterSource.slice 8 20 = "EventHandler" ∧
    parameterSource.slice 21 22 = "T" := by
  decide +kernel

/-- A property whose type is spelled like a parameter of its owner has that parameter as its type. -/
lemma typedByParameter_parameterUse {owner : TypeSymbol} {name : String} {start stop : Nat}
    (hslice : parameterSource.slice start stop = a) (ha : a ∈ owner.parametersInScope) :
    (parameterUse owner name start stop).TypedByParameter a := by
  have htext : parameterSource.text (.mk .identifier .type true start stop []) = a := hslice
  refine ⟨?_, ha⟩
  show writtenAs? parameterSource (.mk .identifier .type true start stop []) = _
  rw [writtenAs?_identifier rfl, htext]

/-- Each of the four properties has a type parameter as its type. -/
lemma typedByParameter_parameterFile : aliasedUse.TypedByParameter "A" ∧ (nestedUse "Q" 2 3).TypedByParameter "D" ∧
    (nestedUse "R" 8 20).TypedByParameter "EventHandler" ∧ (nestedUse "S" 21 22).TypedByParameter "T" := by
  obtain ⟨-, hA, hD, hEventHandler, hT⟩ := read_parameterFile
  exact ⟨typedByParameter_parameterUse hA (by decide), typedByParameter_parameterUse hD (by decide),
    typedByParameter_parameterUse hEventHandler (by decide), typedByParameter_parameterUse hT (by decide)⟩

/-- The alias `A` leads to the delegate, the delegate `D` is declared around the nested class, and the delegate
`EventHandler` is in an opened namespace. -/
lemma namesDelegate_parameterProgram : parameterProgram.NamesDelegate aliasedUse "A" ∧
    parameterProgram.NamesDelegate (nestedUse "Q" 2 3) "D" ∧
    parameterProgram.NamesDelegate (nestedUse "R" 8 20) "EventHandler" := by
  have hA : writtenAs? parameterAlias.source parameterAlias.node = some ⟨⟨none, "D"⟩, []⟩ := by
    decide +kernel
  refine ⟨.aliased ?_ rfl hA (firstDelegate_iff.2 ?_), .enclosing (firstDelegate_iff.2 ?_),
    .opened ?_ (by decide) (firstDelegate_iff.2 (by decide))⟩
  all_goals decide +kernel

/-- Three type parameters are taken for delegates: by an alias, by a declared delegate, and by one of `System`. -/
theorem parameters_taken_for_delegates :
    (ofFiles [parameterFile]).properties[0]? = some aliasedUse ∧ aliasedUse.TypedByParameter "A" ∧
    (ofFiles [parameterFile]).properties[1]? = some (nestedUse "Q" 2 3) ∧ (nestedUse "Q" 2 3).TypedByParameter "D" ∧
    (ofFiles [parameterFile]).properties[2]? = some (nestedUse "R" 8 20) ∧
    (nestedUse "R" 8 20).TypedByParameter "EventHandler" ∧
    ∃ sP sQ sR, (ofFiles [parameterFile]).resolve? 1 aliasedUse.entry.declaration = some sP ∧
      (ofFiles [parameterFile]).resolve? 2 (nestedUse "Q" 2 3).entry.declaration = some sQ ∧
      (ofFiles [parameterFile]).resolve? 3 (nestedUse "R" 8 20).entry.declaration = some sR ∧
      sP.type.isFunction = true ∧ sQ.type.isFunction = true ∧ sR.type.isFunction = true := by
  obtain ⟨hP, hQ, hR, -⟩ := typedByParameter_parameterFile
  obtain ⟨hA, hD, hEventHandler⟩ := namesDelegate_parameterProgram
  rw [read_parameterFile.1]
  obtain ⟨sP, hsP, hfunctionP⟩ := exists_symbol_of_parameter (p := parameterProgram) (i := 0) rfl hP
  obtain ⟨sQ, hsQ, hfunctionQ⟩ := exists_symbol_of_parameter (p := parameterProgram) (i := 1) rfl hQ
  obtain ⟨sR, hsR, hfunctionR⟩ := exists_symbol_of_parameter (p := parameterProgram) (i := 2) rfl hR
  exact ⟨rfl, hP, rfl, hQ, rfl, hR, sP, sQ, sR, hsP, hsQ, hsR, hfunctionP.2 hA, hfunctionQ.2 hD,
    hfunctionR.2 hEventHandler⟩

/-- No delegate is called `T`. -/
lemma no_delegate_T : ¬ parameterProgram.HasDelegate "T" := by
  unfold HasDelegate
  decide

/-- The parameter `T` of the outer class is no function type, since nothing is called like it; `D` is one. -/
theorem resolve?_of_parameter_nested :
    (ofFiles [parameterFile]).properties[1]? = some (nestedUse "Q" 2 3) ∧ (nestedUse "Q" 2 3).TypedByParameter "D" ∧
    (ofFiles [parameterFile]).properties[3]? = some (nestedUse "S" 21 22) ∧ (nestedUse "S" 21 22).TypedByParameter "T" ∧
    ∃ sQ sS, (ofFiles [parameterFile]).resolve? 2 (nestedUse "Q" 2 3).entry.declaration = some sQ ∧
      (ofFiles [parameterFile]).resolve? 4 (nestedUse "S" 21 22).entry.declaration = some sS ∧
      sQ.type.isFunction = true ∧ sS.type.isFunction = false ∧ sS.type.descriptor = "" := by
  obtain ⟨-, hQ, -, hS⟩ := typedByParameter_parameterFile
  rw [read_parameterFile.1]
  obtain ⟨sQ, hsQ, hfunction, -⟩ := resolve?_of_parameter (p := parameterProgram) (i := 1) rfl hQ
  obtain ⟨sS, hsS, -, -, hfree⟩ := resolve?_of_parameter (p := parameterProgram) (i := 3) rfl hS
  obtain ⟨hno, hempty⟩ := hfree (by decide) no_delegate_T
  exact ⟨rfl, hQ, rfl, hS, sQ, sS, hsQ, hsS, hfunction.2 namesDelegate_parameterProgram.2.1, hno, hempty⟩

end Compilation

end CSharp

end PropertyQuote
