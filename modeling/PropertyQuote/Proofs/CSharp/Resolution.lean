import Mathlib.Data.List.Find
import PropertyQuote.Proofs.CSharp.Programs

/-!
# What the meaning of a name rests on

A name is looked up in many places, but every full name that is tried ends like the name itself, or like the target
of an alias that the name may be.  So the symbol of a property rests on few answers of the program: its aliases, the
types that end like a name the property mentions, and the types in opened namespaces.

* `mentions`, `namesOf`: the names that a property mentions, and the targets of aliases that they may be.
* `AlikeAt`: two programs give the same answers for a name.
* `symbol?_congr`: then they give the property the same symbol.
-/

namespace PropertyQuote

/-! ## The last part of a name -/

namespace Name

/-- The part of a name after its last dot. -/
def simple (s : String) : String :=
  String.ofList (last s.toList)

/-- The last segment is behind the last dot. -/
lemma last_append_dot (s t : List Char) : last (s ++ '.' :: t) = last t := by
  have hstop : ('.' :: s.reverse).takeWhile (· != '.') = [] := rfl
  rw [last, last, List.reverse_append, List.reverse_cons, List.append_assoc, List.singleton_append,
    List.takeWhile_append, hstop, List.append_nil]
  split
  case isTrue hall => rw [(List.takeWhile_prefix _).eq_of_length hall]
  case isFalse => rfl

/-- A name behind a dot keeps its last part. -/
lemma simple_append (s t : String) : simple (s ++ "." ++ t) = simple t := by
  have htext : (s ++ "." ++ t).toList = s.toList ++ '.' :: t.toList := by
    rw [String.toList_append, String.toList_append, List.append_assoc]
    rfl
  rw [simple, htext, last_append_dot]
  rfl

/-- A name in a namespace keeps its last part. -/
lemma simple_join (ns name : String) : simple (join ns name) = simple name := by
  unfold join
  split
  · rfl
  · exact simple_append ns name

end Name

namespace CSharp

/-- The type that a node is written as, without question marks. -/
def writtenAs? (source : Source) (n : Node) : Option WrittenType :=
  writtenType? source (withoutNullable n)

/-- A name with the number of its type arguments, as it is looked up. -/
structure Mention where
  ref : Name.Reference
  arity : Nat
deriving DecidableEq

/-- The name of a written type, with the number of its arguments. -/
def WrittenType.mention (t : WrittenType) : Mention :=
  ⟨t.ref, t.arguments.length⟩

namespace Compilation

variable {p p' : Compilation} {here : Property} {m : Mention}

/-- A type with a kind is an entry of the program. -/
lemma exists_entry_of_kind? {r : String} {arity : Nat} {kind : TypeKind}
    (h : p.kind? r arity = some kind) :
    ∃ e ∈ p.types, e.fullName = r ∧ e.arity = arity ∧ e.kind = kind := by
  obtain ⟨e, hfound, hkind⟩ := Option.map_eq_some_iff.1 h
  have hmatches := List.find?_some hfound
  rw [Bool.and_eq_true, beq_iff_eq, beq_iff_eq] at hmatches
  exact ⟨e, List.mem_of_find?_eq_some hfound, hmatches.1, hmatches.2, hkind⟩

/-! ## The names that a property mentions -/

/-- A type that is written, and the type that is the target if it is an alias. -/
def mentionsOf (p : Compilation) (here : Property) (t : WrittenType) : List Mention :=
  t.mention ::
    (((p.wholeAlias? here t).bind fun a => writtenAs? a.source a.node).map WrittenType.mention).toList

/-- The names in the type of a property. -/
def typeMentions (p : Compilation) (here : Property) : List Mention :=
  (here.entry.type.bind (writtenAs? here.entry.source)).toList.flatMap (p.mentionsOf here)

/-- The names under which an attribute is looked up, with and without the usual ending. -/
def attributeRefs (written : String) : List Name.Reference :=
  (attributeClassNames (Name.split written).name).map fun name => { Name.split written with name }

/-- The names under which the attributes of a property are looked up. -/
def attributeMentions (here : Property) : List Mention :=
  here.entry.declaration.attributeNames.flatMap fun written => (attributeRefs written).map (⟨·, 0⟩)

/-- The names that a property mentions, in its type and its attributes. -/
def mentions (p : Compilation) (here : Property) : List Mention :=
  p.typeMentions here ++ attributeMentions here

/-- The name itself, and the target of the alias that it may be. -/
def namesOf (p : Compilation) (here : Property) (m : Mention) : List String :=
  m.ref.name ::
    if m.ref.qualifier.isNone && m.arity == 0 then ((p.alias? here m.ref.name).map Alias.target).toList else []

/-! ## Programs that answer alike -/

/-- Two programs give the same answers to what is asked about a name at a property. -/
structure AlikeAt (p p' : Compilation) (here : Property) (m : Mention) : Prop where
  alias? : ∀ name, p'.alias? here name = p.alias? here name
  kind? : ∀ name ∈ p.namesOf here m, ∀ fullName arity, Name.simple fullName = Name.simple name →
    p'.kind? fullName arity = p.kind? fullName arity
  opened : m.ref.qualifier = none →
    p'.lookupOpened? here m.ref.name m.arity = p.lookupOpened? here m.ref.name m.arity

namespace AlikeAt

/-- Types that end like the name are of the same kind. -/
lemma kind?_self (h : AlikeAt p p' here m) {fullName : String} (hname : Name.simple fullName = Name.simple m.ref.name)
    (arity : Nat) : p'.kind? fullName arity = p.kind? fullName arity :=
  h.kind? m.ref.name List.mem_cons_self fullName arity hname

/-- The same one of some full names is found. -/
lemma find?_declares (h : AlikeAt p p' here m) {names : List String}
    (hnames : ∀ fullName ∈ names, Name.simple fullName = Name.simple m.ref.name) (arity : Nat) :
    names.find? (p'.declares arity) = names.find? (p.declares arity) := by
  apply List.find?_congr
  intro fullName hmem
  rw [declares, declares, h.kind?_self (hnames fullName hmem)]

/-- The name is found alike around the property. -/
lemma lookupEnclosing? (h : AlikeAt p p' here m) (arity : Nat) :
    p'.lookupEnclosing? here m.ref.name arity = p.lookupEnclosing? here m.ref.name arity := by
  refine h.find?_declares (List.forall_mem_append.2 ⟨?_, ?_⟩) arity
  · rw [List.forall_mem_map]
    exact fun t _ => Name.simple_append t.displayName m.ref.name
  · rw [List.forall_mem_map]
    exact fun ns _ => Name.simple_join ns m.ref.name

/-- Qualifiers stand for the same names. -/
lemma expandQualifier (h : AlikeAt p p' here m) (q : String) :
    p'.expandQualifier here q = p.expandQualifier here q := by
  unfold Compilation.expandQualifier
  dsimp only
  rw [h.alias?]

/-- The name is found alike behind an alias. -/
lemma lookupAlias? (h : AlikeAt p p' here m) (hsimple : m.ref.qualifier = none) :
    p'.lookupAlias? here m.ref.name m.arity = p.lookupAlias? here m.ref.name m.arity := by
  unfold Compilation.lookupAlias?
  rw [h.alias?]
  split
  case isTrue harity =>
    cases halias : p.alias? here m.ref.name with
    | none => rfl
    | some a =>
      have hmem : a.target ∈ p.namesOf here m := by
        rw [namesOf, hsimple, harity, halias]
        exact List.mem_cons_of_mem _ List.mem_cons_self
      have hdeclares : p'.declares 0 a.target = p.declares 0 a.target := by
        rw [declares, declares, h.kind? a.target hmem a.target 0 rfl]
      rw [Option.map_some, Option.filter_some, Option.filter_some, hdeclares]
  case isFalse => rfl

/-- The full names that are tried for a qualified name end like it. -/
lemma simple_of_mem_qualifiedNames {q name fullName : String} (h : fullName ∈ p.qualifiedNames here q name) :
    Name.simple fullName = Name.simple name := by
  obtain ⟨ns, -, rfl⟩ := List.mem_map.1 h
  rw [Name.simple_join, Name.simple_append]

/-- The name is found alike. -/
lemma lookup? (h : AlikeAt p p' here m) :
    p'.lookup? here m.ref m.arity = p.lookup? here m.ref m.arity := by
  unfold Compilation.lookup?
  cases hqualifier : m.ref.qualifier with
  | some q =>
    have hnames : p'.qualifiedNames here q m.ref.name = p.qualifiedNames here q m.ref.name := by
      rw [qualifiedNames, qualifiedNames, h.expandQualifier]
    dsimp only
    rw [hnames, h.find?_declares fun fullName => simple_of_mem_qualifiedNames]
  | none =>
    dsimp only
    rw [h.lookupEnclosing?, h.lookupAlias? hqualifier, h.opened hqualifier]

/-- What is found for the name is of the same kind. -/
lemma kind?_of_lookup? (h : AlikeAt p p' here m) {fullName : String}
    (hfound : p.lookup? here m.ref m.arity = some fullName) (arity : Nat) :
    p'.kind? fullName arity = p.kind? fullName arity := by
  unfold Compilation.lookup? at hfound
  cases hqualifier : m.ref.qualifier with
  | some q =>
    rw [hqualifier] at hfound
    exact h.kind?_self (simple_of_mem_qualifiedNames (List.mem_of_find?_eq_some hfound)) arity
  | none =>
    rw [hqualifier] at hfound
    dsimp only at hfound
    rw [Option.or_eq_some_iff, Option.or_eq_some_iff] at hfound
    -- the target of an alias need not end like the name, but it is among the names that are asked about
    rcases hfound with henclosing | ⟨-, halias | ⟨-, hopened⟩⟩
    · rcases List.mem_append.1 (List.mem_of_find?_eq_some henclosing) with hmem | hmem
      · obtain ⟨t, -, rfl⟩ := List.mem_map.1 hmem
        exact h.kind?_self (Name.simple_append _ _) arity
      · obtain ⟨ns, -, rfl⟩ := List.mem_map.1 hmem
        exact h.kind?_self (Name.simple_join _ _) arity
    · unfold Compilation.lookupAlias? at halias
      split at halias
      case isTrue harity =>
        refine h.kind? fullName ?_ fullName arity rfl
        rw [namesOf, hqualifier, harity]
        exact List.mem_cons_of_mem _ (Option.mem_toList.2 (Option.filter_eq_some_iff.1 halias).1)
      case isFalse => cases halias
    · obtain ⟨ns, -, rfl⟩ := List.mem_map.1 (List.mem_of_find?_eq_some hopened)
      exact h.kind?_self (Name.simple_join _ _) arity

/-- A written type with this name is resolved alike. -/
lemma resolveWritten {t : WrittenType} (h : AlikeAt p p' here t.mention) (source : Source) :
    p'.resolveWritten here source t = p.resolveWritten here source t := by
  have hkind : (p'.lookup? here t.ref t.arguments.length).bind (p'.kind? · t.arguments.length) =
      (p.lookup? here t.ref t.arguments.length).bind (p.kind? · t.arguments.length) := by
    have hlookup : p'.lookup? here t.ref t.arguments.length = p.lookup? here t.ref t.arguments.length := h.lookup?
    rw [hlookup]
    cases hfound : p.lookup? here t.ref t.arguments.length with
    | none => rfl
    | some fullName => exact h.kind?_of_lookup? hfound t.arguments.length
  unfold Compilation.resolveWritten
  dsimp only
  rw [hkind]

/-- A written type is the same alias as a whole. -/
lemma wholeAlias? {t : WrittenType} (h : AlikeAt p p' here t.mention) :
    p'.wholeAlias? here t = p.wholeAlias? here t := by
  have henclosing : p'.lookupEnclosing? here t.ref.name 0 = p.lookupEnclosing? here t.ref.name 0 :=
    h.lookupEnclosing? 0
  unfold Compilation.wholeAlias?
  rw [henclosing, h.alias?]

end AlikeAt

/-- With the same directives for all files, only the types matter. -/
lemma alikeAt_of_globals (hglobals : p'.globals = p.globals)
    (hkind : ∀ name ∈ p.namesOf here m, ∀ fullName arity, Name.simple fullName = Name.simple name →
      p'.kind? fullName arity = p.kind? fullName arity) : AlikeAt p p' here m := by
  refine ⟨?_, hkind, ?_⟩
  · intro name
    rw [Compilation.alias?, Compilation.alias?, hglobals]
  · intro _
    unfold lookupOpened?
    rw [hglobals]
    apply List.find?_congr
    intro fullName hmem
    obtain ⟨ns, -, rfl⟩ := List.mem_map.1 hmem
    rw [declares, declares, hkind m.ref.name List.mem_cons_self _ _ (Name.simple_join ns m.ref.name)]

/-! ## The symbol of a property -/

/-- Programs that answer alike for the name of a type resolve it alike, regardless of aliases. -/
lemma resolveDirect_congr {source : Source} {n : Node}
    (h : ∀ t, writtenAs? source n = some t → AlikeAt p p' here t.mention) :
    p'.resolveDirect here source n = p.resolveDirect here source n := by
  unfold resolveDirect
  dsimp only
  split
  · rfl
  · cases hwritten : writtenType? source (withoutNullable n) with
    | none => rfl
    | some t => exact (h t hwritten).resolveWritten source

/-- Programs that answer alike for the names in the type of a property resolve it alike. -/
lemma resolveType_congr {n : Node} (htype : here.entry.type = some n)
    (h : ∀ m ∈ p.typeMentions here, AlikeAt p p' here m) : p'.resolveType here n = p.resolveType here n := by
  unfold resolveType
  cases hwritten : writtenType? here.entry.source (withoutNullable n) with
  | none =>
    refine resolveDirect_congr fun t ht => ?_
    cases hwritten.symm.trans ht
  | some t =>
    have hmentions : p.typeMentions here = p.mentionsOf here t := by
      have hfound : here.entry.type.bind (writtenAs? here.entry.source) = some t := by
        rw [htype]
        exact hwritten
      rw [typeMentions, hfound]
      exact List.flatMap_singleton _ _
    rw [hmentions, mentionsOf, List.forall_mem_cons] at h
    obtain ⟨hwhole, htarget⟩ := h
    rw [Option.bind_some, Option.bind_some, hwhole.wholeAlias?]
    cases halias : p.wholeAlias? here t with
    | none =>
      refine resolveDirect_congr fun t' ht' => ?_
      obtain rfl : t = t' := Option.some.inj (hwritten.symm.trans ht')
      exact hwhole
    | some a =>
      refine resolveDirect_congr fun t' ht' => htarget _ ?_
      rw [halias, Option.bind_some, ht']
      exact List.mem_cons_self

/-- An attribute is what the first of its names is found to be. -/
lemma attribute?_eq_findSome? {written : String} : p.attribute? here written =
    (attributeRefs written).findSome? fun ref => p.lookup? here ref 0 := by
  rw [attributeRefs, List.findSome?_map, attribute?]
  simp only [Function.comp_def]

/-- Programs that answer alike for the names of its attributes give a property the same attributes. -/
lemma attribute?_congr {written : String} (hwritten : written ∈ here.entry.declaration.attributeNames)
    (h : ∀ m ∈ attributeMentions here, AlikeAt p p' here m) :
    p'.attribute? here written = p.attribute? here written := by
  have hlookup (ref : Name.Reference) (href : ref ∈ attributeRefs written) :
      p'.lookup? here ref 0 = p.lookup? here ref 0 := by
    have hmem : ⟨ref, 0⟩ ∈ attributeMentions here :=
      List.mem_flatMap.2 ⟨written, hwritten, List.mem_map_of_mem href⟩
    exact (h _ hmem).lookup?
  rw [attribute?_eq_findSome?, attribute?_eq_findSome?, ← List.head?_filterMap, ← List.head?_filterMap]
  exact congrArg List.head? (List.filterMap_congr hlookup)

/-- Programs that answer alike for all names that a property mentions give it the same symbol. -/
lemma symbol?_congr (h : ∀ m ∈ p.mentions here, AlikeAt p p' here m) : p'.symbol? here = p.symbol? here := by
  obtain ⟨htypes, hattributes⟩ := List.forall_mem_append.1 h
  have hattribute : here.entry.declaration.attributeNames.filterMap (p'.attribute? here) =
      here.entry.declaration.attributeNames.filterMap (p.attribute? here) :=
    List.filterMap_congr fun written hwritten => attribute?_congr hwritten hattributes
  unfold symbol?
  apply Option.map_congr
  intro n hn
  dsimp only
  rw [hattribute, resolveType_congr hn htypes]

end Compilation

end CSharp

end PropertyQuote
