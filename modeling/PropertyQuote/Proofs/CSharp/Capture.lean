import PropertyQuote.Proofs.CSharp.Recognition

/-!
# Names that are captured

A name is looked up from the place where it is used, so the types, namespaces, aliases and opened namespaces around that
place may give it another meaning than the full name that it spells.  Where they provide nothing, the name is the full
name.

* `Provides`: the full names that come from the surroundings of a property.
* `Undisturbed`, `lookup?_of_undisturbed`: a name that nothing captures.
-/

namespace PropertyQuote

/-- The name as a full name from the global namespace. -/
def Name.Reference.fullName (ref : Name.Reference) : String :=
  match ref.qualifier with
  | some q => q ++ "." ++ ref.name
  | none => ref.name

namespace Name

/-- The namespaces around a place end with the global one, and the others come before it. -/
lemma mem_enclosing_nil (s : List Char) : [] ∈ enclosing s := by
  fun_induction enclosing s with
  | case1 => exact List.mem_singleton.2 rfl
  | case2 s _ ih => exact List.mem_cons_of_mem _ ih

/-- The global namespace is around every place. -/
lemma empty_mem_chain (ns : String) : "" ∈ chain ns :=
  List.mem_map.2 ⟨[], mem_enclosing_nil _, rfl⟩

/-- A name without a dot is its last segment. -/
lemma last_of_notMem {t : List Char} (h : '.' ∉ t) : last t = t ∧ init t = [] := by
  have hreverse : '.' ∉ t.reverse := mt List.mem_reverse.1 h
  obtain ⟨htake, hdrop⟩ := takeWhile_of_notMem hreverse
  rw [last, init, htake, hdrop]
  exact ⟨List.reverse_reverse t, rfl⟩

/-- A name is split at its last dot. -/
lemma last_append_of_notMem {s t : List Char} (h : '.' ∉ t) : last (s ++ '.' :: t) = t ∧ init (s ++ '.' :: t) = s := by
  have hreverse : '.' ∉ t.reverse := mt List.mem_reverse.1 h
  obtain ⟨htake, hdrop⟩ := takeWhile_append_dot hreverse s.reverse
  rw [last, init, List.reverse_append, List.reverse_cons, List.append_assoc, List.singleton_append, htake, hdrop]
  exact ⟨List.reverse_reverse t, List.reverse_reverse s⟩

end Name

namespace CSharp.Compilation

variable {p : Compilation} {here : Property} {ref : Name.Reference} {arity : Nat} {r : String}

/-! ## What the surroundings provide -/

/-- The full names that the surroundings of a property provide for a name, besides the full name that it spells. -/
inductive Provides (p : Compilation) (here : Property) : Name.Reference → Nat → String → Prop where
  | inType {name arity t} (ht : t ∈ here.entry.owner.withOuter) :
      Provides p here ⟨none, name⟩ arity (t.displayName ++ "." ++ name)
  | inNamespace {name arity ns} (hns : ns ∈ Name.chain here.entry.home) (hne : ns ≠ "") :
      Provides p here ⟨none, name⟩ arity (Name.join ns name)
  | alias {name a} (halias : p.alias? here name = some a) : Provides p here ⟨none, name⟩ 0 a.target
  | opened {name arity ns} (hns : ns ∈ here.scope.openings ++ p.globals.openings) :
      Provides p here ⟨none, name⟩ arity (Name.join ns name)
  /-- A qualified name is a name inside a namespace around the property. -/
  | relative {q name arity ns} (halias : p.alias? here (Name.firstSegment q) = none)
      (hns : ns ∈ Name.chain here.entry.home) (hne : ns ≠ "") :
      Provides p here ⟨some q, name⟩ arity (Name.join ns (q ++ "." ++ name))
  /-- The first segment of a qualified name is an alias. -/
  | aliased {q q' name arity ns a} (halias : p.alias? here (Name.firstSegment q) = some a)
      (hstands : StandsFor p here q q') (hns : ns ∈ Name.chain here.entry.home) :
      Provides p here ⟨some q, name⟩ arity (Name.join ns (q' ++ "." ++ name))

/-- A name that does not start with an alias. -/
def Unaliased (p : Compilation) (here : Property) (ref : Name.Reference) : Prop :=
  ∀ q, ref.qualifier = some q → p.alias? here (Name.firstSegment q) = none

/-- A name that is tried is the full name that is spelled, or it comes from the surroundings. -/
lemma provides_of_mem_candidates (h : r ∈ p.candidates here ref arity) :
    p.Provides here ref arity r ∨ r = ref.fullName := by
  obtain ⟨qualifier, name⟩ := ref
  cases qualifier with
  | some q =>
    obtain ⟨ns, hns, rfl⟩ := List.mem_map.1 h
    cases halias : p.alias? here (Name.firstSegment q) with
    | some a => exact .inl (.aliased halias (standsFor_iff.2 rfl) hns)
    | none =>
      rw [← standsFor_iff.1 (.itself halias)]
      by_cases hne : ns = ""
      · rw [hne]
        exact .inr rfl
      · exact .inl (.relative halias hns hne)
  | none =>
    simp only [candidates, List.mem_append] at h
    rcases h with (h | h) | h | h
    · obtain ⟨t, ht, rfl⟩ := List.mem_map.1 h
      exact .inl (.inType ht)
    · obtain ⟨ns, hns, rfl⟩ := List.mem_map.1 h
      by_cases hne : ns = ""
      · rw [hne]
        exact .inr rfl
      · exact .inl (.inNamespace hns hne)
    · split at h
      case isTrue harity =>
        subst harity
        obtain ⟨a, halias, rfl⟩ := Option.map_eq_some_iff.1 (Option.mem_toList.1 h)
        exact .inl (.alias halias)
      case isFalse => cases h
    · obtain ⟨ns, hns, rfl⟩ := List.mem_map.1 h
      exact .inl (.opened hns)

/-- What is found is the full name that is spelled, or it comes from the surroundings. -/
lemma provides_of_lookup? (h : p.lookup? here ref arity = some r) :
    p.declares arity r = true ∧ (p.Provides here ref arity r ∨ r = ref.fullName) := by
  rw [lookup?_eq_find?_candidates] at h
  exact ⟨List.find?_some h, provides_of_mem_candidates (List.mem_of_find?_eq_some h)⟩

/-- Unless it starts with an alias, a name is tried as the full name that it spells. -/
lemma fullName_mem_candidates (h : p.Unaliased here ref) : ref.fullName ∈ p.candidates here ref arity := by
  obtain ⟨qualifier, name⟩ := ref
  have hglobal := Name.empty_mem_chain here.entry.home
  cases qualifier with
  | some q =>
    have hitself := standsFor_iff.1 (StandsFor.itself (h q rfl))
    refine List.mem_map.2 ⟨"", hglobal, ?_⟩
    rw [← hitself]
    rfl
  | none =>
    refine List.mem_append_left _ (List.mem_append_right _ (List.mem_map.2 ⟨"", hglobal, rfl⟩))

/-- A name that starts with no alias and for which the surroundings of a property provide no other known type. -/
structure Undisturbed (p : Compilation) (here : Property) (ref : Name.Reference) (arity : Nat) : Prop where
  unaliased : p.Unaliased here ref
  alone : ∀ r, p.Provides here ref arity r → p.declares arity r = true → r = ref.fullName

/-- An undisturbed name is the full name that it spells, if that is known. -/
lemma lookup?_of_undisturbed (h : p.Undisturbed here ref arity) : p.lookup? here ref arity =
    if p.declares arity ref.fullName = true then some ref.fullName else none := by
  cases hfound : p.lookup? here ref arity with
  | none =>
    rw [lookup?_eq_find?_candidates, List.find?_eq_none] at hfound
    rw [if_neg (hfound _ (fullName_mem_candidates h.unaliased))]
  | some r =>
    obtain ⟨hdeclared, hprovided⟩ := provides_of_lookup? hfound
    have heq : r = ref.fullName := by
      rcases hprovided with hprovided | heq
      · exact h.alone r hprovided hdeclared
      · exact heq
    rw [heq] at hdeclared ⊢
    rw [if_pos hdeclared]

end CSharp.Compilation

end PropertyQuote
