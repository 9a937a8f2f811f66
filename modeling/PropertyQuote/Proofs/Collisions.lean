import PropertyQuote.Generation
import PropertyQuote.Proofs.CSharp.TypeNames
import PropertyQuote.Proofs.Conservation
import PropertyQuote.Proofs.HintName
import PropertyQuote.Proofs.Independence

/-!
# Collisions of units

The units of a pass over source texts have different hint names unless a type is called as a generic type is
filed.  The writer stores a unit under its hint name, so this is also when no unit overwrites another.  The same
holds of any groups whose owners have different keys and simple names, whatever template the units are written with.

* `unitOwners_keys`: the owners of the units of a pass have different keys.
* `hintNames_nodup_iff`: when all hint names of a pass differ.
* `hintNames_collide_iff`: which two of some groups get the same hint name.
-/

namespace PropertyQuote

/-- The owner of an outcome that has a unit. -/
def Outcome.emittedOwner? : Outcome → Option TypeSymbol
  | .emitted _ owner _ _ => some owner
  | .skipped .. => none

/-- The owners of the units of a pass. -/
def GenerationResult.emittedOwners (r : GenerationResult) : List TypeSymbol :=
  r.outcomes.filterMap Outcome.emittedOwner?

/-- The owners of the units of a pass. -/
lemma emittedOwners_passResult (emitBootstrap : Bool) (cs : List Candidate) :
    (passResult emitBootstrap cs).emittedOwners = unitOwners cs :=
  filterMap_passOutcomes (e := fun _ g => g.owner) (fun _ => rfl) (fun _ _ => rfl) cs

/-- The hint names of the units of a pass are that of the unit for the marker and those of the owners. -/
lemma map_hintName_units (emitBootstrap : Bool) (cs : List Candidate) :
    (passResult emitBootstrap cs).units.map SourceUnit.hintName =
      (if emitBootstrap then [bootstrapHintName] else []) ++
        (unitOwners cs).map (hintNameAmong (unitOwners cs)) := by
  have howners : (unitOwners cs).map (hintNameAmong (unitOwners cs)) =
      (emittableGroups cs).map fun g => hintNameAmong (unitOwners cs) g.owner := List.map_map
  rw [units_passResult, howners, List.map_append, List.map_map]
  cases emitBootstrap <;> rfl

/-- The owners of units have different keys. -/
lemma unitOwners_keys (cs : List Candidate) : ((unitOwners cs).map TypeSymbol.key).Nodup := by
  have hkeys : ((emittableGroups cs).map Group.key).Nodup := by
    have hall := ownerKeys_nodup cs
    rw [← groups_map_key] at hall
    exact hall.sublist (List.filter_sublist.map _)
  have htop : (unitOwners cs).map TypeSymbol.key = (emittableGroups cs).map Group.key := by
    rw [unitOwners, List.map_map]
    refine List.map_congr_left fun g hg => ?_
    have hlevel : g.owner.isTopLevel = true := (List.mem_filter.1 hg).2
    rw [Function.comp_apply, Group.key, TypeSymbol.groupKey, if_pos hlevel]
  rwa [htop]

/-- The owner of a unit is the owner of a candidate. -/
lemma exists_candidate_of_mem_unitOwners {cs : List Candidate} {t : TypeSymbol}
    (h : t ∈ unitOwners cs) : ∃ c ∈ cs, c.owner = t := by
  obtain ⟨g, hg, rfl⟩ := List.mem_map.1 h
  obtain ⟨hcs, howner⟩ := candidates_of_mem_groups (List.mem_filter.1 hg).1
  obtain ⟨c, hc, hct⟩ := Option.map_eq_some_iff.1 howner
  have hmem := List.mem_of_mem_head? hc
  rw [hcs] at hmem
  exact ⟨c, List.mem_of_mem_filter hmem, hct⟩

/-- The unit that declares the marker never collides with the unit of an owner. -/
lemma bootstrapHintName_ne (owners : List TypeSymbol) (t : TypeSymbol) :
    bootstrapHintName ≠ hintNameAmong owners t := by
  rw [hintNameAmong_eq]
  intro h
  have hsuffix : "_GenerateBonsai.g.cs".toList <:+ bootstrapHintName.toList := by
    rw [h, String.toList_append]
    exact List.suffix_append _ _
  revert hsuffix
  decide

/-- A candidate of a program is one of its properties. -/
lemma exists_property_of_mem_discover {marker : String} {p : CSharp.Compilation} {c : Candidate}
    (h : c ∈ discover marker p.occurrences) :
    ∃ property ∈ p.properties,
      c.owner = property.entry.owner ∧ c.name = property.entry.declaration.name := by
  obtain ⟨o, ho, hoc⟩ := List.mem_filterMap.1 h
  obtain ⟨property, hproperty, rfl⟩ := List.mem_map.1 ho
  obtain ⟨-, -, attributes, hresolution⟩ := candidate?_eq_some_iff.1 hoc
  obtain ⟨symbol, hsymbol, hr⟩ := Option.map_eq_some_iff.1 hresolution
  obtain ⟨type, -, rfl⟩ := Option.map_eq_some_iff.1 hsymbol
  exact ⟨property, hproperty, (congrArg Resolution.owner hr).symm,
    (congrArg (·.symbol.name) hr).symm⟩

/-- The owner of a unit of a program that is read from texts has a simple name. -/
lemma dot_notMem_of_mem_unitOwners {parse : CSharp.Parser} (hsimple : parse.NamesSimply)
    {texts : List (String × String)} {marker : String} {t : TypeSymbol}
    (h : t ∈ unitOwners (discover marker (CSharp.Compilation.ofTexts parse texts).occurrences)) :
    '.' ∉ t.name.toList := by
  obtain ⟨c, hc, rfl⟩ := exists_candidate_of_mem_unitOwners h
  obtain ⟨p, hp, howner, -⟩ := exists_property_of_mem_discover hc
  rw [howner]
  exact hsimple.simple_owner hp

/-- The hint names of the units of a pass over source texts all differ exactly if no owner of a unit looks
like another one with the same namespace printed in front.  The parser may be any that finds no dots in the names of
types. -/
theorem hintNames_nodup_iff (parse : CSharp.Parser) (hsimple : parse.NamesSimply) (marker : String)
    (emitBootstrap : Bool) (texts : List (String × String)) :
    ∃ r, generate { marker, emitBootstrap } (CSharp.Compilation.ofTexts parse texts).occurrences = .ok r ∧
      ((r.units.map SourceUnit.hintName).Nodup ↔
        ∀ a ∈ r.emittedOwners, ∀ b ∈ r.emittedOwners, a.LooksLike b →
          printedHome r.emittedOwners a ≠ printedHome r.emittedOwners b) := by
  refine ⟨_, generate_standardTemplate marker emitBootstrap _, ?_⟩
  have hnames := nodup_hintNamesAmong
    (unitOwners_keys (discover marker (CSharp.Compilation.ofTexts parse texts).occurrences))
    (fun t => dot_notMem_of_mem_unitOwners hsimple)
  rw [emittedOwners_passResult, map_hintName_units, ← hnames]
  cases emitBootstrap with
  | false => rfl
  | true =>
    -- the unit for the marker stands in front and collides with none
    simp only [if_true, List.singleton_append, List.nodup_cons, List.mem_map, not_exists, not_and]
    exact and_iff_right fun t _ h => bootstrapHintName_ne _ t h.symm

/-- A generic class, and one that is named like its unit. -/
def boxesText : String :=
  "using Corvus.Expressions.SourceGenerator;\n" ++
  "partial class Box<T> \x7b [GenerateBonsai] int Size => 1; \x7d\n" ++
  "partial class Box_1 \x7b [GenerateBonsai] int Depth => 2; \x7d\n"

/-- Two units of such classes have the same hint name, since one class looks like the other. -/
theorem hintNames_nodup_iff_boxes :
    CSharp.Parser.NamesSimply CSharp.parse ∧
      ∃ r, generate {} (CSharp.Compilation.ofTexts CSharp.parse [("Box.cs", boxesText)]).occurrences = .ok r ∧
        r.units.map SourceUnit.hintName =
          ["GenerateBonsaiAttribute.g.cs", "Box_1_GenerateBonsai.g.cs", "Box_1_GenerateBonsai.g.cs"] ∧
        ∃ a ∈ r.emittedOwners, ∃ b ∈ r.emittedOwners,
          a.LooksLike b ∧ printedHome r.emittedOwners a = printedHome r.emittedOwners b := by
  obtain ⟨r, hr, hiff⟩ :=
    hintNames_nodup_iff CSharp.parse CSharp.namesSimply_parse standardMarker true [("Box.cs", boxesText)]
  have hnames : r.units.map SourceUnit.hintName =
      ["GenerateBonsaiAttribute.g.cs", "Box_1_GenerateBonsai.g.cs", "Box_1_GenerateBonsai.g.cs"] := by
    rw [← Except.ok.inj ((generate_standardTemplate ..).symm.trans hr)]
    decide +kernel
  refine ⟨CSharp.namesSimply_parse, r, hr, hnames, ?_⟩
  by_contra hnone
  push Not at hnone
  rw [hnames] at hiff
  exact absurd (hiff.2 hnone) (by decide)

/-! ## Any groups -/

section Groups
variable {template : Except Template.Error (List Template.Piece)} {gs : List Group} {os : List Outcome} {i j : Nat}
  {g g' : Group}

/-- The hint name of the unit, if there is one. -/
def Outcome.hintName? (o : Outcome) : Option String :=
  (GenerationResult.unitOf? o).map SourceUnit.hintName

/-- Each emitted group has the name that it gets among all of them. -/
lemma map_hintName?_of_emitAll (h : emitAll template gs = .ok os) :
    os.map Outcome.hintName? = gs.map fun g => some (hintNameAmong (gs.map Group.owner) g.owner) := by
  have hemitted := mapM_eq_ok_iff.1 h
  rw [← List.forall₂_eq_eq_eq, List.forall₂_map_left_iff, List.forall₂_map_right_iff]
  refine hemitted.flip.imp ?_
  intro o g hg
  obtain ⟨pieces, text, -, -, rfl⟩ := emit_eq_ok hg
  rfl

/-- The same for one group by its index. -/
lemma hintName?_of_emitAll (h : emitAll template gs = .ok os) (hi : gs[i]? = some g) :
    os[i]?.bind Outcome.hintName? = some (hintNameAmong (gs.map Group.owner) g.owner) := by
  have hnames := congrArg (·[i]?) (map_hintName?_of_emitAll h)
  simp only [List.getElem?_map, hi, Option.map_some] at hnames
  obtain ⟨o, ho, hhint⟩ := Option.map_eq_some_iff.1 hnames
  rw [ho]
  exact hhint

/-- Owners at different places have different keys. -/
lemma key_ne_of_nodup (hkeys : (gs.map (·.owner.key)).Nodup) (hi : gs[i]? = some g) (hj : gs[j]? = some g')
    (hne : i ≠ j) : g.owner.key ≠ g'.owner.key := by
  intro heq
  apply hne
  obtain ⟨hlt, -⟩ := List.getElem?_eq_some_iff.1 hi
  refine (List.getElem?_inj (by rwa [List.length_map]) hkeys).1 ?_
  rw [List.getElem?_map, List.getElem?_map, hi, hj, Option.map_some, Option.map_some, heq]

/-- Groups whose owners have different keys and simple names are all written with the standard template.  Under every
template that writes them, two of them get the same hint name exactly if one owner looks like the other and the same
namespace is printed in front of both. -/
theorem hintNames_collide_iff (hkeys : (gs.map (·.owner.key)).Nodup)
    (hdots : ∀ g ∈ gs, '.' ∉ g.owner.name.toList) :
    (∃ os, emitAll (.ok standardTemplate) gs = .ok os) ∧
    ∀ template os, emitAll template gs = .ok os → os.length = gs.length ∧
      ∀ (i j : Nat) (g g' : Group), gs[i]? = some g → gs[j]? = some g' → i ≠ j →
        ∃ hint hint', os[i]?.bind Outcome.hintName? = some hint ∧ os[j]?.bind Outcome.hintName? = some hint' ∧
          (hint = hint' ↔
            (g.owner.LooksLike g'.owner ∨ g'.owner.LooksLike g.owner) ∧
              printedHome (gs.map Group.owner) g.owner = printedHome (gs.map Group.owner) g'.owner) := by
  refine ⟨⟨_, emitAll_standardTemplate gs⟩, fun template os hos => ⟨?_, ?_⟩⟩
  · exact (mapM_eq_ok_iff.1 hos).length_eq.symm
  · intro i j g g' hi hj hne
    refine ⟨_, _, hintName?_of_emitAll hos hi, hintName?_of_emitAll hos hj, ?_⟩
    have hg := List.mem_of_getElem? hi
    have hg' := List.mem_of_getElem? hj
    rw [hintNameAmong_eq_iff (List.mem_map_of_mem hg) (List.mem_map_of_mem hg') (hdots g hg) (hdots g' hg')]
    exact or_iff_right (key_ne_of_nodup hkeys hi hj hne)

/-- Four groups without candidates: `Box<T>` and `Item` in the namespace `A`, `Box_1` and `Item` in the namespace `B`. -/
def boxesAndItems : List Group :=
  [⟨.inNamespace ⟨"Box", "class", ["T"]⟩ "A" "A", []⟩, ⟨.inNamespace ⟨"Box_1", "class", []⟩ "B" "B", []⟩,
   ⟨.inNamespace ⟨"Item", "class", []⟩ "A" "A", []⟩, ⟨.inNamespace ⟨"Item", "class", []⟩ "B" "B", []⟩]

/-- The boxes share a hint name, although they lie in different namespaces; the items do not. -/
theorem hintNames_collide_boxes :
    (boxesAndItems.map (·.owner.key)).Nodup ∧ (∀ g ∈ boxesAndItems, '.' ∉ g.owner.name.toList) ∧
    ∃ os, emitAll (.ok standardTemplate) boxesAndItems = .ok os ∧
      os[0]?.bind Outcome.hintName? = os[1]?.bind Outcome.hintName? ∧
      os[2]?.bind Outcome.hintName? ≠ os[3]?.bind Outcome.hintName? := by
  have hkeys : (boxesAndItems.map (·.owner.key)).Nodup := by decide
  have hdots : ∀ g ∈ boxesAndItems, '.' ∉ g.owner.name.toList := by decide
  obtain ⟨⟨os, hos⟩, hall⟩ := hintNames_collide_iff hkeys hdots
  obtain ⟨-, hcollide⟩ := hall _ os hos
  obtain ⟨box, box', hbox, hbox', hboxes⟩ := hcollide 0 1 _ _ rfl rfl (by decide)
  obtain ⟨item, item', hitem, hitem', hitems⟩ := hcollide 2 3 _ _ rfl rfl (by decide)
  refine ⟨hkeys, hdots, os, hos, ?_, ?_⟩
  · rw [hbox, hbox', hboxes.2 (by decide)]
  · rw [hitem, hitem', ne_eq, Option.some.injEq, hitems]
    decide

end Groups

end PropertyQuote
