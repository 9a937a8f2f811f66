import Mathlib.Data.List.Perm.Basic
import PropertyQuote.Proofs.Conservation

/-!
# Owners do not interfere

What a pass makes of one owner rests on the candidates of that owner alone.  Other owners decide the place of its
outcome among the others, and whether its hint name needs the namespace in front.

* `Group.outcome`: what becomes of one group, if the owners with a unit are known.
* `outcomesUnder_eq_ok_iff`: the outcomes of some candidates, group by group.
* `outcomes_of_owner`: two lists of candidates with the same candidates of an owner have the same outcome of it.
-/

namespace PropertyQuote

variable {template : Except Template.Error (List Template.Piece)} {cs cs' : List Candidate} {k : OwnerKey}
  {g : Group} {o o' : Outcome} {os os' : List Outcome} {owners owners' : List TypeSymbol}

/-- The candidates of one owner, in their order. -/
def ownedBy (k : OwnerKey) (cs : List Candidate) : List Candidate :=
  cs.filter (·.key == k)

/-- The candidates of all other owners, in their order. -/
def notOwnedBy (k : OwnerKey) (cs : List Candidate) : List Candidate :=
  cs.filter (·.key != k)

/-- What becomes of some candidates: they are grouped, units are written, and the groups without one are skipped. -/
def outcomesUnder (template : Except Template.Error (List Template.Piece)) (cs : List Candidate) :
    Except Template.Error (List Outcome) := do
  let emitted ← emitAll template (emittableGroups cs)
  return emitted ++ (nestedGroups cs).map Group.skip

/-- The outcomes of one owner. -/
def outcomesOf (k : OwnerKey) (os : List Outcome) : List Outcome :=
  os.filter (·.key == k)

namespace Outcome

/-- An outcome without the hint name of its unit. -/
def withoutHint : Outcome → Outcome
  | .emitted unit owner members omitted => .emitted { unit with hintName := "" } owner members omitted
  | .skipped owner reason candidates => .skipped owner reason candidates

/-- The text of the unit, if there is one. -/
def text? : Outcome → Option String
  | .emitted unit .. => some unit.text
  | .skipped .. => none

/-- Whether a unit is written for an owner with the name and the number of type parameters of a key. -/
def sharesName (k : OwnerKey) (o : Outcome) : Bool :=
  o.isEmitted && o.owner.name == k.name && o.owner.arity == k.arity

/-- The text of an outcome is kept when its name is forgotten. -/
lemma text?_withoutHint (o : Outcome) : o.withoutHint.text? = o.text? := by
  cases o <;> rfl

end Outcome

/-- More than one owner with a unit has the name and the number of type parameters of a key. -/
def NameShared (k : OwnerKey) (os : List Outcome) : Prop :=
  1 < os.countP (·.sharesName k)

/-! ## The group of one owner -/

/-- The groups in the order of their outcomes. -/
def orderedGroups (cs : List Candidate) : List Group :=
  emittableGroups cs ++ nestedGroups cs

/-- The group of a key depends on the candidates with this key alone. -/
lemma groupOf?_congr (h : ownedBy k cs = ownedBy k cs') : groupOf? cs k = groupOf? cs' k := by
  rw [ownedBy, ownedBy] at h
  rw [groupOf?, groupOf?, h]

/-- A key without a group has no candidates. -/
lemma ownedBy_eq_nil (h : groupOf? cs k = none) : ownedBy k cs = [] := by
  cases howned : ownedBy k cs with
  | nil => rfl
  | cons c rest =>
    rw [ownedBy] at howned
    rw [groupOf?, howned] at h
    cases h

/-- Where keys are distinct, a group is the only one with its key. -/
lemma filter_key_singleton {gs : List Group} (hnodup : (gs.map Group.key).Nodup) (hg : g ∈ gs) :
    gs.filter (·.key == g.key) = [g] := by
  induction gs with
  | nil => cases hg
  | cons a gs ih =>
    rw [List.map_cons, List.nodup_cons] at hnodup
    obtain ⟨hfirst, hrest⟩ := hnodup
    rcases List.mem_cons.1 hg with rfl | hg
    · have hnone : gs.filter (·.key == g.key) = [] := by
        apply List.filter_eq_nil_iff.2
        intro b hb heq
        exact hfirst (eq_of_beq heq ▸ List.mem_map_of_mem hb)
      rw [List.filter_cons_of_pos (p := fun b : Group => b.key == g.key) (beq_self_eq_true g.key), hnone]
    · have hne : ¬ (a.key == g.key) = true := by
        intro heq
        exact hfirst (eq_of_beq heq ▸ List.mem_map_of_mem hg)
      rw [List.filter_cons_of_neg (p := fun b : Group => b.key == g.key) hne]
      exact ih hrest hg

/-- The groups of a key are its one group, if it has candidates. -/
lemma filter_orderedGroups (cs : List Candidate) (k : OwnerKey) :
    (orderedGroups cs).filter (·.key == k) = (groupOf? cs k).toList := by
  have hperm : ((orderedGroups cs).filter (·.key == k)).Perm ((groups cs).filter (·.key == k)) :=
    (perm_groups cs).filter _
  cases hk : groupOf? cs k with
  | none =>
    have hnone : (groups cs).filter (·.key == k) = [] := by
      apply List.filter_eq_nil_iff.2
      intro g hg heq
      rw [groups_eq] at hg
      obtain ⟨k', -, hk'⟩ := List.mem_filterMap.1 hg
      have hkey : k' = k := (groupOf?_eq_some hk').2.2.symm.trans (eq_of_beq heq)
      rw [hkey, hk] at hk'
      cases hk'
    rw [hnone] at hperm
    exact hperm.eq_nil
  | some g =>
    have hkey : g.key = k := (groupOf?_eq_some hk).2.2
    have hmem : g ∈ groups cs := by
      rw [groups_eq]
      refine List.mem_filterMap.2 ⟨k, ?_, hk⟩
      obtain ⟨hcandidates, hhead, -⟩ := groupOf?_eq_some hk
      obtain ⟨c, hc, -⟩ := Option.map_eq_some_iff.1 hhead
      have hc := List.mem_of_mem_head? hc
      rw [hcandidates] at hc
      obtain ⟨hc, heq⟩ := List.mem_filter.1 hc
      exact mem_ownerKeys.2 (eq_of_beq heq ▸ List.mem_map_of_mem hc)
    have hnodup : ((groups cs).map Group.key).Nodup := by
      rw [groups_map_key]
      exact ownerKeys_nodup cs
    rw [← hkey] at hperm ⊢
    rw [filter_key_singleton hnodup hmem] at hperm
    exact List.perm_singleton.1 hperm

/-! ## What becomes of one group -/

/-- What becomes of a group, if these owners have units: its own unit, or nothing where the owner is nested. -/
def Group.outcome (template : Except Template.Error (List Template.Piece)) (owners : List TypeSymbol) (g : Group) :
    Except Template.Error Outcome :=
  if g.owner.isTopLevel then g.emit template (needsQualification owners g.owner) else .ok g.skip

/-- A unit that is written: its text comes from the template and the group alone. -/
lemma emit_eq_ok {qualified : Bool} (h : g.emit template qualified = .ok o) :
    ∃ pieces text, template = .ok pieces ∧ g.unitText pieces = .ok text ∧
      o = .emitted ⟨hintName qualified g.owner, text, g.owner.home, g.owner.declarationName⟩ g.owner
        (g.members.map Member.methodName) (g.memberless.map (⟨·, noExpressionReason⟩)) := by
  cases htemplate : template with
  | error fault =>
    rw [htemplate] at h
    cases h
  | ok pieces =>
    rw [htemplate] at h
    cases htext : g.unitText pieces with
    | error fault =>
      simp only [Group.emit, bind, Except.bind, htext] at h
      cases h
    | ok text =>
      simp only [Group.emit, bind, Except.bind, htext, pure, Except.pure, Except.ok.injEq] at h
      exact ⟨pieces, text, rfl, htext, h.symm⟩

/-- The two ways in which a group comes to its outcome. -/
lemma outcome_eq_ok (h : g.outcome template owners = .ok o) :
    (g.owner.isTopLevel = true ∧ g.emit template (needsQualification owners g.owner) = .ok o) ∨
      (g.owner.isTopLevel = false ∧ o = g.skip) := by
  unfold Group.outcome at h
  split at h
  case isTrue htop => exact .inl ⟨htop, h⟩
  case isFalse hnested => exact .inr ⟨eq_false_of_ne_true hnested, (Except.ok.inj h).symm⟩

/-- An outcome has the owner of its group, and it is emitted if the owner is no nested type. -/
lemma owner_of_outcome (h : g.outcome template owners = .ok o) :
    o.owner = g.owner ∧ o.isEmitted = g.owner.isTopLevel := by
  rcases outcome_eq_ok h with ⟨htop, hemit⟩ | ⟨hnested, rfl⟩
  · obtain ⟨pieces, text, -, -, rfl⟩ := emit_eq_ok hemit
    exact ⟨rfl, htop.symm⟩
  · exact ⟨rfl, hnested.symm⟩

/-- An outcome has the key of its group. -/
lemma key_of_outcome (h : g.outcome template owners = .ok o) : o.key = g.key := by
  rw [Outcome.key, (owner_of_outcome h).1]
  rfl

/-- The other owners matter for the hint name alone. -/
lemma withoutHint_of_outcome (h : g.outcome template owners = .ok o) (h' : g.outcome template owners' = .ok o') :
    o.withoutHint = o'.withoutHint := by
  rcases outcome_eq_ok h with ⟨htop, hemit⟩ | ⟨hnested, rfl⟩
  · rcases outcome_eq_ok h' with ⟨-, hemit'⟩ | ⟨hnested, -⟩
    · obtain ⟨pieces, text, htemplate, htext, rfl⟩ := emit_eq_ok hemit
      obtain ⟨pieces', text', htemplate', htext', rfl⟩ := emit_eq_ok hemit'
      cases htemplate.symm.trans htemplate'
      cases htext.symm.trans htext'
      rfl
    · cases htop.symm.trans hnested
  · rcases outcome_eq_ok h' with ⟨htop, -⟩ | ⟨-, rfl⟩
    · cases htop.symm.trans hnested
    · rfl

/-- Where the owner is not nested, other owners with units matter only by their names. -/
lemma outcome_congr (h : g.owner.isTopLevel = true →
      needsQualification owners g.owner = needsQualification owners' g.owner) :
    g.outcome template owners = g.outcome template owners' := by
  unfold Group.outcome
  split
  case isTrue htop => rw [h htop]
  case isFalse => rfl

/-! ## The outcomes of some candidates -/

section Traversal
variable {ε α β : Type} {f f' : α → Except ε β} {l : List α} {r : List β}

/-- Steps that agree on the members of a list make the same run. -/
lemma mapM_congr (h : ∀ a ∈ l, f a = f' a) : l.mapM f = l.mapM f' := by
  induction l with
  | nil => rfl
  | cons a l ih =>
    obtain ⟨ha, hl⟩ := List.forall_mem_cons.1 h
    rw [List.mapM_cons, List.mapM_cons, ha, ih hl]

/-- A run succeeds if each step does, and it collects their results in order. -/
lemma mapM_eq_ok_iff : l.mapM f = .ok r ↔ List.Forall₂ (fun a b => f a = .ok b) l r := by
  induction l generalizing r with
  | nil =>
    rw [List.mapM_nil, List.forall₂_nil_left_iff]
    exact ⟨fun h => (Except.ok.inj h).symm, fun h => congrArg Except.ok h.symm⟩
  | cons a l ih =>
    rw [List.mapM_cons, List.forall₂_cons_left_iff]
    constructor
    · intro h
      cases hb : f a with
      | error fault =>
        rw [hb] at h
        cases h
      | ok b =>
        cases hbs : l.mapM f with
        | error fault =>
          rw [hb, hbs] at h
          cases h
        | ok bs =>
          rw [hb, hbs] at h
          exact ⟨b, bs, rfl, ih.1 hbs, (Except.ok.inj h).symm⟩
    · rintro ⟨b, bs, hb, hbs, rfl⟩
      rw [hb, ih.2 hbs]
      rfl

end Traversal

/-- The outcomes are those of the groups in order, one by one. -/
lemma outcomesUnder_eq_mapM (template : Except Template.Error (List Template.Piece)) (cs : List Candidate) :
    outcomesUnder template cs = (orderedGroups cs).mapM (Group.outcome template (unitOwners cs)) := by
  have hemitted : (emittableGroups cs).mapM (Group.outcome template (unitOwners cs)) =
      emitAll template (emittableGroups cs) := by
    apply mapM_congr
    intro g hg
    exact if_pos (List.mem_filter.1 hg).2
  have hskipped : (nestedGroups cs).mapM (Group.outcome template (unitOwners cs)) =
      .ok ((nestedGroups cs).map Group.skip) := by
    refine (mapM_congr ?_).trans List.mapM_pure
    intro g hg
    have hnested := (List.mem_filter.1 hg).2
    rw [Bool.not_eq_true'] at hnested
    exact if_neg (ne_true_of_eq_false hnested)
  rw [orderedGroups, List.mapM_append, hemitted, hskipped]
  rfl

/-- The outcomes of some candidates, group by group. -/
lemma outcomesUnder_eq_ok_iff :
    outcomesUnder template cs = .ok os ↔
      List.Forall₂ (fun g o => g.outcome template (unitOwners cs) = .ok o) (orderedGroups cs) os := by
  rw [outcomesUnder_eq_mapM, mapM_eq_ok_iff]

/-- An owner has one outcome, that of its group, or it has no candidates. -/
lemma outcomesOf_cases (h : outcomesUnder template cs = .ok os) (k : OwnerKey) :
    (groupOf? cs k = none ∧ outcomesOf k os = []) ∨
      ∃ g o, groupOf? cs k = some g ∧ outcomesOf k os = [o] ∧ g.outcome template (unitOwners cs) = .ok o := by
  have hall : List.Forall₂ (fun g o => g.outcome template (unitOwners cs) = .ok o)
      ((orderedGroups cs).filter (·.key == k)) (outcomesOf k os) := by
    refine List.rel_filter ?_ (outcomesUnder_eq_ok_iff.1 h)
    intro g o ho
    show (g.key == k) = true ↔ (o.key == k) = true
    rw [key_of_outcome ho]
  rw [filter_orderedGroups] at hall
  cases hg : groupOf? cs k with
  | none =>
    rw [hg, Option.toList_none, List.forall₂_nil_left_iff] at hall
    exact .inl ⟨rfl, hall⟩
  | some g =>
    rw [hg, Option.toList_some, List.forall₂_cons_left_iff] at hall
    obtain ⟨o, rest, ho, hrest, heq⟩ := hall
    rw [List.forall₂_nil_left_iff] at hrest
    rw [hrest] at heq
    exact .inr ⟨g, o, rfl, heq, ho⟩

/-- As many outcomes as owners with a unit have the name of a key. -/
lemma countP_sharesName (h : outcomesUnder template cs = .ok os) (k : OwnerKey) :
    os.countP (·.sharesName k) = (unitOwners cs).countP fun t => t.name == k.name && t.arity == k.arity := by
  have hgroups : os.countP (·.sharesName k) = (orderedGroups cs).countP fun g =>
      g.owner.isTopLevel && (g.owner.name == k.name && g.owner.arity == k.arity) := by
    rw [List.countP_eq_length_filter, List.countP_eq_length_filter]
    refine (List.Forall₂.length_eq (List.rel_filter ?_ (outcomesUnder_eq_ok_iff.1 h))).symm
    intro g o ho
    obtain ⟨howner, hemitted⟩ := owner_of_outcome ho
    show _ ↔ (o.isEmitted && o.owner.name == k.name && o.owner.arity == k.arity) = true
    rw [howner, hemitted, Bool.and_assoc]
  have hnested : (nestedGroups cs).countP (fun g =>
      g.owner.isTopLevel && (g.owner.name == k.name && g.owner.arity == k.arity)) = 0 := by
    apply List.countP_eq_zero.2
    intro g hg hcounted
    have hlevel := (List.mem_filter.1 hg).2
    rw [(Bool.and_eq_true_iff.1 hcounted).1] at hlevel
    cases hlevel
  rw [hgroups, orderedGroups, List.countP_append, hnested, Nat.add_zero, unitOwners, List.countP_map]
  apply List.countP_congr
  intro g hg
  have htop : g.owner.isTopLevel = true := (List.mem_filter.1 hg).2
  rw [htop, Bool.true_and]
  rfl

/-- An outcome shares its name with another one exactly if its name has to be qualified. -/
lemma nameShared_iff (h : outcomesUnder template cs = .ok os) (hg : groupOf? cs k = some g)
    (htop : g.owner.isTopLevel = true) :
    NameShared k os ↔ needsQualification (unitOwners cs) g.owner = true := by
  have hkey : k = g.owner.key := by
    rw [← (groupOf?_eq_some hg).2.2, Group.key, TypeSymbol.groupKey, if_pos htop]
  rw [NameShared, countP_sharesName h, needsQualification, decide_eq_true_eq, hkey]
  rfl

/-! ## Two lists of candidates -/

/-- The standard template never fails, whatever the candidates are. -/
lemma outcomesUnder_standardTemplate (cs : List Candidate) :
    outcomesUnder (.ok standardTemplate) cs = .ok (passOutcomes cs) := by
  rw [outcomesUnder, emitAll_standardTemplate]
  rfl

/-- The same candidates of an owner have the same outcome but for the hint name, and that too if the name is shared
in both lists or in neither. -/
lemma outcomesOf_congr (h : outcomesUnder template cs = .ok os) (h' : outcomesUnder template cs' = .ok os')
    (hk : ownedBy k cs = ownedBy k cs') :
    (groupOf? cs k = none ∧ outcomesOf k os = [] ∧ outcomesOf k os' = []) ∨
      ∃ o o', outcomesOf k os = [o] ∧ outcomesOf k os' = [o'] ∧ o.withoutHint = o'.withoutHint ∧
        ((NameShared k os ↔ NameShared k os') → o = o') := by
  have hgroup := groupOf?_congr hk
  rcases outcomesOf_cases h k with ⟨hnone, hos⟩ | ⟨g, o, hsome, hos, ho⟩
  · rcases outcomesOf_cases h' k with ⟨-, hos'⟩ | ⟨g', o', hsome', -, -⟩
    · exact .inl ⟨hnone, hos, hos'⟩
    · rw [← hgroup, hnone] at hsome'
      cases hsome'
  · rcases outcomesOf_cases h' k with ⟨hnone', -⟩ | ⟨g', o', hsome', hos', ho'⟩
    · rw [← hgroup, hsome] at hnone'
      cases hnone'
    · obtain rfl : g = g' := by
        rw [← hgroup, hsome] at hsome'
        exact Option.some.inj hsome'
      refine .inr ⟨o, o', hos, hos', withoutHint_of_outcome ho ho', ?_⟩
      intro hshared
      have hneeds : g.owner.isTopLevel = true →
          needsQualification (unitOwners cs) g.owner = needsQualification (unitOwners cs') g.owner := by
        intro htop
        rw [Bool.eq_iff_iff, ← nameShared_iff h hsome htop, ← nameShared_iff h' hsome' htop]
        exact hshared
      rw [outcome_congr hneeds, ho'] at ho
      exact (Except.ok.inj ho).symm

/-- Lists that differ in the candidates of one owner have the same candidates of every other one. -/
lemma ownedBy_congr {j : OwnerKey} (hjk : j ≠ k) (h : notOwnedBy j cs = notOwnedBy j cs') :
    ownedBy k cs = ownedBy k cs' := by
  have hown : ∀ l : List Candidate, ownedBy k l = ownedBy k (notOwnedBy j l) := by
    intro l
    rw [ownedBy, ownedBy, notOwnedBy, List.filter_filter]
    apply List.filter_congr
    intro c _
    by_cases hc : c.key = k
    · simp [hc, hjk.symm]
    · simp [hc]
  rw [hown cs, hown cs', h]

/-- Where every owner has the same candidates, the groups differ in their order alone. -/
lemma groups_perm (h : ∀ k, ownedBy k cs = ownedBy k cs') : (groups cs).Perm (groups cs') := by
  have hgroup : groupOf? cs = groupOf? cs' := funext fun k => groupOf?_congr (h k)
  have hkeys : (ownerKeys cs).Perm (ownerKeys cs') := by
    apply (List.perm_ext_iff_of_nodup (ownerKeys_nodup cs) (ownerKeys_nodup cs')).2
    intro k
    have hmem : ∀ l : List Candidate, k ∈ ownerKeys l ↔ ownedBy k l ≠ [] := by
      intro l
      rw [mem_ownerKeys, ownedBy, Ne, List.filter_eq_nil_iff]
      simp
    rw [hmem, hmem, h k]
  rw [groups_eq, groups_eq, hgroup]
  exact hkeys.filterMap _

/-- Then the outcomes differ in their order alone as well. -/
lemma outcomes_perm (h : outcomesUnder template cs = .ok os) (hall : ∀ k, ownedBy k cs = ownedBy k cs') :
    ∃ os', outcomesUnder template cs' = .ok os' ∧ os'.Perm os := by
  have hgroups := groups_perm hall
  have hemittable : (emittableGroups cs').Perm (emittableGroups cs) := hgroups.symm.filter _
  have hordered : (orderedGroups cs').Perm (orderedGroups cs) := hemittable.append (hgroups.symm.filter _)
  have howners : (unitOwners cs').Perm (unitOwners cs) := hemittable.map Group.owner
  have houtcome : Group.outcome template (unitOwners cs') = Group.outcome template (unitOwners cs) := by
    funext g
    apply outcome_congr
    intro _
    rw [needsQualification, needsQualification, howners.countP_eq]
  obtain ⟨os', hos', hperm⟩ := List.perm_comp_forall₂ hordered (outcomesUnder_eq_ok_iff.1 h)
  refine ⟨os', outcomesUnder_eq_ok_iff.2 ?_, hperm⟩
  rwa [houtcome]

/-- What a pass makes of an owner rests on the candidates of that owner alone.  With the standard template every list
of candidates has its outcomes.  With any template: two lists that have the same candidates of an owner, at least
one, have one outcome each for it, and these are equal but for the hint name; with the hint name too if in both or
in neither the name is shared.  Lists that differ in the order of candidates of different owners have the same
outcomes in another order.  Lists that differ in the candidates of one owner have the same texts for all others. -/
theorem outcomes_of_owner (template : Except Template.Error (List Template.Piece)) :
    (∀ cs, ∃ os, outcomesUnder (.ok standardTemplate) cs = .ok os) ∧
    (∀ {cs cs' os os' k}, outcomesUnder template cs = .ok os → outcomesUnder template cs' = .ok os' →
      ownedBy k cs = ownedBy k cs' → ownedBy k cs ≠ [] →
        ∃ o o', outcomesOf k os = [o] ∧ outcomesOf k os' = [o'] ∧ o.withoutHint = o'.withoutHint ∧
          ((NameShared k os ↔ NameShared k os') → o = o')) ∧
    (∀ {cs cs' os}, outcomesUnder template cs = .ok os → (∀ k, ownedBy k cs = ownedBy k cs') →
      ∃ os', outcomesUnder template cs' = .ok os' ∧ os'.Perm os) ∧
    (∀ {cs cs' os os' j}, outcomesUnder template cs = .ok os → outcomesUnder template cs' = .ok os' →
      notOwnedBy j cs = notOwnedBy j cs' →
        ∀ k, k ≠ j → (outcomesOf k os).map Outcome.text? = (outcomesOf k os').map Outcome.text?) := by
  refine ⟨?_, ?_, ?_, ?_⟩
  · exact fun cs => ⟨_, outcomesUnder_standardTemplate cs⟩
  · intro cs cs' os os' k h h' hk hne
    rcases outcomesOf_congr h h' hk with ⟨hnone, -, -⟩ | hsame
    · exact absurd (ownedBy_eq_nil hnone) hne
    · exact hsame
  · exact fun h hall => outcomes_perm h hall
  · intro cs cs' os os' j h h' hj k hkj
    rcases outcomesOf_congr h h' (ownedBy_congr hkj.symm hj) with ⟨-, hos, hos'⟩ | ⟨o, o', hos, hos', hsame, -⟩
    · rw [hos, hos']
    · rw [hos, hos', List.map_singleton, List.map_singleton, ← o.text?_withoutHint, hsame, o'.text?_withoutHint]

/-- A candidate `P` of the class `C` in a namespace. -/
def candidateIn (home : String) : Candidate where
  symbol := ⟨"P", false, .mk "int" .struct [], .inNamespace ⟨"C", "class", []⟩ home home, [standardMarker], true⟩
  declaration := { name := "P", accessors := [⟨"get", .expression, some home⟩] }
  owner := .inNamespace ⟨"C", "class", []⟩ home home

/-- A class of the same name in another namespace changes the hint name and nothing else, and it makes no difference
which of them comes first. -/
theorem outcomes_of_owner_beside_namesake :
    (ownedBy ⟨"M", "C", 0⟩ [candidateIn "M", candidateIn "N"] = ownedBy ⟨"M", "C", 0⟩ [candidateIn "M"] ∧
      ∃ o o', outcomesOf ⟨"M", "C", 0⟩ (passOutcomes [candidateIn "M", candidateIn "N"]) = [o] ∧
        outcomesOf ⟨"M", "C", 0⟩ (passOutcomes [candidateIn "M"]) = [o'] ∧ o.withoutHint = o'.withoutHint ∧
        ((NameShared ⟨"M", "C", 0⟩ (passOutcomes [candidateIn "M", candidateIn "N"]) ↔
          NameShared ⟨"M", "C", 0⟩ (passOutcomes [candidateIn "M"])) → o = o')) ∧
    ((∀ k, ownedBy k [candidateIn "M", candidateIn "N"] = ownedBy k [candidateIn "N", candidateIn "M"]) ∧
      ∃ os', outcomesUnder (.ok standardTemplate) [candidateIn "N", candidateIn "M"] = .ok os' ∧
        os'.Perm (passOutcomes [candidateIn "M", candidateIn "N"])) ∧
    (notOwnedBy ⟨"N", "C", 0⟩ [candidateIn "M", candidateIn "N"] = notOwnedBy ⟨"N", "C", 0⟩ [candidateIn "M"] ∧
      ∀ k, k ≠ ⟨"N", "C", 0⟩ →
        (outcomesOf k (passOutcomes [candidateIn "M", candidateIn "N"])).map Outcome.text? =
          (outcomesOf k (passOutcomes [candidateIn "M"])).map Outcome.text?) := by
  obtain ⟨-, hsame, hreordered, htexts⟩ := outcomes_of_owner (.ok standardTemplate)
  have htwo := outcomesUnder_standardTemplate [candidateIn "M", candidateIn "N"]
  have hone := outcomesUnder_standardTemplate [candidateIn "M"]
  have howned : ownedBy ⟨"M", "C", 0⟩ [candidateIn "M", candidateIn "N"] = ownedBy ⟨"M", "C", 0⟩ [candidateIn "M"] := by
    rfl
  have hothers : notOwnedBy ⟨"N", "C", 0⟩ [candidateIn "M", candidateIn "N"] =
      notOwnedBy ⟨"N", "C", 0⟩ [candidateIn "M"] := by
    rfl
  have hall : ∀ k, ownedBy k [candidateIn "M", candidateIn "N"] = ownedBy k [candidateIn "N", candidateIn "M"] := by
    intro k
    by_cases hM : (candidateIn "M").key = k
    · subst hM
      rfl
    · by_cases hN : (candidateIn "N").key = k
      · subst hN
        rfl
      · simp [ownedBy, hM, hN]
  refine ⟨⟨howned, hsame htwo hone howned ?_⟩, ⟨hall, hreordered htwo hall⟩, ⟨hothers, htexts htwo hone hothers⟩⟩
  exact List.cons_ne_nil _ _

end PropertyQuote
