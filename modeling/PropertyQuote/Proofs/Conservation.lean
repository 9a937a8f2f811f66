import Mathlib.Data.List.Forall2
import PropertyQuote.Proofs.Grouping
import PropertyQuote.Proofs.UnitText

/-!
# Conservation of candidates

A pass neither loses nor doubles a candidate.  `IsMarked` says on its own which declarations are candidates,
and `Conserves` says what the outcomes of a pass have to do with its candidates: there is one outcome per
key, written ones come first, each part is in the order in which the keys are seen, and an outcome accounts
for all candidates of its key.

* `discover_forall₂`: the candidates of a program.
* `generate_conserves`: every pass with the standard template has a result that conserves the candidates.
-/

namespace PropertyQuote

/-! ## Discovery -/

/-- A declaration that is a candidate: it has an attribute, it is resolved, it carries the marker, and it
has a getter both as the program knows it and as it is written. -/
def Occurrence.IsMarked (marker : String) (o : Occurrence) : Prop :=
  o.declaration.attributeNames ≠ [] ∧
    ∃ r ∈ o.resolution, marker ∈ r.attributes ∧ r.symbol.hasGetter = true ∧
      ∃ a ∈ o.declaration.accessors, a.keyword = "get"

instance (marker : String) : DecidablePred (Occurrence.IsMarked marker) := fun o =>
  match h : o.resolution with
  | none => isFalse (by simp [Occurrence.IsMarked, h])
  | some r =>
    decidable_of_iff
      (o.declaration.attributeNames ≠ [] ∧ marker ∈ r.attributes ∧ r.symbol.hasGetter = true ∧
        ∃ a ∈ o.declaration.accessors, a.keyword = "get")
      (by simp [Occurrence.IsMarked, h])

/-- A candidate holds what the program answers about a declaration. -/
def Occurrence.Gives (o : Occurrence) (c : Candidate) : Prop :=
  c.declaration = o.declaration ∧ ∃ attributes, o.resolution = some ⟨c.symbol, attributes, c.owner⟩

/-- A getter is written exactly if one of the accessors is one. -/
lemma getter?_isSome_iff {d : PropertyDeclaration} :
    d.getter?.isSome = true ↔ ∃ a ∈ d.accessors, a.keyword = "get" := by
  simp [PropertyDeclaration.getter?, List.find?_isSome]

/-- A declaration gives a candidate exactly if it is marked, and the candidate holds what the program
answers about it. -/
lemma candidate?_eq_some_iff {marker o c} :
    Occurrence.candidate? marker o = some c ↔ o.IsMarked marker ∧ o.Gives c := by
  constructor
  · intro h
    unfold Occurrence.candidate? Occurrence.verdict at h
    -- the checks in the order in which they are made
    by_cases ha : o.declaration.attributeNames = []
    · simp [ha] at h
    · cases hr : o.resolution with
      | none => simp [ha, hr] at h
      | some r =>
        by_cases hm : marker ∈ r.attributes
        · by_cases hg : r.symbol.hasGetter = true ∧ o.declaration.getter?.isSome = true
          · simp only [ha, hr, hm, hg, List.isEmpty_iff, List.contains_eq_mem, decide_true,
              Bool.not_true, Bool.and_self, Bool.false_eq_true, if_true, if_false,
              Option.some.injEq] at h
            subst h
            exact ⟨⟨ha, r, hr, hm, hg.1, getter?_isSome_iff.1 hg.2⟩, rfl, r.attributes, hr⟩
          · simp [ha, hr, hm, hg] at h
        · simp [ha, hr, hm] at h
  · rintro ⟨⟨ha, r, hr, hm, hs, hw⟩, hd, attributes, hr'⟩
    obtain ⟨symbol, declaration, owner⟩ := c
    obtain rfl : r = ⟨symbol, attributes, owner⟩ := Option.some.inj (hr.symm.trans hr')
    dsimp only at hd hm hs
    simp [Occurrence.candidate?, Occurrence.verdict, ha, hr', hm, hs, hd, getter?_isSome_iff.2 hw]

/-- The candidates of a program are its marked declarations in their order. -/
lemma discover_forall₂ (marker : String) (program : List Occurrence) :
    List.Forall₂ Occurrence.Gives (program.filter (Occurrence.IsMarked marker))
      (discover marker program) := by
  induction program with
  | nil => exact .nil
  | cons o program ih =>
    unfold discover at ih ⊢
    cases hc : o.candidate? marker with
    | none =>
      -- a marked declaration would give a candidate
      have hnot : ¬ o.IsMarked marker := by
        rintro ⟨ha, r, hr, hm⟩
        have hsome := candidate?_eq_some_iff.2
          ⟨⟨ha, r, hr, hm⟩, show o.Gives ⟨r.symbol, o.declaration, r.owner⟩ from ⟨rfl, r.attributes, hr⟩⟩
        rw [hc] at hsome
        cases hsome
      rw [List.filter_cons_of_neg (by simpa using hnot), List.filterMap_cons_none hc]
      exact ih
    | some c =>
      obtain ⟨hm, hgives⟩ := candidate?_eq_some_iff.1 hc
      rw [List.filter_cons_of_pos (by simpa using hm), List.filterMap_cons_some hc]
      exact .cons hgives ih

/-! ## Outcomes -/

namespace Outcome

/-- The owner that an outcome is about. -/
def owner : Outcome → TypeSymbol
  | .emitted _ owner _ _ => owner
  | .skipped owner _ _ => owner

/-- The key under which the candidates of an outcome are collected. -/
def key (o : Outcome) : OwnerKey :=
  o.owner.groupKey

/-- Whether a unit is written. -/
def isEmitted : Outcome → Bool
  | .emitted .. => true
  | .skipped .. => false

/-- The number of candidates that an outcome names. -/
def size : Outcome → Nat
  | .emitted _ _ members omitted => members.length + omitted.length
  | .skipped _ _ candidates => candidates.length

/-- Written outcomes come before skipped ones; otherwise the one whose key is seen first among the
candidates comes first. -/
def Before (cs : List Candidate) (a b : Outcome) : Prop :=
  (a.isEmitted = true ∧ b.isEmitted = false) ∨
    (a.isEmitted = b.isEmitted ∧
      (cs.map Candidate.key).idxOf a.key < (cs.map Candidate.key).idxOf b.key)

/-- An outcome accounts for the candidates `cs` of its key.  A written one has a member for each candidate
that is defined as an expression, and omits the others; a skipped one holds them all. -/
def Accounts (cs : List Candidate) : Outcome → Prop
  | .emitted _ owner members omitted =>
    owner.isTopLevel = true ∧ cs.head?.map Candidate.owner = some owner ∧
      members = (cs.filter (·.declaration.expression?.isSome)).map (fun c => c.name ++ "Bonsai") ∧
      omitted = (cs.filter (·.declaration.expression?.isNone)).map (⟨·, noExpressionReason⟩)
  | .skipped owner reason candidates =>
    owner.isTopLevel = false ∧ cs.head?.map Candidate.owner = some owner ∧
      reason = nestedReason ∧ candidates = cs

end Outcome

/-- The result of a pass over a program conserves its candidates. -/
structure Conserves (marker : String) (program : List Occurrence) (r : GenerationResult) : Prop where
  /-- The candidates are the marked declarations in their order. -/
  discovered :
    List.Forall₂ Occurrence.Gives (program.filter (Occurrence.IsMarked marker)) r.candidates
  /-- Every key of a candidate has an outcome, and no other key has one. -/
  keys : ∀ k, k ∈ r.outcomes.map Outcome.key ↔ k ∈ r.candidates.map Candidate.key
  /-- No key has two outcomes. -/
  distinct : (r.outcomes.map Outcome.key).Nodup
  /-- Written outcomes come first, and both parts are in the order in which the keys are seen. -/
  ordered : r.outcomes.Pairwise (Outcome.Before r.candidates)
  /-- An outcome accounts for all candidates of its key, in their order. -/
  accounts : ∀ o ∈ r.outcomes, o.Accounts (r.candidates.filter (·.key == o.key))
  /-- All outcomes together name as many candidates as there are. -/
  total : (r.outcomes.map Outcome.size).sum = r.candidates.length

namespace Group

/-- The names of the members, in the order of the candidates. -/
lemma map_methodName_members (g : Group) :
    g.members.map Member.methodName =
      (g.candidates.filter (·.declaration.expression?.isSome)).map (fun c => c.name ++ "Bonsai") := by
  unfold members
  induction g.candidates with
  | nil => rfl
  | cons c cs ih =>
    cases he : c.declaration.expression? with
    | none =>
      rw [List.filterMap_cons_none (by simp [Candidate.member?, he]),
        List.filter_cons_of_neg (by simp [he])]
      exact ih
    | some e =>
      rw [List.filterMap_cons_some (by rw [Candidate.member?, he]; rfl),
        List.filter_cons_of_pos (by simp [he]), List.map_cons, List.map_cons, ih]
      rfl

/-- The candidates without a member are those that are not defined as an expression. -/
lemma memberless_eq (g : Group) :
    g.memberless = g.candidates.filter (·.declaration.expression?.isNone) := by
  simp [memberless, Candidate.member?]

/-- Every candidate has a member or has none. -/
lemma length_members_add (g : Group) :
    g.members.length + g.memberless.length = g.candidates.length := by
  have hmembers := congrArg List.length g.map_methodName_members
  rw [List.length_map, List.length_map] at hmembers
  rw [hmembers, memberless_eq]
  have hsplit := List.length_eq_length_filter_add
    (l := g.candidates) (fun c => c.declaration.expression?.isSome)
  simp only [Option.not_isSome] at hsplit
  exact hsplit.symm

/-- The outcome of a written group accounts for its candidates. -/
lemma accounts_standardOutcome {cs g} (qualified : Bool) (hg : g ∈ emittableGroups cs) :
    (g.standardOutcome qualified).Accounts (cs.filter (·.key == g.key)) := by
  obtain ⟨hgroups, htop⟩ := List.mem_filter.1 hg
  obtain ⟨hcs, howner⟩ := candidates_of_mem_groups hgroups
  rw [← hcs]
  refine ⟨htop, howner, g.map_methodName_members, ?_⟩
  rw [memberless_eq]

/-- The outcome of a skipped group accounts for its candidates. -/
lemma accounts_skip {cs g} (hg : g ∈ nestedGroups cs) :
    g.skip.Accounts (cs.filter (·.key == g.key)) := by
  obtain ⟨hgroups, hnested⟩ := List.mem_filter.1 hg
  obtain ⟨hcs, howner⟩ := candidates_of_mem_groups hgroups
  rw [← hcs]
  exact ⟨by simpa using hnested, howner, rfl, rfl⟩

end Group

/-! ## The outcomes of a pass -/

/-- The groups in the order of their outcomes are all groups. -/
lemma perm_groups (cs : List Candidate) : (emittableGroups cs ++ nestedGroups cs).Perm (groups cs) :=
  List.filter_append_perm _ _

/-- The keys of the outcomes are the keys of the groups in the order of the outcomes. -/
lemma map_key_passOutcomes (cs : List Candidate) :
    (passOutcomes cs).map Outcome.key = (emittableGroups cs ++ nestedGroups cs).map Group.key := by
  simp only [passOutcomes, standardOutcomes, List.map_append, List.map_map]
  rfl

/-- Every key of a candidate has exactly one outcome. -/
lemma perm_keys (cs : List Candidate) : ((passOutcomes cs).map Outcome.key).Perm (ownerKeys cs) := by
  rw [map_key_passOutcomes, ← groups_map_key]
  exact (perm_groups cs).map _

/-- Some of the groups, in their order, are in the order in which their keys are seen. -/
lemma pairwise_of_sublist {cs gs} (h : List.Sublist gs (groups cs)) :
    gs.Pairwise fun a b =>
      (cs.map Candidate.key).idxOf a.key < (cs.map Candidate.key).idxOf b.key := by
  have hkeys := ownerKeys_pairwise cs
  rw [← groups_map_key, List.pairwise_map] at hkeys
  exact hkeys.sublist h

/-- The outcomes of a pass are in order. -/
lemma passOutcomes_ordered (cs : List Candidate) :
    (passOutcomes cs).Pairwise (Outcome.Before cs) := by
  rw [passOutcomes, standardOutcomes, List.pairwise_append, List.pairwise_map, List.pairwise_map]
  refine ⟨?_, ?_, ?_⟩
  · exact (pairwise_of_sublist List.filter_sublist).imp fun h => Or.inr ⟨rfl, h⟩
  · exact (pairwise_of_sublist List.filter_sublist).imp fun h => Or.inr ⟨rfl, h⟩
  · intro a ha b hb
    obtain ⟨g, _, rfl⟩ := List.mem_map.1 ha
    obtain ⟨g', _, rfl⟩ := List.mem_map.1 hb
    exact Or.inl ⟨rfl, rfl⟩

/-- An outcome of a pass accounts for the candidates of its key. -/
lemma passOutcomes_accounts {cs o} (ho : o ∈ passOutcomes cs) :
    o.Accounts (cs.filter (·.key == o.key)) := by
  rcases List.mem_append.1 ho with ho | ho
  · obtain ⟨g, hg, rfl⟩ := List.mem_map.1 ho
    exact Group.accounts_standardOutcome _ hg
  · obtain ⟨g, hg, rfl⟩ := List.mem_map.1 ho
    exact Group.accounts_skip hg

/-- The outcomes of a pass name every candidate once. -/
lemma sum_size_passOutcomes (cs : List Candidate) :
    ((passOutcomes cs).map Outcome.size).sum = cs.length := by
  have hsize : (passOutcomes cs).map Outcome.size =
      (emittableGroups cs ++ nestedGroups cs).map fun g => g.candidates.length := by
    simp only [passOutcomes, standardOutcomes, List.map_append, List.map_map]
    congr 1
    -- a written outcome divides its group into members and omissions
    apply List.map_congr_left
    intro g _
    rw [← g.length_members_add]
    simp [Group.standardOutcome, Outcome.size]
  rw [hsize, ((perm_groups cs).map _).sum_eq, sum_length_groups]

/-- Every pass with the standard template has a result, and it conserves the candidates: none is lost and
none is doubled. -/
theorem generate_conserves (marker : String) (emitBootstrap : Bool) (program : List Occurrence) :
    ∃ r, generate { marker, emitBootstrap } program = .ok r ∧ Conserves marker program r := by
  refine ⟨_, generate_standardTemplate marker emitBootstrap program, ?_⟩
  let cs := discover marker program
  exact {
    discovered := discover_forall₂ marker program
    keys := fun k => (perm_keys cs).mem_iff.trans mem_ownerKeys
    distinct := (perm_keys cs).nodup_iff.2 (ownerKeys_nodup cs)
    ordered := passOutcomes_ordered cs
    accounts := fun _ ho => passOutcomes_accounts ho
    total := sum_size_passOutcomes cs }

end PropertyQuote
