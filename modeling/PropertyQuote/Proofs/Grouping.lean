import Mathlib.Algebra.BigOperators.Group.List.Lemmas
import Mathlib.Algebra.Ring.Nat
import PropertyQuote.Grouping

/-!
# Grouping

What the groups of some candidates are: there is one group per key, the groups stand in the order in
which their keys are seen first, and a group holds all candidates of its key in their order.  The candidates are
entered one after the other, and what the three tables of a ledger say of those entered so far is kept by every entry.

* `Ledger.Holds`: what is known of a ledger after some candidates; `Ledger.Holds.enter` is one entry.
* `groups_eq`: the groups, key by key.
* `ownerKeys_nodup`, `mem_ownerKeys`, `ownerKeys_pairwise`: the keys of the groups.
* `groups_map_key`: one group per key, in the order of the keys.
* `candidates_of_mem_groups`: the candidates of a group.
* `sum_length_groups`: no candidate is lost, and none stands in two groups.
-/

namespace PropertyQuote

/-! ## Distinct elements in the order of their first appearance -/

section EraseDups
variable {α : Type} [DecidableEq α]

/-- An element that differs from `x` is found at the same place, among those that differ from `x`, as any
other such element comes before or after it. -/
lemma idxOf_filter_lt {x a b : α} {xs : List α} (ha : a ≠ x) (hb : b ≠ x)
    (h : (xs.filter fun c => !c == x).idxOf a < (xs.filter fun c => !c == x).idxOf b) :
    xs.idxOf a < xs.idxOf b := by
  induction xs with
  | nil => exact absurd h (Nat.lt_irrefl _)
  | cons y ys ih =>
    by_cases hy : y = x
    · subst hy
      rw [List.filter_cons_of_neg (by simp)] at h
      rw [List.idxOf_cons_ne _ (Ne.symm ha), List.idxOf_cons_ne _ (Ne.symm hb)]
      exact Nat.succ_lt_succ (ih h)
    · rw [List.filter_cons_of_pos (by simp [hy])] at h
      by_cases hya : y = a
      · subst hya
        have hab : y ≠ b := by
          rintro rfl
          exact absurd h (Nat.lt_irrefl _)
        rw [List.idxOf_cons_self, List.idxOf_cons_ne _ hab]
        exact Nat.succ_pos _
      · by_cases hyb : y = b
        · subst hyb
          rw [List.idxOf_cons_self] at h
          exact absurd h (Nat.not_lt_zero _)
        · rw [List.idxOf_cons_ne _ hya, List.idxOf_cons_ne _ hyb] at h ⊢
          exact Nat.succ_lt_succ (ih (Nat.lt_of_succ_lt_succ h))

/-- Without repetitions, elements stand in the order in which they appear first. -/
lemma pairwise_eraseDups (xs : List α) :
    xs.eraseDups.Pairwise fun a b => xs.idxOf a < xs.idxOf b := by
  cases xs with
  | nil => exact List.Pairwise.nil
  | cons x xs =>
    rw [List.eraseDups_cons, List.pairwise_cons]
    -- what stands after the first element differs from it
    have hne : ∀ a ∈ (xs.filter fun b => !b == x).eraseDups, a ≠ x := by
      intro a ha
      simpa using (List.mem_filter.1 (List.mem_eraseDups.1 ha)).2
    refine ⟨?_, ?_⟩
    · intro a ha
      rw [List.idxOf_cons_self, List.idxOf_cons_ne _ (Ne.symm (hne a ha))]
      exact Nat.succ_pos _
    · refine (pairwise_eraseDups _).imp_of_mem ?_
      intro a b ha hb hab
      rw [List.idxOf_cons_ne _ (Ne.symm (hne a ha)), List.idxOf_cons_ne _ (Ne.symm (hne b hb))]
      exact Nat.succ_lt_succ (idxOf_filter_lt (hne a ha) (hne b hb) hab)
termination_by xs.length
decreasing_by
  have hle := List.length_filter_le (fun b => !b == x) xs
  simp only [List.length_cons]
  omega

end EraseDups

/-! ## Keys -/

/-- The distinct keys of some candidates, in the order of their first appearance. -/
def ownerKeys (cs : List Candidate) : List OwnerKey :=
  (cs.map Candidate.key).eraseDups

/-- The keys of some candidates are the keys of their groups. -/
@[simp] lemma mem_ownerKeys {k cs} : k ∈ ownerKeys cs ↔ k ∈ cs.map Candidate.key :=
  List.mem_eraseDups

/-- The keys of the groups stand in the order in which the candidates show them first. -/
lemma ownerKeys_pairwise (cs : List Candidate) :
    (ownerKeys cs).Pairwise fun a b =>
      (cs.map Candidate.key).idxOf a < (cs.map Candidate.key).idxOf b :=
  pairwise_eraseDups _

/-- No key has two groups. -/
lemma ownerKeys_nodup (cs : List Candidate) : (ownerKeys cs).Nodup := by
  refine (ownerKeys_pairwise cs).imp ?_
  rintro a b h rfl
  exact Nat.lt_irrefl _ h

/-! ## Groups -/

/-- All candidates of one key, under the owner of the first of them. -/
def groupOf? (cs : List Candidate) (key : OwnerKey) : Option Group :=
  match cs.filter (·.key == key) with
  | [] => none
  | c :: rest => some ⟨c.owner, c :: rest⟩

/-- The key under which a group is collected. -/
def Group.key (g : Group) : OwnerKey :=
  g.owner.groupKey

/-- The group of a key holds all candidates of that key, and its owner is that of the first of them. -/
lemma groupOf?_eq_some {cs k g} (h : groupOf? cs k = some g) :
    g.candidates = cs.filter (·.key == k) ∧ g.candidates.head?.map Candidate.owner = some g.owner ∧
      g.key = k := by
  unfold groupOf? at h
  split at h
  case h_1 => cases h
  case h_2 c rest hf =>
    cases h
    refine ⟨hf.symm, rfl, ?_⟩
    have hc : c ∈ cs.filter (·.key == k) := hf ▸ List.mem_cons_self
    exact eq_of_beq (List.mem_filter.1 hc).2

/-- A key that some candidate has gives a group. -/
lemma groupOf?_isSome {cs k} (h : k ∈ ownerKeys cs) : (groupOf? cs k).isSome := by
  obtain ⟨c, hc, rfl⟩ := List.mem_map.1 (mem_ownerKeys.1 h)
  have hmem : c ∈ cs.filter (·.key == c.key) := List.mem_filter.2 ⟨hc, by simp⟩
  unfold groupOf?
  split
  case h_1 hf => rw [hf] at hmem; cases hmem
  case h_2 => rfl

/-! ## Entering candidates -/

namespace Ledger

variable {l : Ledger} {cs : List Candidate} {c : Candidate} {k : OwnerKey}

/-- A ledger holds some candidates: its keys are theirs in the order of their first appearance, and by key it knows the
owner of the first candidate and all candidates in their order. -/
structure Holds (l : Ledger) (cs : List Candidate) : Prop where
  order : l.order = ownerKeys cs
  owners : ∀ k, l.owners.lookup k = (cs.find? (·.key == k)).map Candidate.owner
  members : ∀ k, l.members.lookup k = if k ∈ cs.map Candidate.key then some (cs.filter (·.key == k)) else none

/-- Before the first candidate there is nothing. -/
lemma holds_empty : Holds {} [] where
  order := rfl
  owners _ := rfl
  members _ := rfl

/-- A key has an owner exactly if it was seen. -/
lemma Holds.owners_isSome_iff (h : Holds l cs) : (l.owners.lookup k).isSome = true ↔ k ∈ cs.map Candidate.key := by
  rw [h.owners, Option.isSome_map, List.find?_isSome, List.mem_map]
  simp only [beq_iff_eq]

/-- The keys after one more candidate: a key that was seen keeps its place, and another one comes last. -/
lemma ownerKeys_concat (cs : List Candidate) (c : Candidate) :
    ownerKeys (cs ++ [c]) = if c.key ∈ cs.map Candidate.key then ownerKeys cs else ownerKeys cs ++ [c.key] := by
  have hlast : [c.key].removeAll (cs.map Candidate.key) = if c.key ∈ cs.map Candidate.key then [] else [c.key] := by
    rw [List.removeAll, List.filter_singleton]
    split
    case isTrue hseen => simp [hseen]
    case isFalse hnew => simp [hnew]
  rw [ownerKeys, ownerKeys, List.map_append, List.eraseDups_append, List.map_singleton, hlast]
  split
  case isTrue => exact List.append_nil _
  case isFalse => rfl

/-- The keys after one more candidate was entered. -/
lemma order_enter (l : Ledger) (c : Candidate) :
    (l.enter c).order = if (l.owners.lookup c.key).isSome then l.order else l.order ++ [c.key] := by
  rw [enter, opened]
  split <;> rfl

/-- A table after one more entry. -/
lemma lookup_cons_eq {α : Type} (j k : OwnerKey) (a : α) (table : List (OwnerKey × α)) :
    ((j, a) :: table).lookup k = if k = j then some a else table.lookup k := by
  rw [List.lookup_cons]
  by_cases hk : k = j
  · rw [if_pos hk, beq_iff_eq.2 hk]
  · rw [if_neg hk, beq_false_of_ne hk]

/-- The owner of a key after one more candidate was entered: the first one stays. -/
lemma owners_enter (l : Ledger) (c : Candidate) (k : OwnerKey) :
    (l.enter c).owners.lookup k = (l.owners.lookup k).or (if k = c.key then some c.owner else none) := by
  cases howner : l.owners.lookup c.key with
  | some owner =>
    have hopened : l.opened c = l := if_pos (by rw [howner]; rfl)
    rw [enter, hopened]
    by_cases hk : k = c.key
    · simp [hk, howner]
    · simp [hk]
  | none =>
    have hopened : (l.opened c).owners = (c.key, c.owner) :: l.owners := by rw [opened, howner]; rfl
    rw [enter, hopened, lookup_cons_eq]
    by_cases hk : k = c.key
    · simp [hk, howner]
    · simp [hk]

/-- Opening an entry concerns the key of the candidate alone. -/
lemma members_opened_of_ne (l : Ledger) {c : Candidate} {k : OwnerKey} (hk : k ≠ c.key) :
    (l.opened c).members.lookup k = l.members.lookup k := by
  rw [opened]
  split
  case isTrue => rfl
  case isFalse => exact (lookup_cons_eq ..).trans (if_neg hk)

/-- The candidates of a key after one more candidate was entered. -/
lemma members_enter (l : Ledger) (c : Candidate) (k : OwnerKey) : (l.enter c).members.lookup k =
    if k = c.key then some (((l.opened c).members.lookup k).getD [] ++ [c]) else l.members.lookup k := by
  rw [enter, lookup_cons_eq]
  split
  case isTrue hk => rw [hk]
  case isFalse hk => exact members_opened_of_ne l hk

/-- When the entry of a candidate is open, it holds the earlier candidates of the key. -/
lemma Holds.members_opened (h : Holds l cs) (c : Candidate) :
    ((l.opened c).members.lookup c.key).getD [] = cs.filter (·.key == c.key) := by
  rw [opened]
  split
  case isTrue hseen =>
    rw [h.members, if_pos (h.owners_isSome_iff.1 hseen)]
    rfl
  case isFalse hnew =>
    rw [List.lookup_cons_self, eq_comm]
    refine List.filter_eq_nil_iff.2 fun c' hc' hkey => hnew (h.owners_isSome_iff.2 ?_)
    rw [← eq_of_beq hkey]
    exact List.mem_map_of_mem hc'

/-- What is entered comes last among the candidates of its key, and all other keys stay as they are. -/
lemma Holds.enter (h : Holds l cs) (c : Candidate) : Holds (l.enter c) (cs ++ [c]) where
  order := by
    rw [order_enter, ownerKeys_concat, h.order]
    exact if_congr h.owners_isSome_iff rfl rfl
  owners k := by
    rw [owners_enter, h.owners, List.find?_append, Option.map_or]
    by_cases hk : k = c.key
    · simp [hk]
    · simp [hk, Ne.symm hk]
  members k := by
    rw [members_enter, h.members, List.filter_append]
    by_cases hk : k = c.key
    · subst hk
      simp [h.members_opened]
    · simp [hk, Ne.symm hk]

/-- A ledger holds all candidates that were entered. -/
lemma Holds.foldl_enter (h : Holds l cs) (cs' : List Candidate) : Holds (cs'.foldl Ledger.enter l) (cs ++ cs') := by
  induction cs' generalizing l cs with
  | nil => rwa [List.append_nil]
  | cons c cs' ih =>
    rw [List.foldl_cons, List.append_cons]
    exact ih (h.enter c)

/-- The group of a key in a ledger is made of the candidates of that key. -/
lemma Holds.group?_eq (h : Holds l cs) (k : OwnerKey) : l.group? k = groupOf? cs k := by
  rw [group?, groupOf?, h.owners, h.members, ← List.head?_filter]
  cases hcs : cs.filter (·.key == k) with
  | nil => rfl
  | cons c rest =>
    have hc := List.mem_filter.1 (hcs ▸ List.mem_cons_self : c ∈ cs.filter (·.key == k))
    have hseen : k ∈ cs.map Candidate.key := eq_of_beq hc.2 ▸ List.mem_map_of_mem hc.1
    rw [if_pos hseen]
    rfl

end Ledger

/-- Entering the candidates one after the other collects all candidates of each key. -/
lemma groups_eq (cs : List Candidate) : groups cs = (ownerKeys cs).filterMap (groupOf? cs) := by
  have h : Ledger.Holds (cs.foldl Ledger.enter {}) cs := Ledger.holds_empty.foldl_enter cs
  rw [groups, h.order]
  exact congrArg (List.filterMap · (ownerKeys cs)) (funext h.group?_eq)

/-- There is one group per key, in the order of the keys. -/
lemma groups_map_key (cs : List Candidate) : (groups cs).map Group.key = ownerKeys cs := by
  have step : ∀ ks : List OwnerKey, (∀ k ∈ ks, k ∈ ownerKeys cs) →
      (ks.filterMap (groupOf? cs)).map Group.key = ks := by
    intro ks hks
    induction ks with
    | nil => rfl
    | cons k ks ih =>
      obtain ⟨g, hg⟩ := Option.isSome_iff_exists.1 (groupOf?_isSome (hks k List.mem_cons_self))
      rw [List.filterMap_cons_some hg, List.map_cons, (groupOf?_eq_some hg).2.2,
        ih fun k' hk' => hks k' (List.mem_cons_of_mem _ hk')]
  rw [groups_eq]
  exact step _ fun _ hk => hk

/-- A group holds all candidates of its key in their order, and its owner is that of the first. -/
lemma candidates_of_mem_groups {cs g} (hg : g ∈ groups cs) :
    g.candidates = cs.filter (·.key == g.key) ∧
      g.candidates.head?.map Candidate.owner = some g.owner := by
  rw [groups_eq] at hg
  obtain ⟨k, _, hk⟩ := List.mem_filterMap.1 hg
  obtain ⟨hcs, howner, rfl⟩ := groupOf?_eq_some hk
  exact ⟨hcs, howner⟩

/-- A group has as many candidates as its key has among the keys of all candidates. -/
lemma length_of_mem_groups {cs g} (hg : g ∈ groups cs) :
    g.candidates.length = (cs.map Candidate.key).count g.key := by
  rw [(candidates_of_mem_groups hg).1, List.count, List.countP_map, List.countP_eq_length_filter]
  rfl

/-- No candidate is lost, and none stands in two groups. -/
lemma sum_length_groups (cs : List Candidate) :
    ((groups cs).map fun g => g.candidates.length).sum = cs.length := by
  let keys := cs.map Candidate.key
  -- the keys of the groups are the distinct keys, and a group is as long as its key is frequent
  have hperm : (ownerKeys cs).Perm keys.dedup := by
    apply (List.perm_ext_iff_of_nodup (ownerKeys_nodup cs) keys.nodup_dedup).2
    intro k
    rw [mem_ownerKeys, List.mem_dedup]
  calc ((groups cs).map fun g => g.candidates.length).sum
      = (((groups cs).map Group.key).map keys.count).sum := by
        rw [List.map_map]
        exact congrArg List.sum (List.map_congr_left fun g hg => length_of_mem_groups hg)
    _ = ((ownerKeys cs).map keys.count).sum := by rw [groups_map_key]
    _ = (keys.dedup.map keys.count).sum := (hperm.map _).sum_eq
    _ = keys.length := keys.sum_map_count_dedup_eq_length
    _ = cs.length := List.length_map _

end PropertyQuote
