import PropertyQuote.Proofs.CSharp.Capture
import PropertyQuote.Proofs.CSharp.Words

/-!
# Normal names and the namespaces around them

All lookups start from a name in its normal form and go through the namespaces around a place.  Colons may stand in odd
runs, `global::` may be written twice, and dots may stand at the ends of a name or side by side.

* `Normal`, `normalise_eq_self_iff`: the names that normalising leaves as they are.
* `Around`, `around_iff`: the namespaces around a name, one step out.
* `normal_form_and_scopes`: normalising ends in a normal name, and the namespaces around a name are listed without gaps.
-/

namespace PropertyQuote.Name

variable {p s : List Char}

/-! ## Normal names -/

/-- A name without blanks and without two colons side by side. -/
structure Normal (s : List Char) : Prop where
  no_blank : ∀ c ∈ s, Text.isBlank c = false
  no_colons : ¬ [':', ':'] <:+: s

/-- A colon that is left in front was in front. -/
lemma singleton_colon_dotted (h : [':'] <+: dotted s) : [':'] <+: s := by
  fun_induction dotted s with
  | case1 rest _ => exact absurd (List.cons_prefix_cons.1 h).1 (by decide)
  | case2 c rest _ _ =>
    obtain ⟨rfl, -⟩ := List.cons_prefix_cons.1 h
    exact List.prefix_append [':'] rest
  | case3 => exact h

/-- Of each run of colons at most one is left. -/
lemma no_colons_dotted (s : List Char) : ¬ [':', ':'] <:+: dotted s := by
  fun_induction dotted s with
  | case1 rest ih =>
    intro h
    rcases List.infix_cons_iff.1 h with hfirst | hlater
    · exact absurd (List.cons_prefix_cons.1 hfirst).1 (by decide)
    · exact ih hlater
  | case2 c rest hpair ih =>
    intro h
    rcases List.infix_cons_iff.1 h with hfirst | hlater
    · obtain ⟨rfl, hnext⟩ := List.cons_prefix_cons.1 hfirst
      -- a colon that follows would have been taken together with this one
      obtain ⟨rest', rfl⟩ := singleton_colon_dotted hnext
      exact hpair rest' rfl rfl
    · exact ih hlater
  | case3 => exact fun h => absurd (List.eq_nil_of_infix_nil h) (List.cons_ne_nil _ _)

/-- A name without two colons in a row keeps its colons. -/
lemma dotted_of_no_colons (h : ¬ [':', ':'] <:+: s) : dotted s = s := by
  fun_induction dotted s with
  | case1 rest _ => exact absurd (List.prefix_append [':', ':'] rest).isInfix h
  | case2 c rest _ ih => rw [ih fun hlater => h (List.infix_cons hlater)]
  | case3 => rfl

/-- Such a name has no `global::` in front. -/
lemma withoutGlobal_of_no_colons (h : ¬ [':', ':'] <:+: s) : withoutGlobal s = s := by
  rw [withoutGlobal, if_neg]
  intro hstart
  have hcolons : [':', ':'] <:+: "global::".toList := ⟨"global".toList, [], rfl⟩
  exact h (hcolons.trans (List.isPrefixOf_iff_prefix.1 hstart).isInfix)

/-- A name without blanks loses none. -/
lemma filter_of_no_blank (h : ∀ c ∈ s, Text.isBlank c = false) : s.filter (fun c => !Text.isBlank c) = s := by
  rw [List.filter_eq_self]
  intro c hc
  rw [h c hc]
  rfl

/-- A normalised name is normal. -/
lemma normal_normalise (s : List Char) : Normal (normalise s) where
  no_blank := by
    intro c hc
    rcases mem_dotted hc with hc | ⟨rfl, -⟩
    · have hkept := (List.mem_filter.1 (mem_withoutGlobal hc)).2
      rwa [Bool.not_eq_true'] at hkept
    · decide
  no_colons := no_colons_dotted _

/-- Normalising changes exactly the names that are not normal. -/
lemma normalise_eq_self_iff : normalise s = s ↔ Normal s := by
  constructor
  · intro h
    rw [← h]
    exact normal_normalise s
  · intro h
    rw [normalise, filter_of_no_blank h.no_blank, withoutGlobal_of_no_colons h.no_colons,
      dotted_of_no_colons h.no_colons]

/-- The same for strings. -/
lemma normalised_eq_self_iff {t : String} : normalised t = t ↔ Normal t.toList := by
  rw [← normalise_eq_self_iff, normalised, ← String.toList_inj, String.toList_ofList]

/-! ## Namespaces around a name -/

/-- A namespace around a name, other than the global one: a dot follows it in the name. -/
def Around (p s : List Char) : Prop :=
  p ≠ [] ∧ ∃ rest, s = p ++ '.' :: rest

/-- Only a name with a dot has a namespace around it. -/
lemma Around.dot_mem (h : Around p s) : '.' ∈ s := by
  obtain ⟨-, rest, rfl⟩ := h
  exact List.mem_append_right _ List.mem_cons_self

/-- A name with dots has a last one. -/
lemma exists_last_dot (h : '.' ∈ s) : ∃ head tail, s = head ++ '.' :: tail ∧ '.' ∉ tail := by
  obtain ⟨tail, head, heq, htail⟩ := List.eq_append_cons_of_mem (List.mem_reverse.2 h)
  refine ⟨head.reverse, tail.reverse, ?_, mt List.mem_reverse.1 htail⟩
  rw [← List.reverse_reverse s, heq, List.reverse_append, List.reverse_cons, List.append_assoc, List.singleton_append]

/-- A dot of a name is its last one, or it stands before that. -/
lemma eq_or_append_of_last_dot {head tail rest : List Char} (htail : '.' ∉ tail)
    (h : head ++ '.' :: tail = p ++ '.' :: rest) : p = head ∨ ∃ rest', head = p ++ '.' :: rest' := by
  rcases List.append_eq_append_iff.1 h with ⟨between, rfl, hrest⟩ | ⟨between, rfl, hrest⟩
  · cases between with
    | nil => exact .inl (List.append_nil head)
    | cons c between =>
      obtain ⟨-, rfl⟩ := List.cons.inj hrest
      exact absurd (List.mem_append_right _ List.mem_cons_self) htail
  · cases between with
    | nil => exact .inl (List.append_nil p).symm
    | cons c between =>
      obtain ⟨rfl, -⟩ := List.cons.inj hrest
      exact .inr ⟨between, rfl⟩

/-- The namespaces around a name are the one before its last dot and those around that one. -/
lemma around_iff : Around p s ↔ (p ≠ [] ∧ p = init s) ∨ Around p (init s) := by
  by_cases hdot : '.' ∈ s
  · obtain ⟨head, tail, rfl, htail⟩ := exists_last_dot hdot
    rw [(last_append_of_notMem htail).2]
    constructor
    · rintro ⟨hne, rest, heq⟩
      rcases eq_or_append_of_last_dot htail heq with rfl | ⟨rest', rfl⟩
      · exact .inl ⟨hne, rfl⟩
      · exact .inr ⟨hne, rest', rfl⟩
    · rintro (⟨hne, rfl⟩ | ⟨hne, rest, rfl⟩)
      · exact ⟨hne, tail, rfl⟩
      · exact ⟨hne, rest ++ '.' :: tail, List.append_assoc _ _ _⟩
  · rw [(last_of_notMem hdot).2]
    constructor
    · exact fun haround => absurd haround.dot_mem hdot
    · rintro (⟨hne, rfl⟩ | haround)
      · exact absurd rfl hne
      · exact absurd haround.dot_mem List.not_mem_nil

/-- The namespace of a name itself, unless that is the global one. -/
def itself (s : List Char) : List (List Char) :=
  if s = [] then [] else [s]

/-- The namespace of a name itself is the only member, unless it is empty. -/
lemma mem_itself : p ∈ itself s ↔ p ≠ [] ∧ p = s := by
  unfold itself
  split
  case isTrue hs =>
    subst hs
    exact ⟨fun h => absurd h List.not_mem_nil, fun h => absurd h.2 h.1⟩
  case isFalse hs =>
    rw [List.mem_singleton]
    exact ⟨fun h => ⟨h ▸ hs, h⟩, And.right⟩

/-- The same for strings. -/
lemma map_itself (ns : String) : (itself ns.toList).map String.ofList = if ns = "" then [] else [ns] := by
  unfold itself
  split
  case isTrue h => rw [if_pos (String.toList_eq_nil_iff.1 h), List.map_nil]
  case isFalse h => rw [if_neg (mt String.toList_eq_nil_iff.2 h), List.map_singleton, String.ofList_toList]

/-- Between the name itself and the global namespace, all namespaces around the name are listed. -/
lemma exists_enclosing_eq (s : List Char) :
    ∃ outer, enclosing s = itself s ++ outer ++ [[]] ∧ ∀ p, p ∈ outer ↔ Around p s := by
  fun_induction enclosing s with
  | case1 =>
    refine ⟨[], rfl, fun p => ⟨fun h => absurd h List.not_mem_nil, ?_⟩⟩
    exact fun haround => absurd haround.dot_mem List.not_mem_nil
  | case2 s hs ih =>
    obtain ⟨outer, heq, hmem⟩ := ih
    -- the name that is left one step out is the first of the namespaces around this one
    refine ⟨itself (init s) ++ outer, ?_, fun p => ?_⟩
    · have hitself : itself s = [s] := if_neg hs
      rw [heq, hitself, List.append_assoc, List.append_assoc, List.append_assoc, List.singleton_append]
    · rw [List.mem_append, mem_itself, hmem, ← around_iff]

/-- No namespace is longer than the name. -/
lemma length_le_of_mem_enclosing (h : p ∈ enclosing s) : p.length ≤ s.length := by
  fun_induction enclosing s with
  | case1 => exact Nat.le_of_eq (congrArg List.length (List.mem_singleton.1 h))
  | case2 s hs ih =>
    rcases List.mem_cons.1 h with rfl | h
    · exact Nat.le_refl _
    · exact Nat.le_trans (ih h) (Nat.le_of_lt (length_init_lt hs))

/-- Each namespace is shorter than the ones before it. -/
lemma pairwise_enclosing (s : List Char) : (enclosing s).Pairwise fun p q => q.length < p.length := by
  fun_induction enclosing s with
  | case1 => exact List.pairwise_singleton _ _
  | case2 s hs ih =>
    refine List.pairwise_cons.2 ⟨fun p hp => ?_, ih⟩
    exact Nat.lt_of_le_of_lt (length_le_of_mem_enclosing hp) (length_init_lt hs)

/-- The same for strings. -/
lemma pairwise_chain (ns : String) : (chain ns).Pairwise fun p q => q.length < p.length := by
  rw [chain, List.pairwise_map]
  simpa only [String.length_ofList] using pairwise_enclosing ns.toList

/-- For strings, a namespace around a name has a dot and more behind it. -/
lemma around_toList {p ns : String} : Around p.toList ns.toList ↔ p ≠ "" ∧ ∃ rest, ns = p ++ "." ++ rest := by
  refine and_congr (not_congr String.toList_eq_nil_iff) ⟨?_, ?_⟩
  · rintro ⟨rest, heq⟩
    refine ⟨String.ofList rest, String.toList_injective ?_⟩
    rw [toList_dotted, String.toList_ofList, heq]
  · rintro ⟨rest, rfl⟩
    exact ⟨rest.toList, toList_dotted p rest⟩

/-- Normalising a name leaves no blanks and no two colons side by side, and it leaves exactly the names without them as
they are, so normalising again changes nothing.  The namespaces around a name are the name itself, unless it is empty,
every nonempty beginning of it that a dot follows, and the global namespace, each one shorter than those before it. -/
theorem normal_form_and_scopes :
    (∀ t : String, Normal (normalised t).toList ∧ normalised (normalised t) = normalised t ∧
      (normalised t = t ↔ Normal t.toList)) ∧
    ∀ ns : String, ∃ outer : List String, chain ns = (if ns = "" then [] else [ns]) ++ outer ++ [""] ∧
      (∀ p, p ∈ outer ↔ p ≠ "" ∧ ∃ rest, ns = p ++ "." ++ rest) ∧
      (chain ns).Pairwise (fun p q => q.length < p.length) ∧ (chain ns).Nodup := by
  constructor
  · intro t
    have hnormal : Normal (normalised t).toList := by
      rw [normalised, String.toList_ofList]
      exact normal_normalise t.toList
    exact ⟨hnormal, normalised_eq_self_iff.2 hnormal, normalised_eq_self_iff⟩
  · intro ns
    obtain ⟨outer, heq, hmem⟩ := exists_enclosing_eq ns.toList
    refine ⟨outer.map String.ofList, ?_, fun p => ?_, pairwise_chain ns, ?_⟩
    · rw [chain, heq, List.map_append, List.map_append, map_itself]
      rfl
    · rw [← around_toList, ← hmem, List.mem_map]
      constructor
      · rintro ⟨p, hp, rfl⟩
        rwa [String.toList_ofList]
      · exact fun hp => ⟨p.toList, hp, String.ofList_toList⟩
    · exact (pairwise_chain ns).imp fun hlt heq => Nat.ne_of_gt hlt (congrArg String.length heq)

example : normalised "glo bal::global :: A:::B" = "global.A.:B" := by decide

example : chain "..A..B." = ["..A..B.", "..A..B", "..A.", "..A", ".", ""] := by cbv

end PropertyQuote.Name
