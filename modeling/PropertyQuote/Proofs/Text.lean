import Mathlib.Data.List.Basic
import PropertyQuote.Text.Hex
import PropertyQuote.Text.Lines

/-!
# Texts

What the readers of texts rely on: a text is cut in one way only at the first or last occurrence of a
character, or at the first occurrence of two characters side by side, four hexadecimal digits name a number below
65536, and joined lines are cut into the same lines.

* `append_cons_inj_first`, `append_cons_inj_last`: cutting at a character.
* `append_pair_inj_first`: cutting at two characters.
* `hexNumber?_hex`: hexadecimal digits read back.
* `unifyNewlines_of_notMem`: line ends that are unified already.
* `splitAtEach_lines`: joined lines read back.
-/

namespace PropertyQuote.Text

/-! ## Cutting at a character -/

section Cut
variable {α : Type}

/-- A list is cut in one way only at the first occurrence of an element. -/
lemma append_cons_inj_first {a : α} {xs xs' ys ys' : List α} (hxs : a ∉ xs) (hxs' : a ∉ xs')
    (h : xs ++ a :: ys = xs' ++ a :: ys') : xs = xs' ∧ ys = ys' := by
  induction xs generalizing xs' with
  | nil =>
    cases xs' with
    | nil => exact ⟨rfl, (List.cons.inj h).2⟩
    | cons x xs' =>
      obtain ⟨rfl, _⟩ := List.cons.inj h
      exact absurd List.mem_cons_self hxs'
  | cons x xs ih =>
    cases xs' with
    | nil =>
      obtain ⟨rfl, _⟩ := List.cons.inj h
      exact absurd List.mem_cons_self hxs
    | cons x' xs' =>
      obtain ⟨rfl, htail⟩ := List.cons.inj h
      obtain ⟨rfl, rfl⟩ := ih (fun m => hxs (List.mem_cons_of_mem _ m))
        (fun m => hxs' (List.mem_cons_of_mem _ m)) htail
      exact ⟨rfl, rfl⟩

/-- A list is cut in one way only at the last occurrence of an element. -/
lemma append_cons_inj_last {a : α} {xs xs' ys ys' : List α} (hys : a ∉ ys) (hys' : a ∉ ys')
    (h : xs ++ a :: ys = xs' ++ a :: ys') : xs = xs' ∧ ys = ys' := by
  have hr : ys.reverse ++ a :: xs.reverse = ys'.reverse ++ a :: xs'.reverse := by
    simpa using congrArg List.reverse h
  obtain ⟨hy, hx⟩ := append_cons_inj_first (by simpa using hys) (by simpa using hys') hr
  exact ⟨List.reverse_injective hx, List.reverse_injective hy⟩

/-- A list is cut in one way only at the first place where two different elements stand side by side. -/
lemma append_pair_inj_first {a b : α} (hab : a ≠ b) {xs xs' ys ys' : List α} (hxs : ¬ [a, b] <:+: xs)
    (hxs' : ¬ [a, b] <:+: xs') (h : xs ++ a :: b :: ys = xs' ++ a :: b :: ys') : xs = xs' ∧ ys = ys' := by
  -- a pair that stands in front of one list is not further on in the other
  have hfront {x : α} {zs zs' ws : List α} (hpair : ¬ [a, b] <:+: x :: zs)
      (heq : a :: b :: ws = x :: zs ++ a :: b :: zs') : False := by
    obtain ⟨rfl, htail⟩ := List.cons.inj heq
    cases zs with
    | nil => exact hab (List.cons.inj htail).1.symm
    | cons z zs =>
      obtain ⟨rfl, -⟩ := List.cons.inj htail
      exact hpair (List.prefix_append [a, b] zs).isInfix
  induction xs generalizing xs' with
  | nil =>
    cases xs' with
    | nil => exact ⟨rfl, (List.cons.inj (List.cons.inj h).2).2⟩
    | cons x xs' => exact (hfront hxs' h).elim
  | cons x xs ih =>
    cases xs' with
    | nil => exact (hfront hxs h.symm).elim
    | cons x' xs' =>
      obtain ⟨rfl, htail⟩ := List.cons.inj h
      obtain ⟨rfl, rfl⟩ := ih (fun hin => hxs (List.infix_cons hin)) (fun hin => hxs' (List.infix_cons hin)) htail
      exact ⟨rfl, rfl⟩

/-- Two elements stand side by side in a list that goes on with the second of them only if they do so before, or if
the list ended in the first of them. -/
lemma pair_infix_append {a b : α} (hab : a ≠ b) {xs ys : List α} (hys : a ∉ ys) (h : [a, b] <:+: xs ++ b :: ys) :
    [a, b] <:+: xs ∨ [a] <:+ xs := by
  induction xs with
  | nil =>
    rcases List.mem_cons.1 (h.subset List.mem_cons_self) with rfl | hmem
    · exact absurd rfl hab
    · exact absurd hmem hys
  | cons x xs ih =>
    rcases List.infix_cons_iff.1 h with hfirst | hlater
    · obtain ⟨rfl, hrest⟩ := List.cons_prefix_cons.1 hfirst
      cases xs with
      | nil => exact .inr (List.suffix_refl _)
      | cons c xs =>
        obtain ⟨rfl, -⟩ := List.cons_prefix_cons.1 hrest
        exact .inl (List.prefix_append [a, b] xs).isInfix
    · rcases ih hlater with hbefore | hlast
      · exact .inl (List.infix_cons hbefore)
      · exact .inr (hlast.trans (List.suffix_cons x xs))

end Cut

/-! ## Numbers of characters -/

/-- The number of a character is below the first one that is too large. -/
lemma toNat_lt (c : Char) : c.toNat < 0x110000 := by
  rcases c.valid with h | h
  · exact Nat.lt_trans h (by omega)
  · exact h.2

/-! ## Decimal digits -/

/-- A number is written with digits only. -/
lemma isDigit_of_mem_toString {n : Nat} {c : Char} (h : c ∈ (toString n).toList) : c.isDigit = true := by
  rw [Nat.toString_eq_repr, Nat.toList_repr] at h
  exact Nat.isDigit_of_mem_toDigits (by omega) (by omega) h

/-- A number is written in digits. -/
lemma notMem_toString {c : Char} (hc : c.isDigit = false) (n : Nat) : c ∉ (toString n).toList := by
  intro hmem
  rw [isDigit_of_mem_toString hmem] at hc
  cases hc

/-! ## Hexadecimal digits -/

/-- A digit below sixteen reads back. -/
lemma hexValue?_hexDigit {n : Nat} (h : n < 16) : hexValue? (hexDigit n) = some n := by
  have all : ∀ n : Fin 16, hexValue? (hexDigit n) = some n.val := by decide
  exact all ⟨n, h⟩

/-- The number of four hexadecimal digits. -/
def hexNumber? (a b c d : Char) : Option Nat :=
  match hexValue? a, hexValue? b, hexValue? c, hexValue? d with
  | some a, some b, some c, some d => some (0x1000 * a + 0x100 * b + 0x10 * c + d)
  | _, _, _, _ => none

/-- The last four digits of a number one by one. -/
lemma hex_four (n : Nat) :
    hex 4 n = [hexDigit (n / 4096 % 16), hexDigit (n / 256 % 16), hexDigit (n / 16 % 16),
      hexDigit (n % 16)] := by
  simp [hex, List.range_succ]

/-- Four digits read back as the number that they were written for. -/
lemma hexNumber?_hex {n : Nat} (h : n < 0x10000) :
    hexNumber? (hexDigit (n / 4096 % 16)) (hexDigit (n / 256 % 16)) (hexDigit (n / 16 % 16))
      (hexDigit (n % 16)) = some n := by
  simp only [hexNumber?, hexValue?_hexDigit (Nat.mod_lt _ (by omega : 0 < 16))]
  congr 1
  omega

/-- A hexadecimal digit ends no line. -/
lemma endsLine_of_mem_hex {count n : Nat} {c : Char} (hc : c ∈ hex count n) : endsLine c = false := by
  have all : ∀ k : Fin 16, endsLine (hexDigit k) = false := by decide
  obtain ⟨i, _, rfl⟩ := List.mem_map.1 hc
  exact all ⟨n / 16 ^ i % 16, Nat.mod_lt _ (by omega)⟩

/-! ## Line ends -/

/-- A text with its line ends unified has no carriage return. -/
lemma return_notMem_unifyNewlines (s : List Char) : '\r' ∉ unifyNewlines s := by
  fun_induction unifyNewlines s with
  | case1 => exact List.not_mem_nil
  | case2 rest ih => exact List.not_mem_cons_of_ne_of_not_mem (by decide) ih
  | case3 rest _ ih => exact List.not_mem_cons_of_ne_of_not_mem (by decide) ih
  | case4 c rest _ hc ih =>
    refine List.not_mem_cons_of_ne_of_not_mem ?_ ih
    rintro rfl
    exact hc rfl

/-- A text without carriage returns has its line ends as they are unified. -/
lemma unifyNewlines_of_notMem {s : List Char} (h : '\r' ∉ s) : unifyNewlines s = s := by
  fun_induction unifyNewlines s with
  | case1 => rfl
  | case2 rest ih => exact absurd List.mem_cons_self h
  | case3 rest _ ih => exact absurd List.mem_cons_self h
  | case4 c rest _ _ ih => rw [ih fun hmem => h (List.mem_cons_of_mem _ hmem)]

/-- Line ends that are unified stay as they are. -/
lemma unifyNewlines_idem (s : List Char) : unifyNewlines (unifyNewlines s) = unifyNewlines s :=
  unifyNewlines_of_notMem (return_notMem_unifyNewlines s)

/-! ## Lines -/

section Lines
variable {α : Type} {p : α → Bool}

/-- A split text has at least one part. -/
lemma splitAtEach_ne_nil (xs : List α) : splitAtEach p xs ≠ [] := by
  cases xs with
  | nil => exact List.cons_ne_nil _ _
  | cons x xs =>
    rw [splitAtEach]
    repeat' split
    all_goals exact List.cons_ne_nil _ _

/-- The parts of a list are those before a cut and those after it. -/
lemma splitAtEach_append_cons {a : α} (ha : p a = true) (xs ys : List α) :
    splitAtEach p (xs ++ a :: ys) = splitAtEach p xs ++ splitAtEach p ys := by
  induction xs with
  | nil => simp [splitAtEach, ha]
  | cons x xs ih =>
    rw [List.cons_append, splitAtEach, splitAtEach, ih]
    cases p x with
    | true => rfl
    | false =>
      cases hparts : splitAtEach p xs with
      | nil => exact absurd hparts (splitAtEach_ne_nil xs)
      | cons part parts => rfl

/-- A list without cuts is one part. -/
lemma splitAtEach_of_forall {line : List α} (hline : ∀ x ∈ line, p x = false) :
    splitAtEach p line = [line] := by
  induction line with
  | nil => rfl
  | cons x line ih =>
    obtain ⟨hx, hline⟩ := List.forall_mem_cons.1 hline
    rw [splitAtEach, ih hline, hx]
    rfl

/-- A line without cuts is the first part. -/
lemma splitAtEach_append {a : α} {line rest : List α} (hline : ∀ x ∈ line, p x = false)
    (ha : p a = true) : splitAtEach p (line ++ a :: rest) = line :: splitAtEach p rest := by
  rw [splitAtEach_append_cons ha, splitAtEach_of_forall hline]
  rfl

/-- Lines that are joined are cut into the same lines, and nothing is left after the last. -/
lemma splitAtEach_lines {a : α} {lines : List (List α)}
    (hlines : ∀ line ∈ lines, ∀ x ∈ line, p x = false) (ha : p a = true) :
    splitAtEach p (lines.flatMap (· ++ [a])) = lines ++ [[]] := by
  induction lines with
  | nil => rfl
  | cons line lines ih =>
    rw [List.flatMap_cons, List.append_assoc, List.singleton_append,
      splitAtEach_append (hlines line List.mem_cons_self) ha,
      ih fun l hl => hlines l (List.mem_cons_of_mem _ hl)]
    rfl

/-- A text without a character is one part. -/
lemma splitOnChar_of_notMem {c : Char} {s : String} (h : c ∉ s.toList) : splitOnChar c s = [s] := by
  rw [splitOnChar, splitAtEach_of_forall, List.map_singleton, String.ofList_toList]
  intro x hx
  rw [beq_eq_false_iff_ne]
  rintro rfl
  exact h hx

end Lines

/-- A character that is in no item and not in the separator is not in the joined text. -/
lemma notMem_intercalate {c : Char} {comma : List Char} {items : List (List Char)} (hcomma : c ∉ comma)
    (hitems : ∀ item ∈ items, c ∉ item) : c ∉ comma.intercalate items := by
  induction items with
  | nil => simp [List.intercalate]
  | cons item items ih =>
    obtain ⟨hitem, hitems⟩ := List.forall_mem_cons.1 hitems
    by_cases hne : items = []
    · subst hne
      rwa [List.intercalate_singleton]
    · rw [List.intercalate_cons_of_ne_nil hne]
      simp [hitem, hcomma, ih hitems]

end PropertyQuote.Text
