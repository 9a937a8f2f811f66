import Mathlib.Data.List.Nodup
import PropertyQuote.HintName
import PropertyQuote.Name
import PropertyQuote.Proofs.Text

/-!
# Collisions of hint names

Among owners with different keys and simple names, hint names collide in one way only: a type without type
parameters bears the name that a generic type is filed under, as `Box_1` does for `Box<T>`, and the same
namespace, or none, is printed in front of both.

* `Name.join_inj`: a name inside a namespace is read in one way only.
* `hintStem_eq_iff`: which types are filed under the same stem.
* `hintNameAmong_eq_iff`: which owners share a hint name.
* `nodup_hintNamesAmong`: when all hint names differ.
-/

namespace PropertyQuote

/-- A simple name is split from its namespace in one way only. -/
lemma Name.join_inj {ns ns' name name' : String} (h : '.' ∉ name.toList) (h' : '.' ∉ name'.toList) :
    Name.join ns name = Name.join ns' name' ↔ ns = ns' ∧ name = name' := by
  refine ⟨fun heq => ?_, fun ⟨hns, hname⟩ => by rw [hns, hname]⟩
  have hlist := congrArg String.toList heq
  by_cases hns : ns = "" <;> by_cases hns' : ns' = "" <;>
    simp only [Name.join, String.isEmpty_iff, hns, hns', if_true, if_false, String.toList_append] at hlist
  · exact ⟨hns.trans hns'.symm, String.toList_injective hlist⟩
  · exact absurd (by simp [hlist]) h
  · exact absurd (by simp [← hlist]) h'
  · simp only [List.append_assoc] at hlist
    obtain ⟨hhome, hrest⟩ := Text.append_cons_inj_last h h' hlist
    exact ⟨String.toList_injective hhome, String.toList_injective hrest⟩

/-! ## Stems -/

/-- Numbers are told apart by their digits. -/
lemma toString_nat_inj {m n : Nat} (h : toString m = toString n) : m = n := by
  have hdigits := congrArg String.toList h
  rw [Nat.toString_eq_repr, Nat.toString_eq_repr, Nat.toList_repr, Nat.toList_repr] at hdigits
  simpa using congrArg (Nat.ofDigitChars 10 · 0) hdigits

/-- A name with a number after it is split in one way only. -/
lemma numbered_inj {name name' : String} {n n' : Nat}
    (h : name ++ "_" ++ toString n = name' ++ "_" ++ toString n') : name = name' ∧ n = n' := by
  have hlist := congrArg String.toList h
  simp only [String.toList_append, List.append_assoc] at hlist
  obtain ⟨hname, hdigits⟩ := Text.append_cons_inj_last (Text.notMem_toString rfl n)
    (Text.notMem_toString rfl n') hlist
  exact ⟨String.toList_injective hname, toString_nat_inj (String.toList_injective hdigits)⟩

namespace TypeSymbol

/-- A type without type parameters bears the name under which a generic type is filed. -/
def LooksLike (t generic : TypeSymbol) : Prop :=
  t.arity = 0 ∧ 0 < generic.arity ∧ t.name = generic.name ++ "_" ++ toString generic.arity

instance (t generic : TypeSymbol) : Decidable (t.LooksLike generic) :=
  inferInstanceAs (Decidable (_ ∧ _ ∧ _))

end TypeSymbol

/-- A type without parameters is filed under its name. -/
lemma hintStem_of_arity_eq_zero {t : TypeSymbol} (h : t.arity = 0) : hintStem t = t.name := by
  simp [hintStem, h]

/-- A generic type is filed under its name with the number of its parameters. -/
lemma hintStem_of_arity_pos {t : TypeSymbol} (h : 0 < t.arity) :
    hintStem t = t.name ++ "_" ++ toString t.arity := by
  simp [hintStem, Nat.ne_of_gt h]

/-- Two types are filed under the same stem if they share name and number of type parameters, or if one
looks like the other. -/
lemma hintStem_eq_iff (a b : TypeSymbol) :
    hintStem a = hintStem b ↔ (a.name = b.name ∧ a.arity = b.arity) ∨ a.LooksLike b ∨ b.LooksLike a := by
  constructor
  · intro h
    rcases Nat.eq_zero_or_pos a.arity with ha | ha <;> rcases Nat.eq_zero_or_pos b.arity with hb | hb
    · rw [hintStem_of_arity_eq_zero ha, hintStem_of_arity_eq_zero hb] at h
      exact .inl ⟨h, ha.trans hb.symm⟩
    · rw [hintStem_of_arity_eq_zero ha, hintStem_of_arity_pos hb] at h
      exact .inr (.inl ⟨ha, hb, h⟩)
    · rw [hintStem_of_arity_pos ha, hintStem_of_arity_eq_zero hb] at h
      exact .inr (.inr ⟨hb, ha, h.symm⟩)
    · rw [hintStem_of_arity_pos ha, hintStem_of_arity_pos hb] at h
      exact .inl (numbered_inj h)
  · rintro (⟨hname, harity⟩ | ⟨ha, hb, hname⟩ | ⟨hb, ha, hname⟩)
    · rw [hintStem, hintStem, hname, harity]
    · rw [hintStem_of_arity_eq_zero ha, hintStem_of_arity_pos hb, hname]
    · rw [hintStem_of_arity_pos ha, hintStem_of_arity_eq_zero hb, hname]

example : hintStem (.inNamespace ⟨"Box_1", "class", []⟩ "" "") =
    hintStem (.inNamespace ⟨"Box", "class", ["T"]⟩ "" "") := by
  decide

/-- A stem holds no dot if the name holds none. -/
lemma dot_notMem_hintStem {t : TypeSymbol} (h : '.' ∉ t.name.toList) : '.' ∉ (hintStem t).toList := by
  rcases Nat.eq_zero_or_pos t.arity with ht | ht
  · rwa [hintStem_of_arity_eq_zero ht]
  · rw [hintStem_of_arity_pos ht]
    intro hmem
    simp only [String.toList_append, List.mem_append] at hmem
    rcases hmem with (hname | hline) | hdigits
    · exact h hname
    · exact absurd hline (by decide)
    · exact Text.notMem_toString rfl _ hdigits

/-! ## Owners of one pass -/

section Owners
variable (owners : List TypeSymbol)

/-- The namespace that is printed in front of an owner among others; empty if none is printed. -/
def printedHome (t : TypeSymbol) : String :=
  if needsQualification owners t then t.home else ""

/-- The hint name of an owner among others. -/
def hintNameAmong (t : TypeSymbol) : String :=
  hintName (needsQualification owners t) t

/-- A hint name is the stem inside the printed namespace. -/
lemma hintNameAmong_eq (t : TypeSymbol) :
    hintNameAmong owners t = Name.join (printedHome owners t) (hintStem t) ++ "_GenerateBonsai.g.cs" := by
  cases hq : needsQualification owners t <;> by_cases hh : t.home = "" <;>
    simp [hintNameAmong, hintName, printedHome, Name.join, hq, hh]

/-- Whether an owner is qualified depends on its name and number of type parameters only. -/
lemma needsQualification_congr {a b : TypeSymbol} (hname : a.name = b.name) (harity : a.arity = b.arity) :
    needsQualification owners a = needsQualification owners b := by
  simp only [needsQualification, hname, harity]

variable {owners}

/-- Two owners with the same name and number of type parameters are qualified, unless they are one. -/
lemma needsQualification_of_ne {a b : TypeSymbol} (ha : a ∈ owners) (hb : b ∈ owners)
    (hname : a.name = b.name) (harity : a.arity = b.arity) (hne : a ≠ b) :
    needsQualification owners a = true := by
  by_contra hq
  -- both owners are counted
  have hcount : (owners.filter fun o => o.name == a.name && o.arity == a.arity).length ≤ 1 := by
    rw [← List.countP_eq_length_filter]
    simpa [needsQualification] using hq
  have hmem : ∀ t ∈ owners, t.name = a.name → t.arity = a.arity →
      t ∈ owners.filter fun o => o.name == a.name && o.arity == a.arity := by
    intro t ht hn hk
    simp [ht, hn, hk]
  match hfilter : owners.filter fun o => o.name == a.name && o.arity == a.arity with
  | [] => exact absurd (hfilter ▸ hmem a ha rfl rfl) List.not_mem_nil
  | [t] =>
    have hat : a = t := List.mem_singleton.1 (hfilter ▸ hmem a ha rfl rfl)
    have hbt : b = t := List.mem_singleton.1 (hfilter ▸ hmem b hb hname.symm harity.symm)
    exact hne (hat.trans hbt.symm)
  | _ :: _ :: _ =>
    rw [hfilter] at hcount
    simp at hcount

/-- Owners share a hint name if they have the same key, or if one looks like the other and the same
namespace is printed in front of both. -/
lemma hintNameAmong_eq_iff {a b : TypeSymbol} (ha : a ∈ owners) (hb : b ∈ owners)
    (hadot : '.' ∉ a.name.toList) (hbdot : '.' ∉ b.name.toList) :
    hintNameAmong owners a = hintNameAmong owners b ↔
      a.key = b.key ∨
        ((a.LooksLike b ∨ b.LooksLike a) ∧ printedHome owners a = printedHome owners b) := by
  rw [hintNameAmong_eq, hintNameAmong_eq, String.append_left_inj,
    Name.join_inj (dot_notMem_hintStem hadot) (dot_notMem_hintStem hbdot), hintStem_eq_iff]
  constructor
  · rintro ⟨hhome, ⟨hname, harity⟩ | hlook⟩
    · -- both are qualified, so what is printed in front of them is their namespaces
      left
      by_cases hab : a = b
      · rw [hab]
      · have hqa := needsQualification_of_ne ha hb hname harity hab
        have hqb := needsQualification_congr owners hname harity ▸ hqa
        rw [printedHome, printedHome, if_pos hqa, if_pos hqb] at hhome
        rw [TypeSymbol.key, TypeSymbol.key, hhome, hname, harity]
    · exact .inr ⟨hlook, hhome⟩
  · rintro (hkey | ⟨hlook, hhome⟩)
    · obtain ⟨hhome, hname, harity⟩ := OwnerKey.mk.inj hkey
      refine ⟨?_, .inl ⟨hname, harity⟩⟩
      rw [printedHome, printedHome, needsQualification_congr owners hname harity, hhome]
    · exact ⟨hhome, .inr hlook⟩

/-- Owners with different keys have different hint names exactly if none looks like another with the same
namespace printed in front. -/
lemma nodup_hintNamesAmong (hkeys : (owners.map TypeSymbol.key).Nodup)
    (hdots : ∀ t ∈ owners, '.' ∉ t.name.toList) :
    (owners.map (hintNameAmong owners)).Nodup ↔
      ∀ a ∈ owners, ∀ b ∈ owners, a.LooksLike b → printedHome owners a ≠ printedHome owners b := by
  rw [List.nodup_map_iff_inj_on (List.Nodup.of_map _ hkeys)]
  constructor
  · intro hinj a ha b hb hlook hhome
    have hab := hinj a ha b hb
      ((hintNameAmong_eq_iff ha hb (hdots a ha) (hdots b hb)).2 (.inr ⟨.inl hlook, hhome⟩))
    obtain ⟨hzero, hpos, -⟩ := hlook
    rw [hab] at hzero
    omega
  · intro hlooks a ha b hb heq
    rcases (hintNameAmong_eq_iff ha hb (hdots a ha) (hdots b hb)).1 heq with hkey | ⟨hlook | hlook, hhome⟩
    · exact List.inj_on_of_nodup_map hkeys ha hb hkey
    · exact absurd hhome (hlooks a ha b hb hlook)
    · exact absurd hhome.symm (hlooks b hb a ha hlook)

end Owners

end PropertyQuote
