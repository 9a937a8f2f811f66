import Mathlib.Data.List.Basic
import PropertyQuote.CSharp.Compilation

/-!
# Programs of several files

A program takes its files in the order of their paths.  Its properties are those of the files, one file after the
other, so the number of a property is known from its file and its index there.

* `File.properties`: the properties of one file.
* `numberOf`, `resolve?_numberOf`: the numbers under which they are known in a program.
-/

namespace PropertyQuote.CSharp

variable {files : List File} {f g : File} {k : Nat} {here : Property}

/-- The properties of a file, with the directives that the file itself puts in force at them. -/
def File.properties (f : File) : List Property :=
  propertiesIn (Scope.after {} f.outline) {} f.outline

/-! ## The order of the files -/

/-- Some files in the order in which a program takes them. -/
def byPath (files : List File) : List File :=
  files.mergeSort fun a b => decide (a.path ≤ b.path)

/-- Files are put in order, and none is lost. -/
lemma byPath_perm (files : List File) : (byPath files).Perm files :=
  List.mergeSort_perm files _

/-- The order of paths is transitive. -/
lemma path_trans (a b c : File) (hab : decide (a.path ≤ b.path) = true) (hbc : decide (b.path ≤ c.path) = true) :
    decide (a.path ≤ c.path) = true :=
  decide_eq_true (String.le_trans (of_decide_eq_true hab) (of_decide_eq_true hbc))

/-- Any two paths are in order one way or the other. -/
lemma path_total (a b : File) : (decide (a.path ≤ b.path) || decide (b.path ≤ a.path)) = true := by
  rcases String.le_total a.path b.path with h | h <;> simp [h]

/-- Whether a file is taken before another one. -/
def File.precedes (f g : File) : Bool :=
  f.path != g.path && decide (f.path ≤ g.path)

/-- No file comes before itself. -/
lemma not_precedes_self (g : File) : ¬ g.precedes g = true := by
  simp [File.precedes]

/-- Of two files at most one comes before the other. -/
lemma not_precedes_of_precedes (h : f.precedes g = true) : ¬ g.precedes f = true := by
  simp only [File.precedes, Bool.and_eq_true, bne_iff_ne, decide_eq_true_eq] at h ⊢
  rintro ⟨hne, hle⟩
  exact hne (String.le_antisymm hle h.2)

/-- Files with different paths come one after the other. -/
lemma pairwise_byPath (hpaths : (files.map File.path).Nodup) :
    (byPath files).Pairwise fun a b => a.precedes b = true := by
  have hle := List.pairwise_mergeSort path_trans path_total files
  have hne : (byPath files).Pairwise fun a b => a.path ≠ b.path :=
    List.pairwise_map.1 (((byPath_perm files).map File.path).nodup_iff.2 hpaths)
  refine (hle.and hne).imp ?_
  rintro a b ⟨hle, hne⟩
  rw [File.precedes, hle, Bool.and_true]
  exact bne_iff_ne.2 hne

/-- The files in front of a file are those that are taken before it. -/
lemma filter_precedes {before after : List File} (hpaths : (files.map File.path).Nodup)
    (heq : byPath files = before ++ g :: after) : (byPath files).filter (·.precedes g) = before := by
  have hsorted := pairwise_byPath hpaths
  rw [heq, List.pairwise_append, List.pairwise_cons] at hsorted
  obtain ⟨-, ⟨hafter, -⟩, hbefore⟩ := hsorted
  have hfirst : before.filter (·.precedes g) = before :=
    List.filter_eq_self.2 fun a ha => hbefore a ha g List.mem_cons_self
  have hlast : (g :: after).filter (·.precedes g) = [] := by
    refine List.filter_eq_nil_iff.2 (List.forall_mem_cons.2 ⟨not_precedes_self g, ?_⟩)
    exact fun b hb => not_precedes_of_precedes (hafter b hb)
  rw [heq, List.filter_append, hfirst, hlast, List.append_nil]

/-- The files before one come first in the order of the program. -/
lemma byPath_split (hpaths : (files.map File.path).Nodup) (hg : g ∈ files) :
    ∃ after, byPath files = (byPath files).filter (·.precedes g) ++ g :: after := by
  obtain ⟨before, after, heq⟩ := List.append_of_mem ((byPath_perm files).mem_iff.2 hg)
  refine ⟨after, ?_⟩
  rw [filter_precedes hpaths heq]
  exact heq

/-- Each property of some files is a property of one of them. -/
lemma exists_split {l : List File} {i : Nat} (hi : i < (l.flatMap File.properties).length) :
    ∃ before g after k, l = before ++ g :: after ∧ k < g.properties.length ∧
      i = (before.flatMap File.properties).length + k := by
  induction l generalizing i with
  | nil => cases hi
  | cons f l ih =>
    rw [List.flatMap_cons, List.length_append] at hi
    by_cases hlt : i < f.properties.length
    · exact ⟨[], f, l, i, rfl, hlt, (Nat.zero_add i).symm⟩
    · obtain ⟨before, g, after, k, heq, hk, hsum⟩ := ih (i := i - f.properties.length) (by omega)
      refine ⟨f :: before, g, after, k, by rw [heq]; rfl, hk, ?_⟩
      rw [List.flatMap_cons, List.length_append]
      omega

namespace Compilation

/-- The types of a program are the well-known ones and those of its files, the latest first. -/
lemma types_ofFiles : (ofFiles files).types =
    (wellKnownTypes ++ (byPath files).flatMap fun f => typesIn f.outline).reverse := by
  simp only [ofFiles, byPath, List.flatMap_map]

/-- The directives for all files are added to the implicit ones, file by file. -/
lemma globals_ofFiles : (ofFiles files).globals =
    ((byPath files).flatMap fun f => globalsIn f.outline).foldl Scope.add implicitGlobals := by
  simp only [ofFiles, byPath, List.flatMap_map]

/-- The properties of a program are those of its files. -/
lemma properties_ofFiles : (ofFiles files).properties = (byPath files).flatMap File.properties := by
  simp only [ofFiles, byPath, List.flatMap_map]
  rfl

/-! ## Numbers of properties -/

/-- The number of the property with the given index in a file: properties are counted from one, and those of the
files before it come first. -/
def numberOf (files : List File) (g : File) (k : Nat) : Int :=
  ((files.filter (·.precedes g)).flatMap File.properties).length + k + 1

/-- A property is numbered after all properties of the files before its own. -/
lemma numberOf_eq (files : List File) (g : File) (k : Nat) :
    numberOf files g k = (((byPath files).filter (·.precedes g)).flatMap File.properties).length + k + 1 := by
  have hlength := (((byPath_perm files).filter (·.precedes g)).flatMap_right File.properties).length_eq
  rw [numberOf, hlength]

/-- Each property of a program has the number of a property of one of its files. -/
lemma exists_numberOf (hpaths : (files.map File.path).Nodup) {i : Nat}
    (hi : i < (ofFiles files).properties.length) :
    ∃ g ∈ files, ∃ k < g.properties.length, numberOf files g k = i + 1 := by
  rw [properties_ofFiles] at hi
  obtain ⟨before, g, after, k, heq, hk, hsum⟩ := exists_split hi
  have hmem : g ∈ byPath files := by
    rw [heq]
    exact List.mem_append_right _ List.mem_cons_self
  refine ⟨g, (byPath_perm files).mem_iff.1 hmem, k, hk, ?_⟩
  rw [numberOf_eq, filter_precedes hpaths heq, hsum, Int.natCast_add]

/-- The property of a file is found under its number. -/
lemma getElem?_numberOf (hpaths : (files.map File.path).Nodup) (hg : g ∈ files)
    (hk : g.properties[k]? = some here) :
    (ofFiles files).properties[(numberOf files g k).toNat - 1]? = some here := by
  obtain ⟨after, heq⟩ := byPath_split hpaths hg
  have hnumber : (numberOf files g k).toNat - 1 =
      (((byPath files).filter (·.precedes g)).flatMap File.properties).length + k := by
    rw [numberOf_eq]
    omega
  obtain ⟨hlt, -⟩ := List.getElem?_eq_some_iff.1 hk
  rw [properties_ofFiles, hnumber, heq, List.flatMap_append, List.flatMap_cons, ← heq,
    List.getElem?_append_right (Nat.le_add_right _ _), Nat.add_sub_cancel_left, List.getElem?_append_left hlt]
  exact hk

/-- What a program answers for the number of a property. -/
lemma resolve?_numberOf (hpaths : (files.map File.path).Nodup) (hg : g ∈ files)
    (hk : g.properties[k]? = some here) (d : PropertyDeclaration) :
    (ofFiles files).resolve? (numberOf files g k) d =
      if here.entry.declaration = d then (ofFiles files).symbol? here else none := by
  have hpos : ¬ numberOf files g k < 1 := by
    unfold numberOf
    omega
  rw [resolve?, if_neg hpos, getElem?_numberOf hpaths hg hk]

end Compilation

end PropertyQuote.CSharp
