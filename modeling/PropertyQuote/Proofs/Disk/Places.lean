import Mathlib.Data.List.Induction
import PropertyQuote.Disk.Basic

/-!
# Places of a disk

What is at a place after something was put or erased.  On a sound disk everything lies in a directory, so
nothing lies below a file.  `Disk.Altered` says what a series of changes may do: make directories at some
places, write and erase files at others.  Everything else stays as it was, and a sound disk stays sound.

* `Altered.sound`: a sound disk stays sound.
* `Altered.content?_eq`, `Altered.file?_eq`: what is not touched stays as it was.
* `mem_folderNames_iff`, `mem_fileNames_iff`: what lies directly in a directory.
-/

namespace PropertyQuote.Disk

variable {d d' d'' : Disk} {l l' : Location} {name : String} {c : Content} {bytes : List UInt8}

/-! ## Contents -/

/-- The root is a directory on every disk. -/
lemma content?_nil (d : Disk) : d.content? [] = some .folder := rfl

/-- At any other place there is what is listed first for it. -/
lemma content?_of_ne_nil (hl : l ≠ []) :
    d.content? l = (d.entries.find? (·.1 == l)).map (·.2) := by
  simp [content?, hl]

/-- What is put at a place is found there. -/
lemma content?_put_self (hl : l ≠ []) : (d.put l c).content? l = some c := by
  simp [content?_of_ne_nil hl, put]

/-- All other places are left alone. -/
lemma content?_put_of_ne (h : l' ≠ l) : (d.put l c).content? l' = d.content? l' := by
  by_cases hl' : l' = []
  · subst hl'
    rfl
  · -- the entries that are taken out are not those that are looked for
    have hfind : (d.entries.filter (·.1 != l)).find? (·.1 == l') = d.entries.find? (·.1 == l') := by
      rw [List.find?_filter]
      congr 1
      funext e
      by_cases he : e.1 = l'
      · simp [he, h]
      · simp [he]
    rw [content?_of_ne_nil hl', content?_of_ne_nil hl', put, List.find?_cons_of_neg (by simpa using h.symm),
      hfind]

/-- Below an erased place there is nothing. -/
lemma content?_erase_of_isPrefix (hl : l ≠ []) (h : l <+: l') : (d.erase l).content? l' = none := by
  have hl' : l' ≠ [] := by
    rintro rfl
    exact hl (List.prefix_nil.1 h)
  rw [content?_of_ne_nil hl', Option.map_eq_none_iff, List.find?_eq_none]
  rintro ⟨place, content⟩ he heq
  obtain rfl : place = l' := by simpa using heq
  simp [erase, List.isPrefixOf_iff_prefix.2 h] at he

/-- Places that are not below it are left alone. -/
lemma content?_erase_of_not_isPrefix (h : ¬ l <+: l') : (d.erase l).content? l' = d.content? l' := by
  by_cases hl' : l' = []
  · subst hl'
    rfl
  · have hfind : (d.entries.filter (!l.isPrefixOf ·.1)).find? (·.1 == l') =
        d.entries.find? (·.1 == l') := by
      rw [List.find?_filter]
      congr 1
      funext e
      by_cases he : e.1 = l'
      · have hnot : l.isPrefixOf l' = false := by
          rwa [← Bool.not_eq_true, List.isPrefixOf_iff_prefix]
        simp [he, hnot]
      · simp [he]
    rw [content?_of_ne_nil hl', content?_of_ne_nil hl', erase, hfind]

/-- There is something at the place of every entry. -/
lemma content?_ne_none_of_mem {e : Location × Content} (he : e ∈ d.entries) : d.content? e.1 ≠ none := by
  by_cases hl : e.1 = []
  · rw [hl, content?_nil]
    exact Option.some_ne_none _
  · rw [content?_of_ne_nil hl, ne_eq, Option.map_eq_none_iff, List.find?_eq_none]
    intro hnone
    exact hnone e he (beq_self_eq_true e.1)

/-- A file with its bytes is what is at the place. -/
lemma file?_eq_some_iff : d.file? l = some bytes ↔ d.content? l = some (.file bytes) := by
  unfold file?
  split
  · next b h => simp [h]
  · next h =>
    constructor
    · intro hnone
      cases hnone
    · intro hfile
      exact absurd hfile (h bytes)

/-- The file at a place depends on the content of that place alone. -/
lemma file?_congr (h : d'.content? l = d.content? l) : d'.file? l = d.file? l := by
  rw [file?, file?, h]

/-! ## Directories -/

/-- The names in a directory are those of the places in it where there is something. -/
lemma mem_names_iff : name ∈ d.names l ↔ d.content? (l ++ [name]) ≠ none := by
  rw [names, List.mem_eraseDups, List.mem_filterMap]
  constructor
  · rintro ⟨e, he, hname⟩
    rw [← childName?_eq_some_iff.1 hname]
    exact content?_ne_none_of_mem he
  · intro hc
    rw [content?_of_ne_nil (by simp), ne_eq, Option.map_eq_none_iff, List.find?_eq_none] at hc
    push Not at hc
    obtain ⟨e, he, hplace⟩ := hc
    exact ⟨e, he, childName?_eq_some_iff.2 (beq_iff_eq.1 hplace)⟩

/-- The directories that are listed for a place are those right below it. -/
lemma mem_folderNames_iff : name ∈ d.folderNames l ↔ d.content? (l ++ [name]) = some .folder := by
  rw [folderNames, List.mem_filter, mem_names_iff, beq_iff_eq, and_iff_right_iff_imp]
  intro hfolder
  rw [hfolder]
  exact Option.some_ne_none _

/-- The files that are listed for a place are those right below it. -/
lemma mem_fileNames_iff : name ∈ d.fileNames l ↔ (d.file? (l ++ [name])).isSome = true := by
  rw [fileNames, List.mem_filter, mem_names_iff, and_iff_right_iff_imp]
  intro hfile hnone
  rw [file?, hnone] at hfile
  cases hfile

/-- No name stands twice in a directory. -/
lemma nodup_names : (d.names l).Nodup := by
  rw [names]
  induction d.entries.filterMap fun e => childName? l e.1 using List.reverseRecOn with
  | nil => exact List.nodup_nil
  | append_singleton names name ih =>
    rw [List.eraseDups_append]
    by_cases hname : name ∈ names
    · simpa [List.removeAll, hname] using ih
    · have hother : ∀ a ∈ names, a ≠ name := fun a ha heq => hname (heq ▸ ha)
      simpa [List.removeAll, hname, List.nodup_append, ih, List.eraseDups_cons] using hother

/-- No directory is listed twice. -/
lemma nodup_folderNames : (d.folderNames l).Nodup :=
  List.Pairwise.filter _ nodup_names

/-- No file is listed twice. -/
lemma nodup_fileNames : (d.fileNames l).Nodup :=
  List.Pairwise.filter _ nodup_names

/-! ## Sound disks -/

/-- Everything on the disk lies in a directory. -/
def Sound (d : Disk) : Prop :=
  ∀ l name, d.content? (l ++ [name]) ≠ none → d.content? l = some .folder

/-- Whatever is on a sound disk is in a directory. -/
lemma Sound.parent (hd : d.Sound) (hl : l ≠ []) (hc : d.content? l ≠ none) :
    d.content? l.dropLast = some .folder := by
  apply hd l.dropLast (l.getLast hl)
  rwa [List.dropLast_concat_getLast hl]

/-- Whether a disk is sound depends on the contents of places alone. -/
lemma Sound.congr (hd : d.Sound) (h : ∀ l, d'.content? l = d.content? l) : d'.Sound := by
  intro l name hc
  rw [h] at hc ⊢
  exact hd l name hc

/-- On the way to something there are only directories. -/
lemma Sound.folder_of_isPrefix (hd : d.Sound) (h : l <+: l') (hne : l ≠ l') (hc : d.content? l' ≠ none) :
    d.content? l = some .folder := by
  obtain ⟨names, rfl⟩ := h
  induction names using List.reverseRecOn with
  | nil => exact absurd (List.append_nil l).symm hne
  | append_singleton names name ih =>
    rw [← List.append_assoc] at hc
    have hfolder := hd (l ++ names) name hc
    by_cases hnames : names = []
    · rwa [hnames, List.append_nil] at hfolder
    · refine ih ?_ ?_
      · intro heq
        exact hnames (List.append_right_eq_self.1 heq.symm)
      · rw [hfolder]
        exact Option.some_ne_none _

/-- Nothing lies below a file. -/
lemma Sound.eq_of_isPrefix (hd : d.Sound) (hfile : d.content? l = some (.file bytes)) (h : l <+: l')
    (hc : d.content? l' ≠ none) : l = l' := by
  by_contra hne
  rw [hd.folder_of_isPrefix h hne hc] at hfile
  cases hfile

/-- The empty disk is sound. -/
lemma sound_empty : empty.Sound := by
  intro l name h
  exact absurd (content?_of_ne_nil (by simp)) h

/-- A place that is no directory is not the root. -/
lemma ne_nil_of_content?_ne (h : d.content? l ≠ some .folder) : l ≠ [] := by
  rintro rfl
  exact h rfl

/-- A file is not the root. -/
lemma ne_nil_of_file (h : d.content? l = some (.file bytes)) : l ≠ [] := by
  rintro rfl
  cases h

/-- Erasing a file leaves all other places as they are. -/
lemma Sound.content?_erase_of_ne (hd : d.Sound) (hfile : d.content? l = some (.file bytes)) (h : l' ≠ l) :
    (d.erase l).content? l' = d.content? l' := by
  by_cases hprefix : l <+: l'
  · rw [content?_erase_of_isPrefix (ne_nil_of_file hfile) hprefix]
    by_contra hc
    exact h (hd.eq_of_isPrefix hfile hprefix (Ne.symm hc)).symm
  · exact content?_erase_of_not_isPrefix hprefix

/-- A disk stays sound if something is put into a directory where no directory was. -/
lemma Sound.put (hd : d.Sound) (hparent : d.content? l.dropLast = some .folder)
    (hl : d.content? l ≠ some .folder) : (d.put l c).Sound := by
  have hne := ne_nil_of_content?_ne hl
  -- directories stay where they are
  have hstays {place : Location} (h : d.content? place = some .folder) :
      (d.put l c).content? place = some .folder := by
    rw [content?_put_of_ne, h]
    rintro rfl
    exact hl h
  intro place name hc
  apply hstays
  by_cases heq : place ++ [name] = l
  · rwa [← heq, List.dropLast_concat] at hparent
  · rw [content?_put_of_ne heq] at hc
    exact hd place name hc

/-- Erasing a place with all below it keeps a disk sound. -/
lemma Sound.erase (hd : d.Sound) (hl : l ≠ []) : (d.erase l).Sound := by
  intro place name hc
  have hnot : ¬ l <+: place ++ [name] := by
    intro h
    exact hc (content?_erase_of_isPrefix hl h)
  have hnot' : ¬ l <+: place := by
    intro h
    exact hnot (h.trans (List.prefix_append _ _))
  rw [content?_erase_of_not_isPrefix hnot] at hc
  rw [content?_erase_of_not_isPrefix hnot']
  exact hd place name hc

/-! ## Altered disks -/

/-- The disk comes from `d` by changes one after the other: directories are made at some places where there
was nothing, files are written and erased at others. -/
inductive Altered (files folders : Location → Prop) (d : Disk) : Disk → Prop where
  | refl : Altered files folders d d
  | makeFolder {d' : Disk} {l : Location} :
    Altered files folders d d' →
    folders l →
    d'.content? l = none →
    d'.content? l.dropLast = some .folder →
    Altered files folders d (d'.put l .folder)
  | writeFile {d' : Disk} {l : Location} (bytes : List UInt8) :
    Altered files folders d d' →
    files l →
    d'.content? l ≠ some .folder →
    d'.content? l.dropLast = some .folder →
    Altered files folders d (d'.put l (.file bytes))
  | eraseFile {d' : Disk} {l : Location} {bytes : List UInt8} :
    Altered files folders d d' →
    files l →
    d'.content? l = some (.file bytes) →
    Altered files folders d (d'.erase l)

namespace Altered

variable {files files' folders folders' : Location → Prop}

/-- Two alterations are one. -/
lemma trans (h : Altered files folders d d') (h' : Altered files folders d' d'') :
    Altered files folders d d'' := by
  induction h' with
  | refl => exact h
  | makeFolder _ hl hnone hparent ih => exact .makeFolder ih hl hnone hparent
  | writeFile bytes _ hl hne hparent ih => exact .writeFile bytes ih hl hne hparent
  | eraseFile _ hl hfile ih => exact .eraseFile ih hl hfile

/-- More places may be allowed. -/
lemma mono (h : Altered files folders d d') (hfiles : ∀ l, files l → files' l)
    (hfolders : ∀ l, folders l → folders' l) : Altered files' folders' d d' := by
  induction h with
  | refl => exact .refl
  | makeFolder _ hl hnone hparent ih => exact .makeFolder ih (hfolders _ hl) hnone hparent
  | writeFile bytes _ hl hne hparent ih => exact .writeFile bytes ih (hfiles _ hl) hne hparent
  | eraseFile _ hl hfile ih => exact .eraseFile ih (hfiles _ hl) hfile

/-- Altered files and new directories keep a disk sound. -/
lemma sound (h : Altered files folders d d') (hd : d.Sound) : d'.Sound := by
  induction h with
  | refl => exact hd
  | makeFolder _ _ hnone hparent ih => exact ih.put hparent (by simp [hnone])
  | writeFile _ _ _ hne hparent ih => exact ih.put hparent hne
  | eraseFile _ _ hfile ih => exact ih.erase (ne_nil_of_file hfile)

/-- Directories stay. -/
lemma folder_stays (h : Altered files folders d d') (hd : d.Sound) (hl : d.content? l = some .folder) :
    d'.content? l = some .folder := by
  induction h with
  | refl => exact hl
  | makeFolder _ _ hnone _ ih =>
    rw [content?_put_of_ne, ih]
    rintro rfl
    rw [ih] at hnone
    cases hnone
  | writeFile _ _ _ hne _ ih =>
    rw [content?_put_of_ne, ih]
    rintro rfl
    exact hne ih
  | eraseFile h' _ hfile ih =>
    rw [(h'.sound hd).content?_erase_of_ne hfile, ih]
    rintro rfl
    rw [ih] at hfile
    cases hfile

/-- Where no directory is made, all directories were there before. -/
lemma folder_was (h : Altered files folders d d') (hd : d.Sound) (hnone : ∀ l, ¬ folders l)
    (hl : d'.content? l = some .folder) : d.content? l = some .folder := by
  induction h with
  | refl => exact hl
  | makeFolder _ hmade _ _ _ => exact absurd hmade (hnone _)
  | @writeFile d' place bytes _ _ hne _ ih =>
    by_cases heq : l = place
    · subst heq
      rw [content?_put_self (ne_nil_of_content?_ne hne)] at hl
      cases hl
    · rw [content?_put_of_ne heq] at hl
      exact ih hl
  | @eraseFile d' place bytes h' _ hfile ih =>
    by_cases heq : l = place
    · subst heq
      rw [content?_erase_of_isPrefix (ne_nil_of_file hfile) List.prefix_rfl] at hl
      cases hl
    · rw [(h'.sound hd).content?_erase_of_ne hfile heq] at hl
      exact ih hl

/-- What is neither written, erased nor made stays as it was. -/
lemma content?_eq (h : Altered files folders d d') (hd : d.Sound) (hfiles : ¬ files l)
    (hfolders : ¬ folders l) : d'.content? l = d.content? l := by
  induction h with
  | refl => rfl
  | makeFolder _ hl _ _ ih =>
    rw [content?_put_of_ne, ih]
    rintro rfl
    exact hfolders hl
  | writeFile _ _ hl _ _ ih =>
    rw [content?_put_of_ne, ih]
    rintro rfl
    exact hfiles hl
  | eraseFile h' hl hfile ih =>
    rw [(h'.sound hd).content?_erase_of_ne hfile, ih]
    rintro rfl
    exact hfiles hl

/-- A file that is neither written nor erased stays, and none comes up in its place. -/
lemma file?_eq (h : Altered files folders d d') (hd : d.Sound) (hfiles : ¬ files l) :
    d'.file? l = d.file? l := by
  induction h with
  | refl => rfl
  | @makeFolder d' place _ hl hnone _ ih =>
    by_cases heq : l = place
    · subst heq
      have hne : l ≠ [] := by
        rintro rfl
        cases hnone
      rw [← ih, file?, file?, content?_put_self hne, hnone]
    · rw [file?_congr (content?_put_of_ne heq), ih]
  | writeFile _ _ hl _ _ ih =>
    rw [file?_congr (content?_put_of_ne _), ih]
    rintro rfl
    exact hfiles hl
  | eraseFile h' hl hfile ih =>
    rw [file?_congr ((h'.sound hd).content?_erase_of_ne hfile _), ih]
    rintro rfl
    exact hfiles hl

end Altered

end PropertyQuote.Disk
