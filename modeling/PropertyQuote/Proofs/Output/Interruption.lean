import PropertyQuote.Proofs.Output.DryRun
import PropertyQuote.Proofs.Output.Tasks

/-!
# Writings that are interrupted

A writing that stops after some of its actions is begun anew.  The manifest is stored last, so the second writing
reads the manifest that the first one read, and repeats the tasks that are done already.

* `Regular.stopped`: what is on the disk when a writing stops, and that its tasks can be run again.
* `retry_after_interruption`: exactly when the second writing ends like one that is not interrupted.
-/

namespace PropertyQuote.Project

variable {d d' : Disk} {folder : Path} {units : List SourceUnit} {options : WriteOptions} {p p₂ q q₂ : Progress}
  {done rest : List Action} {previous m : DigestMap}

/-! ## Disks with the same output -/

/-- The disks are the same, but for the manifest of a directory. -/
def SameBut (folder : Path) (d d' : Disk) : Prop :=
  ∀ l, l ≠ folder.resolve [] ++ [manifestName] → d'.content? l = d.content? l

/-- The disks have the same files, and the manifest of the directory lists the same units. -/
structure SameOutput (folder : Path) (d d' : Disk) : Prop where
  files : SameBut folder d d'
  manifest : (d'.file? (folder.resolve [] ++ [manifestName])).isSome =
    (d.file? (folder.resolve [] ++ [manifestName])).isSome
  listed : ∃ m m', previousUnits d folder = .ok m ∧ previousUnits d' folder = .ok m' ∧ m.Perm m'

/-- Storing a manifest changes nothing else. -/
lemma sameBut_of_save {bytes : List UInt8} (hd : d.Sound) (hreach : d.Reaches folder)
    (h : d.save (folder.child manifestName) bytes = .ok d') : SameBut folder d d' := by
  intro l hl
  apply (Disk.alteredIn_save hd isFileName_manifestName h).content?_elsewhere hd hreach
  rintro name rfl
  exact hl

/-- After a manifest is stored there is one. -/
lemma file?_of_save {bytes : List UInt8} (h : d.save (folder.child manifestName) bytes = .ok d') :
    (d'.file? (folder.resolve [] ++ [manifestName])).isSome = true := by
  rw [Disk.file?_eq_some_iff.2 (Disk.content?_of_save isFileName_manifestName h)]
  rfl

/-! ## Manifests that are out of reach -/

/-- The units that the manifest in the place of a directory lists, whether or not the path leads there. -/
def unitsAt (d : Disk) (folder : Path) : Except Failure DigestMap :=
  match d.file? (folder.resolve [] ++ [manifestName]) with
  | some bytes => (Manifest.unitsOfBytes bytes).mapError .manifest
  | none => .ok []

/-- The units that are listed depend on the file of the manifest alone. -/
lemma unitsAt_congr (h : d'.file? (folder.resolve [] ++ [manifestName]) =
    d.file? (folder.resolve [] ++ [manifestName])) : unitsAt d' folder = unitsAt d folder := by
  rw [unitsAt, unitsAt, h]

/-- A manifest is read if the directory is reached and the path can be followed at all. -/
lemma previousUnits_eq_unitsAt {bytes : List UInt8} {disk : Disk}
    (h : disk.save (folder.child manifestName) bytes = .ok d') (hreach : d.Reaches folder) :
    previousUnits d folder = unitsAt d folder := by
  obtain ⟨-, hlook⟩ := Disk.look_of_save isFileName_manifestName h
  obtain ⟨l, hl, -⟩ := Disk.look_eq_ok_iff.1 hlook
  obtain ⟨hreach', rfl⟩ := Disk.locate_child_ok isFileName_manifestName hl
  have hl' : d.locate (folder.child manifestName) = .ok (folder.resolve [] ++ [manifestName]) :=
    (Disk.locate_child_congr isFileName_manifestName hreach' hreach).trans hl
  unfold previousUnits unitsAt Disk.read Disk.look Disk.file?
  rw [hl']
  dsimp only
  cases d.content? (folder.resolve [] ++ [manifestName]) with
  | none => rfl
  | some c => cases c <;> rfl

/-- A writing finds the units that are listed in the place, or none. -/
lemma previousUnits_cases (d : Disk) (folder : Path) :
    previousUnits d folder = unitsAt d folder ∨ previousUnits d folder = .ok [] := by
  unfold previousUnits
  split
  case h_1 bytes hread =>
    obtain ⟨-, hfile⟩ := Disk.look_child_ok isFileName_manifestName (read_eq_ok_iff.1 hread)
    rw [unitsAt, Disk.file?_eq_some_iff.2 hfile]
    exact .inl rfl
  case h_2 => exact .inr rfl

/-- Where units are listed there is a manifest. -/
lemma file?_of_unitsAt (h : unitsAt d folder = .ok m) (hne : m ≠ []) :
    (d.file? (folder.resolve [] ++ [manifestName])).isSome = true := by
  unfold unitsAt at h
  split at h
  case h_1 bytes hfile =>
    rw [hfile]
    rfl
  case h_2 =>
    cases h
    exact absurd rfl hne

/-! ## The tasks of a writing -/

/-- The tasks of a writing, given the units that were listed before. -/
def WriteOptions.tasks (options : WriteOptions) (previous : DigestMap) (units : List SourceUnit) : List Task :=
  units.map .write ++ (options.stale previous units).map .remove

/-- Where nothing was listed, units are only written. -/
lemma tasks_nil : options.tasks [] units = units.map .write := by
  rw [WriteOptions.tasks, stale_nil, List.map_nil, List.append_nil]

/-- Where the directory is not reached, units are only written. -/
lemma tasks_of_not_reaches (hprevious : previousUnits d folder = .ok previous) (hnot : ¬ d.Reaches folder) :
    options.tasks previous units = units.map .write := by
  obtain rfl := Except.ok.inj (hprevious.symm.trans (previousUnits_of_not_reaches hnot))
  exact tasks_nil

/-- Such tasks remove nothing. -/
lemma forall_mem_map_write : ∀ t ∈ units.map Task.write, ∃ u, t = .write u := by
  rw [List.forall_mem_map]
  exact fun u _ => ⟨u, rfl⟩

/-- Tasks that are about other files leave the manifest as it is. -/
lemma manifest_of_altered {tasks : List Task} (hd : d.Sound) (hnames : ∀ t ∈ tasks, t.fileName ≠ manifestName)
    (h : Disk.AlteredIn folder (· ∈ tasks.map Task.fileName) d d') :
    d'.file? (folder.resolve [] ++ [manifestName]) = d.file? (folder.resolve [] ++ [manifestName]) := by
  apply h.file?_eq hd
  intro name hname hplace
  obtain ⟨t, ht, rfl⟩ := List.mem_map.1 hname
  exact hnames t ht (by simpa using hplace.symm)

/-- A writing that ran its tasks, which ended in `p₂`, and then stored the manifest. -/
structure Recorded (folder : Path) (units : List SourceUnit) (options : WriteOptions) (d : Disk)
    (previous : DigestMap) (p₂ p : Progress) : Prop where
  real : options.dryRun = false
  written : writeUnits d folder units options = .ok p
  read : previousUnits d folder = .ok previous
  tasks : (options.tasks previous units).foldlM (Task.run folder) { disk := d } = .ok p₂
  saved : p₂.disk.save (folder.child manifestName)
    (Text.Utf8.encodeText (Manifest.mk options.fingerprint (unitDigests units)).text) = .ok p.disk
  actions : p.actions = p₂.actions ++ [.record folder ⟨options.fingerprint, unitDigests units⟩]
  listed : units = [] → previous ≠ []

/-- A writing that performs any action stores the manifest last, after its tasks. -/
lemma recorded_of_actions (hreal : options.dryRun = false) (h : writeUnits d folder units options = .ok p)
    (hactions : p.actions ≠ []) : ∃ previous p₂, Recorded folder units options d previous p₂ p := by
  obtain ⟨previous, p₁, p₂, hprevious, hwritten, hremoved, hlast⟩ := writeUnits_ok h
  rw [hreal] at hwritten hremoved hlast
  rcases hlast with ⟨hstore, hact⟩ | ⟨hquiet, rfl⟩
  · obtain ⟨disk, hdisk, rfl⟩ := Progress.act_ok hact
    rw [perform_record] at hdisk
    refine ⟨previous, p₂, hreal, h, hprevious, ?_, hdisk, rfl, ?_⟩
    · rw [WriteOptions.tasks, Task.foldlM_tasks, hwritten]
      exact hremoved
    · -- without units, old or new, there is nothing to do
      rintro rfl rfl
      rw [stale_nil] at hremoved
      cases hwritten
      cases hremoved
      cases hstore
  · rw [(eq_of_quiet hprevious hwritten hremoved hquiet).2] at hactions
    exact absurd rfl hactions

/-- The units of a writing have different plain names, and so do those that the manifest lists.  No unit is in the
place of the manifest. -/
structure Regular (folder : Path) (units : List SourceUnit) (d : Disk) : Prop where
  sound : d.Sound
  named : ∀ u ∈ units, IsFileName u.hintName ∧ u.hintName ≠ manifestName
  nodup : (units.map SourceUnit.hintName).Nodup
  listed : ∀ m, unitsAt d folder = .ok m → ∀ name ∈ m.map Prod.fst, IsFileName name ∧ name ≠ manifestName

namespace Regular

/-- It matters what the manifest is and that the disk is sound. -/
lemma congr (h : Regular folder units d) (hd' : d'.Sound)
    (hfile : d'.file? (folder.resolve [] ++ [manifestName]) = d.file? (folder.resolve [] ++ [manifestName])) :
    Regular folder units d' := by
  refine ⟨hd', h.named, h.nodup, ?_⟩
  rw [unitsAt_congr hfile]
  exact h.listed

/-- What is stale has a plain name too. -/
lemma stale (h : Regular folder units d) (hm : unitsAt d folder = .ok m) :
    ∀ name ∈ options.stale m units, IsFileName name ∧ name ≠ manifestName :=
  fun name hname => h.listed m hm name (mem_stale hname).1

/-- All tasks are about files of plain names, and none is about the manifest. -/
lemma tasks_named (h : Regular folder units d) (hprevious : previousUnits d folder = .ok previous) :
    ∀ t ∈ options.tasks previous units, IsFileName t.fileName ∧ t.fileName ≠ manifestName := by
  rw [WriteOptions.tasks, List.forall_mem_append, List.forall_mem_map, List.forall_mem_map]
  refine ⟨h.named, ?_⟩
  rcases previousUnits_cases d folder with heq | heq
  · exact h.stale (heq.symm.trans hprevious)
  · obtain rfl := Except.ok.inj (hprevious.symm.trans heq)
    rw [stale_nil]
    exact fun _ hmem => absurd hmem List.not_mem_nil

/-- No two tasks are about the same file. -/
lemma tasks_nodup (h : Regular folder units d) (hprevious : previousUnits d folder = .ok previous) :
    ((options.tasks previous units).map Task.fileName).Nodup := by
  rw [WriteOptions.tasks, Task.map_fileName_tasks, List.nodup_append]
  refine ⟨h.nodup, nodup_stale (nodup_previousUnits hprevious), ?_⟩
  rintro name hunit _ hname rfl
  exact (mem_stale hname).2 hunit

/-! ## The end of the tasks -/

/-- After its tasks a writing has reached its directory, and the manifest is as it was. -/
lemma ended (h : Regular folder units d) (hrec : Recorded folder units options d previous p₂ p) :
    p₂.disk.Sound ∧ p₂.disk.Reaches folder ∧
      p₂.disk.file? (folder.resolve [] ++ [manifestName]) =
        d.file? (folder.resolve [] ++ [manifestName]) := by
  have hnames : ∀ t ∈ options.tasks previous units, IsFileName t.fileName ∧ t.fileName ≠ manifestName :=
    h.tasks_named hrec.read
  have hfiles : ∀ t ∈ options.tasks previous units, IsFileName t.fileName := fun t ht => (hnames t ht).1
  have halt := Task.foldlM_altered (p := { disk := d }) h.sound hfiles hrec.tasks
  refine ⟨halt.sound h.sound, ?_, manifest_of_altered h.sound (fun t ht => (hnames t ht).2) halt⟩
  refine Task.reaches_of_foldlM (p := { disk := d }) h.sound hfiles ?_ hrec.tasks
  by_cases hreach : d.Reaches folder
  · exact .inl hreach
  · right
    rw [tasks_of_not_reaches hrec.read hreach]
    refine ⟨?_, forall_mem_map_write⟩
    intro hnil
    have hprevious := previousUnits_of_not_reaches hreach
    exact hrec.listed (List.map_eq_nil_iff.1 hnil) (Except.ok.inj (hrec.read.symm.trans hprevious))

/-- Where a writing is stopped after an action and before it stores the manifest, its tasks can be run again, and
the manifest is as it was. -/
lemma stopped (h : Regular folder units d) (hrec : Recorded folder units options d previous p₂ p)
    (hactions : p₂.actions = done ++ rest) (hdone : done ≠ []) :
    ∃ d', performAll d done = .ok d' ∧ d'.Sound ∧ d'.Reaches folder ∧
      d'.file? (folder.resolve [] ++ [manifestName]) = d.file? (folder.resolve [] ++ [manifestName]) ∧
      ∃ q, (options.tasks previous units).foldlM (Task.run folder) { disk := d' } = .ok q ∧
        ∀ l, q.disk.content? l = p₂.disk.content? l := by
  have hnames : ∀ t ∈ options.tasks previous units, IsFileName t.fileName ∧ t.fileName ≠ manifestName :=
    h.tasks_named hrec.read
  have hnodup : ((options.tasks previous units).map Task.fileName).Nodup := h.tasks_nodup hrec.read
  have hwrites (hreach : ¬ d.Reaches folder) : ∀ t ∈ options.tasks previous units, ∃ u, t = .write u := by
    rw [tasks_of_not_reaches hrec.read hreach]
    exact forall_mem_map_write
  obtain ⟨before, after, m, heq, hbefore, hafter, hsofar, hperformed⟩ :=
    Task.foldlM_interrupted (p := { disk := d }) hrec.tasks hactions
  rw [heq] at hnames hnodup hwrites ⊢
  have hfiles : ∀ t ∈ before ++ after, IsFileName t.fileName := fun t ht => (hnames t ht).1
  have hstart : d.Reaches folder ∨ before ≠ [] ∧ ∀ t ∈ before, ∃ u, t = .write u := by
    by_cases hreach : d.Reaches folder
    · exact .inl hreach
    · refine .inr ⟨?_, fun t ht => hwrites hreach t (List.mem_append_left _ ht)⟩
      rintro rfl
      cases hbefore
      exact hdone hsofar.symm
  obtain ⟨hfiles₁, -⟩ := List.forall_mem_append.1 hfiles
  have halt : Disk.AlteredIn folder (· ∈ before.map Task.fileName) d m.disk :=
    Task.foldlM_altered (p := { disk := d }) h.sound hfiles₁ hbefore
  refine ⟨m.disk, hperformed, halt.sound h.sound, ?_, ?_, ?_⟩
  · exact Task.reaches_of_foldlM (p := { disk := d }) h.sound hfiles₁ hstart hbefore
  · exact manifest_of_altered h.sound (fun t ht => (hnames t (List.mem_append_left _ ht)).2) halt
  · exact Task.foldlM_resumed (p := { disk := d }) h.sound hfiles hnodup hstart hbefore hafter

/-- After a writing that is not interrupted, its units can be written once more. -/
lemma completed (h : Regular folder units d) (hrec : Recorded folder units options d previous p₂ p) :
    ∃ q, (units.map Task.write).foldlM (Task.run folder) { disk := p.disk } = .ok q ∧
      ∀ l, q.disk.content? l = p.disk.content? l := by
  obtain ⟨hp₂, hreach₂, -⟩ := h.ended hrec
  have hnames : ∀ t ∈ options.tasks previous units, IsFileName t.fileName ∧ t.fileName ≠ manifestName :=
    h.tasks_named hrec.read
  have hnodup : ((options.tasks previous units).map Task.fileName).Nodup := h.tasks_nodup hrec.read
  have hrun := hrec.tasks
  unfold WriteOptions.tasks at hnames hnodup hrun
  have hfiles := fun t ht => (hnames t ht).1
  obtain ⟨hwritefiles, hremovefiles⟩ := List.forall_mem_append.1 hfiles
  rw [List.map_append, List.nodup_append] at hnodup
  obtain ⟨hwritenodup, -, hdisjoint⟩ := hnodup
  have halt := Disk.alteredIn_save hp₂ isFileName_manifestName hrec.saved
  have hp := halt.sound hp₂
  have hreach := halt.reaches hp₂ hreach₂
  rw [List.foldlM_append] at hrun
  obtain ⟨p₁, hwritten, hremoved⟩ := bind_ok hrun
  have hp₁ : p₁.disk.Sound :=
    (Task.foldlM_altered (p := { disk := d }) h.sound hwritefiles hwritten).sound h.sound
  have hrepeat : ∀ t ∈ units.map Task.write,
      Task.Repeatable folder t (p.disk.content? (folder.resolve [] ++ [t.fileName]))
        (p.disk.content? (folder.resolve [] ++ [t.fileName])) := by
    intro t ht
    have hreach₁ : p₁.disk.Reaches folder :=
      Task.reaches_of_foldlM (p := { disk := d }) h.sound hwritefiles
        (.inr ⟨List.ne_nil_of_mem ht, forall_mem_map_write⟩) hwritten
    -- neither a stale unit nor the manifest is in the place of a unit
    rw [sameBut_of_save hp₂ hreach₂ hrec.saved _ (by simpa using (hnames t (List.mem_append_left _ ht)).2),
      (Task.foldlM_altered hp₁ hremovefiles hremoved).content?_child hp₁ hreach₁
        fun hmem => hdisjoint _ (List.mem_map_of_mem ht) _ hmem rfl]
    exact Task.repeatable_of_foldlM (p := { disk := d }) h.sound hwritefiles hwritenodup
      (.inr forall_mem_map_write) hwritten t ht _ (.inl rfl)
  exact Task.foldlM_of_repeatable (q := { disk := p.disk }) hp hreach hwritefiles hwritenodup hrepeat
    fun _ _ => rfl

/-! ## When the second writing ends like the first one -/

/-- Once its tasks are run, a second writing ends like the first one. -/
lemma exists_retry (h : Regular folder units d) (hrec : Recorded folder units options d previous p₂ p)
    (hm : previousUnits d' folder = .ok m)
    (hrun : (options.tasks m units).foldlM (Task.run folder) { disk := d' } = .ok q₂)
    (hq₂ : q₂.disk.Sound) (hreach : q₂.disk.Reaches folder) (hsame : SameBut folder p₂.disk q₂.disk)
    (hne : q₂.disk.content? (folder.resolve [] ++ [manifestName]) ≠ some .folder)
    (hfile : m.Perm (unitDigests units) →
      (q₂.disk.file? (folder.resolve [] ++ [manifestName])).isSome = true) :
    ∃ q, writeUnits d' folder units options = .ok q ∧ SameOutput folder p.disk q.disk := by
  obtain ⟨hp₂, hreach₂, -⟩ := h.ended hrec
  have hreal := hrec.real
  rw [WriteOptions.tasks, Task.foldlM_tasks] at hrun
  obtain ⟨q₁, hwritten, hremoved⟩ := bind_ok hrun
  have hend : writeUnits d' folder units options =
      if q₂.changed || !m.same (unitDigests units) then
        q₂.act false (.record folder ⟨options.fingerprint, unitDigests units⟩)
      else .ok q₂ := by
    rw [← hreal] at hwritten hremoved ⊢
    exact writeUnits_eq hm hwritten hremoved
  -- the manifest of each of the two lists the units
  have hlisted {q : Progress} (hq : writeUnits d' folder units options = .ok q) :
      ∃ m m', previousUnits p.disk folder = .ok m ∧ previousUnits q.disk folder = .ok m' ∧ m.Perm m' := by
    obtain ⟨m, hm, hperm⟩ := listed_of_writeUnits hreal hrec.written
    obtain ⟨m', hm', hperm'⟩ := listed_of_writeUnits hreal hq
    exact ⟨m, m', hm, hm', hperm.trans hperm'.symm⟩
  have hfirst := sameBut_of_save hp₂ hreach₂ hrec.saved
  have hsame' : SameBut folder p.disk q₂.disk := fun l hl => (hsame l hl).trans (hfirst l hl).symm
  cases hstore : q₂.changed || !m.same (unitDigests units) with
  | true =>
    rw [hstore, if_pos rfl] at hend
    have hsave : q₂.disk.save (folder.child manifestName)
        (Text.Utf8.encodeText (Manifest.mk options.fingerprint (unitDigests units)).text) = .ok _ :=
      Disk.save_again isFileName_manifestName hrec.saved hreach hne
    have hact := hend
    unfold Progress.act at hact
    rw [if_neg Bool.false_ne_true, perform_record, hsave] at hact
    refine ⟨_, hact, ?_, ?_, hlisted hact⟩
    · intro l hl
      exact (sameBut_of_save hq₂ hreach hsave l hl).trans (hsame' l hl)
    · rw [file?_of_save hrec.saved, file?_of_save hsave]
  | false =>
    rw [hstore, if_neg Bool.false_ne_true] at hend
    obtain ⟨-, hsamemap⟩ := Bool.or_eq_false_iff.1 hstore
    have hperm : m.Perm (unitDigests units) :=
      (DigestMap.same_iff_perm (nodup_previousUnits hm) (nodup_unitDigests units)).1 (by simpa using hsamemap)
    refine ⟨q₂, hend, hsame', ?_, hlisted hend⟩
    rw [file?_of_save hrec.saved, hfile hperm]

/-- A writing that is begun anew after it was completed. -/
lemma retry_completed (h : Regular folder units d) (hrec : Recorded folder units options d previous p₂ p) :
    ∃ q, writeUnits p.disk folder units options = .ok q ∧ SameOutput folder p.disk q.disk := by
  obtain ⟨hp₂, hreach₂, -⟩ := h.ended hrec
  obtain ⟨m, hm, hperm⟩ := listed_of_writeUnits hrec.real hrec.written
  obtain ⟨q, hagain, hsame⟩ := h.completed hrec
  have halt := Disk.alteredIn_save hp₂ isFileName_manifestName hrec.saved
  have hfile : (q.disk.file? (folder.resolve [] ++ [manifestName])).isSome = true := by
    rw [Disk.file?_congr (hsame _)]
    exact file?_of_save hrec.saved
  refine h.exists_retry hrec hm ?_ ((halt.sound hp₂).congr hsame) ?_ ?_ ?_ fun _ => hfile
  · rw [WriteOptions.tasks, stale_of_perm hperm, List.map_nil, List.append_nil]
    exact hagain
  · exact (halt.reaches hp₂ hreach₂).congr hsame
  · intro l hl
    rw [hsame, sameBut_of_save hp₂ hreach₂ hrec.saved l hl]
  · intro hfolder
    rw [Disk.file?, hfolder] at hfile
    cases hfile

/-- A writing that is begun anew after it was stopped, with the units that the manifest lists then. -/
lemma retry_stopped (h : Regular folder units d) (hrec : Recorded folder units options d previous p₂ p)
    (hunits : unitsAt d folder = .ok m) (hm : previousUnits d' folder = .ok m)
    (hne : m.Perm (unitDigests units) → m ≠ [])
    (hrun : (options.tasks m units).foldlM (Task.run folder) { disk := d' } = .ok q)
    (hsame : ∀ l, q.disk.content? l = p₂.disk.content? l) :
    ∃ q, writeUnits d' folder units options = .ok q ∧ SameOutput folder p.disk q.disk := by
  obtain ⟨hp₂, hreach₂, hfile₂⟩ := h.ended hrec
  refine h.exists_retry hrec hm hrun (hp₂.congr hsame) (hreach₂.congr hsame) ?_ ?_ ?_
  · exact fun l _ => hsame l
  · rw [hsame]
    exact Disk.ne_folder_of_save isFileName_manifestName hrec.saved hreach₂
  · intro hperm
    rw [Disk.file?_congr (hsame _), hfile₂]
    exact file?_of_unitsAt hunits (hne hperm)

/-- Where stale units are missing after the first writing, a second one has nothing to take away. -/
lemma tasks_of_missing (h : Regular folder units d) (hrec : Recorded folder units options d previous p₂ p)
    (hm : unitsAt d folder = .ok m)
    (hmissing : ∀ name ∈ options.stale m units, p.disk.has (folder.child name) = .ok false)
    (hrun : (units.map Task.write).foldlM (Task.run folder) { disk := d' } = .ok q)
    (hsame : ∀ l, q.disk.content? l = p₂.disk.content? l) :
    (options.tasks m units).foldlM (Task.run folder) { disk := d' } = .ok q := by
  obtain ⟨hp₂, hreach₂, -⟩ := h.ended hrec
  have hreach := (Disk.alteredIn_save hp₂ isFileName_manifestName hrec.saved).reaches hp₂ hreach₂
  rw [List.foldlM_map] at hrun
  rw [WriteOptions.tasks, Task.foldlM_tasks]
  refine Eq.trans (congrArg (· >>= _) hrun) (Task.foldlM_remove_of_missing ?_)
  intro name hname
  obtain ⟨hfilename, hother⟩ : IsFileName name ∧ name ≠ manifestName := h.stale hm name hname
  refine has_congr (Disk.look_child_congr hfilename hreach (hreach₂.congr hsame) ?_) (hmissing name hname)
  rw [hsame, sameBut_of_save hp₂ hreach₂ hrec.saved _ (by simpa using hother)]

/-- Where a writing that is begun anew ends like the first one, it finds no stale unit that the first one left. -/
lemma missing_of_retry (h : Regular folder units d') (hreal : options.dryRun = false)
    (hreach : d'.Reaches folder) (hp : p.disk.Reaches folder) (hm : previousUnits d' folder = .ok m)
    (hwrite : writeUnits d' folder units options = .ok q) (hsame : SameOutput folder p.disk q.disk) :
    ∀ name ∈ options.stale m units, p.disk.has (folder.child name) = .ok false := by
  intro name hname
  have hnames : ∀ t ∈ options.tasks m units, IsFileName t.fileName ∧ t.fileName ≠ manifestName :=
    h.tasks_named hm
  rw [WriteOptions.tasks, List.forall_mem_append, List.forall_mem_map, List.forall_mem_map] at hnames
  obtain ⟨hunits, hstale⟩ := hnames
  obtain ⟨m', q₁, q₂, hm', hwritten, hremoved, hlast⟩ := writeUnits_ok hwrite
  obtain rfl : m' = m := Except.ok.inj (hm'.symm.trans hm)
  rw [hreal] at hwritten hremoved hlast
  obtain ⟨halt₁, -, -⟩ := Progress.foldlM_writeUnit h.sound (fun u hu => (hunits u hu).1) h.nodup hwritten
  have hq₁ := halt₁.sound h.sound
  have hreach₁ := halt₁.reaches h.sound hreach
  have hnodup : (options.stale m' units).Nodup := nodup_stale (nodup_previousUnits hm)
  obtain ⟨halt₂, -⟩ := Progress.foldlM_removeUnit hq₁ (fun name hname => (hstale name hname).1) hnodup hremoved
  have hq₂ := halt₂.sound hq₁
  have hreach₂ := halt₂.reaches hq₁ hreach₁
  have hmissing := Task.missing_of_foldlM_remove hq₁ hreach₁ (fun name hname => (hstale name hname).1) hnodup
    hremoved name hname
  have halt₃ := altered_of_last hq₂ hlast
  obtain ⟨hfilename, hother⟩ : IsFileName name ∧ name ≠ manifestName := hstale name hname
  have hmissing' := has_congr (halt₃.look_child hq₂ hreach₂ hfilename hother) hmissing
  refine has_congr (Disk.look_child_congr hfilename (halt₃.reaches hq₂ hreach₂) hp ?_) hmissing'
  exact (hsame.files _ (by simpa using hother)).symm

/-- On a path without a step back, a manifest is there only if the directory is reached. -/
lemma unitsAt_of_not_reaches (h : Regular folder units d) (hrec : Recorded folder units options d previous p₂ p)
    (hback : ".." ∉ folder.names) (hnot : ¬ d.Reaches folder) : unitsAt d folder = .ok [] := by
  obtain ⟨-, hreach₂, -⟩ := h.ended hrec
  have hnone : d.content? (folder.resolve [] ++ [manifestName]) = none :=
    Disk.content?_child_of_not_reaches h.sound hnot hback (Disk.short_of_locateFrom hreach₂.1)
  rw [unitsAt, Disk.file?, hnone]

/-- A writing that is stopped in a directory it did not reach at first ends like one that is not interrupted
exactly if the manifest in the place of the directory lists no stale unit that is still there. -/
lemma retry_iff (h : Regular folder units d) (hrec : Recorded folder units options d previous p₂ p)
    (hnot : ¬ d.Reaches folder) (hd' : d'.Sound) (hreach' : d'.Reaches folder)
    (hfile : d'.file? (folder.resolve [] ++ [manifestName]) = d.file? (folder.resolve [] ++ [manifestName]))
    (hrun : (options.tasks previous units).foldlM (Task.run folder) { disk := d' } = .ok q₂)
    (hsame : ∀ l, q₂.disk.content? l = p₂.disk.content? l) :
    (∃ q, writeUnits d' folder units options = .ok q ∧ SameOutput folder p.disk q.disk) ↔
      ∃ m, unitsAt d folder = .ok m ∧
        ∀ name ∈ options.stale m units, p.disk.has (folder.child name) = .ok false := by
  obtain ⟨hp₂, hreach₂, -⟩ := h.ended hrec
  have hread : previousUnits d' folder = unitsAt d folder := by
    rw [previousUnits_eq_unitsAt hrec.saved hreach', unitsAt_congr hfile]
  constructor
  · rintro ⟨q, hq, houtput⟩
    obtain ⟨m, -, -, hm, -⟩ := writeUnits_ok hq
    have hreach := (Disk.alteredIn_save hp₂ isFileName_manifestName hrec.saved).reaches hp₂ hreach₂
    refine ⟨m, hread.symm.trans hm, ?_⟩
    exact (h.congr hd' hfile).missing_of_retry hrec.real hreach' hreach hm hq houtput
  · rintro ⟨m, hm, hmissing⟩
    rw [tasks_of_not_reaches hrec.read hnot] at hrun
    have hunits : units ≠ [] := fun hnone =>
      hrec.listed hnone (Except.ok.inj (hrec.read.symm.trans (previousUnits_of_not_reaches hnot)))
    exact h.retry_stopped hrec hm (hread.trans hm) (ne_nil_of_perm hunits)
      (h.tasks_of_missing hrec hm hmissing hrun hsame) hsame

/-- In a directory that is reached, a writing that is stopped ends like one that is not. -/
lemma retry_of_reaches (h : Regular folder units d) (hrec : Recorded folder units options d previous p₂ p)
    (hreach : d.Reaches folder) (hreach' : d'.Reaches folder)
    (hfile : d'.file? (folder.resolve [] ++ [manifestName]) = d.file? (folder.resolve [] ++ [manifestName]))
    (hrun : (options.tasks previous units).foldlM (Task.run folder) { disk := d' } = .ok q₂)
    (hsame : ∀ l, q₂.disk.content? l = p₂.disk.content? l) :
    ∃ q, writeUnits d' folder units options = .ok q ∧ SameOutput folder p.disk q.disk := by
  have hm : unitsAt d folder = .ok previous := by
    rw [← previousUnits_eq_unitsAt hrec.saved hreach]
    exact hrec.read
  have hread : previousUnits d' folder = .ok previous := by
    rw [previousUnits_eq_unitsAt hrec.saved hreach', unitsAt_congr hfile]
    exact hm
  refine h.retry_stopped hrec hm hread ?_ hrun hsame
  intro hperm
  by_cases hunits : units = []
  · exact hrec.listed hunits
  · exact ne_nil_of_perm hunits hperm

end Regular

/-- A writing that is interrupted after some of its actions and then begun anew ends like one that is not
interrupted, with the same files and the same units in the manifest, exactly if the directory was reached, or
nothing or everything was done, or the manifest in the place of the directory lists no stale unit that is still
there.  So it always does where the path has no step back. -/
theorem retry_after_interruption (hreal : options.dryRun = false) (hregular : Regular folder units d)
    (h : writeUnits d folder units options = .ok p) (hactions : p.actions = done ++ rest) :
    ∃ d', performAll d done = .ok d' ∧
      ((∃ q, writeUnits d' folder units options = .ok q ∧ SameOutput folder p.disk q.disk) ↔
        d.Reaches folder ∨ done = [] ∨ rest = [] ∨
          ∃ m, unitsAt d folder = .ok m ∧
            ∀ name ∈ options.stale m units, p.disk.has (folder.child name) = .ok false) ∧
      (".." ∉ folder.names →
        ∃ q, writeUnits d' folder units options = .ok q ∧ SameOutput folder p.disk q.disk) := by
  by_cases hdone : done = []
  · -- nothing was done
    subst hdone
    obtain ⟨m, hm, -⟩ := listed_of_writeUnits hreal h
    have hsame : ∃ q, writeUnits d folder units options = .ok q ∧ SameOutput folder p.disk q.disk :=
      ⟨p, h, fun _ _ => rfl, rfl, m, m, hm, hm, .refl m⟩
    exact ⟨d, rfl, iff_of_true hsame (.inr (.inl rfl)), fun _ => hsame⟩
  have hne : p.actions ≠ [] := by
    rw [hactions]
    exact fun hnil => hdone (List.append_eq_nil_iff.1 hnil).1
  obtain ⟨previous, p₂, hrec⟩ := recorded_of_actions hreal h hne
  rcases List.eq_nil_or_concat rest with rfl | ⟨rest', last, rfl⟩
  · -- everything was done
    obtain ⟨later, hlater, hperformed⟩ := Task.foldlM_performs (p := { disk := d }) hrec.tasks
    have hagain := hregular.retry_completed hrec
    refine ⟨p.disk, ?_, iff_of_true hagain (.inr (.inr (.inl rfl))), fun _ => hagain⟩
    rw [List.append_nil, hrec.actions, hlater] at hactions
    rw [← hactions]
    refine performAll_concat hperformed ?_
    rw [perform_record]
    exact hrec.saved
  · rw [hrec.actions, List.concat_eq_append, ← List.append_assoc] at hactions
    obtain ⟨hactions₂, -⟩ := List.append_inj' hactions rfl
    obtain ⟨d', hperformed, hd', hreach', hfile, q₂, hagain, hsame⟩ := hregular.stopped hrec hactions₂ hdone
    refine ⟨d', hperformed, ?_⟩
    by_cases hreach : d.Reaches folder
    · have hretry := hregular.retry_of_reaches hrec hreach hreach' hfile hagain hsame
      exact ⟨iff_of_true hretry (.inl hreach), fun _ => hretry⟩
    · have hiff := hregular.retry_iff hrec hreach hd' hreach' hfile hagain hsame
      refine ⟨hiff.trans ?_, ?_⟩
      · simp [hreach, hdone]
      · intro hback
        refine hiff.2 ⟨[], hregular.unitsAt_of_not_reaches hrec hback hreach, ?_⟩
        rw [stale_nil]
        exact fun _ hmem => absurd hmem List.not_mem_nil

/-- A way through a directory that may be missing, and back. -/
def backOut : Path := ⟨.top, ["new", "..", "out"]⟩

/-- A disk with a unit in the directory `out` and a manifest that lists it. -/
def listedOut : Disk :=
  ((Disk.empty.put ["out"] .folder).put ["out", "S.g.cs"] (.file [115])).put ["out", "manifest.json"]
    (.file (Text.Utf8.encodeText (Manifest.mk "" [("S.g.cs", "")]).text))

/-- Another unit than the listed one. -/
def otherUnits : List SourceUnit :=
  [{ hintName := "A.g.cs", text := "a" }]

/-- The manifest is in the place to which the way resolves. -/
lemma unitsAt_listedOut : unitsAt listedOut backOut = .ok [("S.g.cs", "")] := by
  have hfile : listedOut.file? (backOut.resolve [] ++ [manifestName]) =
      some (Text.Utf8.encodeText (Manifest.mk "" [("S.g.cs", "")]).text) := rfl
  rw [unitsAt, hfile]
  dsimp only
  rw [Manifest.unitsOfBytes_text (by decide), DigestMap.sorted, List.mergeSort_singleton]
  rfl

/-- The way cannot be followed. -/
lemma not_reaches_listedOut : ¬ listedOut.Reaches backOut := by
  intro hreach
  cases hreach.1

/-- All names are plain. -/
lemma regular_listedOut : Regular backOut otherUnits listedOut := by
  refine ⟨?_, ?_, by decide, ?_⟩
  · exact ((Disk.sound_empty.put rfl (by decide)).put rfl (by decide)).put rfl (by decide)
  · rw [otherUnits, List.forall_mem_singleton]
    decide
  · rw [unitsAt_listedOut]
    rintro m hm
    cases hm
    rw [List.map_singleton, List.forall_mem_singleton]
    decide

/-- Where the way leads through a directory that is missing and back, a writing that is not interrupted leaves a
stale unit, and one that stops after the first unit takes it away when it is begun anew. -/
theorem retry_takes_more_away :
    ∃ p action rest d', writeUnits listedOut backOut otherUnits {} = .ok p ∧ p.actions = [action] ++ rest ∧
      performAll listedOut [action] = .ok d' ∧
      ¬ ∃ q, writeUnits d' backOut otherUnits {} = .ok q ∧ SameOutput backOut p.disk q.disk := by
  obtain ⟨p, hp⟩ : ∃ p, writeUnits listedOut backOut otherUnits {} = .ok p :=
    exists_ok_of_isSome (by decide +kernel)
  have hlength : ((writeUnits listedOut backOut otherUnits {}).toOption.map (·.actions.length)) = some 2 := by
    decide +kernel
  have hfound : ((writeUnits listedOut backOut otherUnits {}).toOption.map
      fun p => (p.disk.has (backOut.child "S.g.cs")).toOption) = some (some true) := by
    decide +kernel
  rw [hp] at hlength hfound
  obtain ⟨action, last, htwo⟩ := List.length_eq_two.1 (Option.some.inj hlength)
  have hactions : p.actions = [action] ++ [last] := htwo
  obtain ⟨d', hperformed, hretry, -⟩ := retry_after_interruption rfl regular_listedOut hp hactions
  refine ⟨p, action, [last], d', hp, hactions, hperformed, ?_⟩
  rw [hretry]
  rintro (hreach | hdone | hrest | ⟨m, hm, hmissing⟩)
  · exact not_reaches_listedOut hreach
  · cases hdone
  · cases hrest
  · obtain rfl := Except.ok.inj (unitsAt_listedOut.symm.trans hm)
    have hgone := hmissing "S.g.cs" (mem_staleNames.2 (by decide))
    simp [Except.toOption, hgone] at hfound

end PropertyQuote.Project
