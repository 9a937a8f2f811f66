import PropertyQuote.Proofs.Output.Interruption
import PropertyQuote.Proofs.Output.Series

/-!
# Units that are to be taken away later

A writing need not take away the units that are no longer generated.  It stores a manifest all the same, which lists
its own units and no others, and so a later writing does not know of the units that were left.  They stay for good.

* `UpToDate.next`: what one call preserves, whether or not it prunes.
* `UpToDate.succeeds_iff`: pruning is never the reason why a writing fails.
* `UpToDate.without`: what a writing that prunes leaves, compared with one that does not.
* `writeUnits_twice`: a second writing of the same units changes nothing, whether or not it prunes.
* `postponed_prune_is_lost`: the files that a postponed pruning leaves.
-/

namespace PropertyQuote.Project

variable {d d' : Disk} {folder : Path} {units last : List SourceUnit} {p p₁ q : Progress} {names : List String}
  {name fingerprint : String} {m : DigestMap} {b b' : Bool}

/-! ## Calls that may leave units -/

/-- The call writes to the disk, and its units have different plain names. -/
structure Call.Real (c : Call folder) : Prop where
  real : c.options.dryRun = false
  nodup : c.names.Nodup
  named : ∀ u ∈ c.units, IsFileName u.hintName ∧ u.hintName ≠ manifestName

/-- A directory holds some units, and its manifest lists these units and no others. -/
structure UpToDate (folder : Path) (units : List SourceUnit) (d : Disk) : Prop where
  sound : d.Sound
  named : ∀ u ∈ units, IsFileName u.hintName ∧ u.hintName ≠ manifestName
  reads : ∀ u ∈ units, ∃ cs, readText d (folder.child u.hintName) = .ok cs
  listed : ∃ m, previousUnits d folder = .ok m ∧ unitsAt d folder = .ok m ∧ m.Perm (unitDigests units)

/-- A directory without a manifest is up to date with no units. -/
lemma upToDate_start (hd : d.Sound) (hfresh : unitsAt d folder = .ok []) : UpToDate folder [] d := by
  refine ⟨hd, fun _ => nofun, fun _ => nofun, [], ?_, hfresh, .nil⟩
  rcases previousUnits_cases d folder with heq | heq
  · rw [heq, hfresh]
  · exact heq

/-- The names that the manifest lists are those of the units. -/
lemma mem_map_of_perm (h : m.Perm (unitDigests units)) :
    name ∈ m.map Prod.fst ↔ name ∈ units.map SourceUnit.hintName := by
  rw [(h.map Prod.fst).mem_iff, mem_unitDigests]

namespace UpToDate

/-- What an up-to-date manifest lists has plain names. -/
lemma named_of_listed (h : UpToDate folder last d) (hperm : m.Perm (unitDigests last)) :
    ∀ name ∈ m.map Prod.fst, IsFileName name ∧ name ≠ manifestName := by
  intro name hname
  obtain ⟨u, hu, rfl⟩ := List.mem_map.1 ((mem_map_of_perm hperm).1 hname)
  exact h.named u hu

/-- What is known of a directory is known after one more call. -/
lemma next {c : Call folder} (h : UpToDate folder last c.before) (hc : c.Real) :
    UpToDate folder c.units c.after.disk := by
  obtain ⟨m, hprevious, hat, hperm⟩ := h.listed
  have hdone : Delivered folder c.units (c.options.stale m c.units) c.before c.after.disk :=
    delivered_of_writeUnits h.sound hc.real hc.named hc.nodup hprevious (h.named_of_listed hperm) c.success
  refine ⟨hdone.altered.sound h.sound, hc.named, fun u hu => ⟨_, hdone.reads u hu⟩, ?_⟩
  rcases stored_or_quiet hc.real c.success with ⟨-, disk, hsave⟩ | ⟨⟨m', hm', hperm'⟩, hquiet⟩
  · have hlisted := previousUnits_of_save (nodup_unitDigests c.units) hsave
    have hreach := (Disk.look_of_save isFileName_manifestName hsave).1
    refine ⟨_, hlisted, ?_, DigestMap.sorted_perm _⟩
    rw [← previousUnits_eq_unitsAt hsave hreach, hlisted]
  · obtain rfl : m = m' := Except.ok.inj (hprevious.symm.trans hm')
    rw [hquiet]
    exact ⟨m, hprevious, hat, hperm'⟩

end UpToDate

/-- The units of the last call. -/
def lastUnits (calls : List (Call folder)) : List SourceUnit :=
  (calls.getLast?.map Call.units).getD []

/-- After a series of real calls a directory is up to date with the units of the last one. -/
lemma upToDate_of_series {calls : List (Call folder)} (hd : d.Sound) (hfresh : unitsAt d folder = .ok [])
    (hreal : ∀ c ∈ calls, c.Real) (h : Series folder d calls d') : UpToDate folder (lastUnits calls) d' := by
  induction h with
  | start => exact upToDate_start hd hfresh
  | next hcalls ih =>
    rw [List.forall_mem_append, List.forall_mem_singleton] at hreal
    rw [lastUnits, List.getLast?_concat]
    exact (ih hreal.1).next hreal.2

/-! ## Disks without some files -/

/-- The second disk is the first one without the files of some names in a directory. -/
structure Without (folder : Path) (names : List String) (d d' : Disk) : Prop where
  gone : ∀ name ∈ names, d'.content? (folder.resolve [] ++ [name]) = none
  others : ∀ l, (∀ name ∈ names, l ≠ folder.resolve [] ++ [name]) → d'.content? l = d.content? l

/-- Without no files a disk is the same. -/
lemma without_nil (h : ∀ l, d'.content? l = d.content? l) : Without folder [] d d' :=
  ⟨fun _ => nofun, fun l _ => h l⟩

/-- Files of other names are the same. -/
lemma Without.content?_child (h : Without folder names d d') (hname : name ∉ names) :
    d'.content? (folder.resolve [] ++ [name]) = d.content? (folder.resolve [] ++ [name]) := by
  apply h.others
  intro name' hname' heq
  obtain rfl : name = name' := by simpa using heq
  exact hname hname'

/-- Files that are found can be removed one after the other. -/
lemma foldlM_removeUnit_of_look (hd : p.disk.Sound) (hnames : ∀ name ∈ names, IsFileName name)
    (hnodup : names.Nodup)
    (hfound : ∀ name ∈ names, ∃ bytes, p.disk.look (folder.child name) = .ok (.file bytes)) :
    ∃ p', names.foldlM (Progress.removeUnit folder false) p = .ok p' := by
  induction names generalizing p with
  | nil => exact ⟨p, rfl⟩
  | cons name names ih =>
    obtain ⟨hname, hnames⟩ := List.forall_mem_cons.1 hnames
    obtain ⟨⟨bytes, hlook⟩, hfound⟩ := List.forall_mem_cons.1 hfound
    rw [List.nodup_cons] at hnodup
    obtain ⟨disk, hremove⟩ := Disk.remove_of_look hlook
    have hhas : p.disk.has (folder.child name) = .ok true := Disk.has_eq_ok_iff.2 (.inl ⟨rfl, _, hlook⟩)
    have hstep := Progress.removeUnit_of_remove hhas hremove
    obtain ⟨halt, -⟩ := Progress.removeUnit_altered hname hstep
    rw [List.foldlM_cons, hstep]
    refine ih (halt.sound hd) hnames hnodup.2 ?_
    intro other hother
    obtain ⟨bytes', hlook'⟩ := hfound other hother
    refine ⟨bytes', ?_⟩
    rw [halt.look_child hd (Disk.look_child_ok hname hlook).1 (hnames other hother), hlook']
    rintro rfl
    exact hnodup.1 hother

/-- Files that are found can be taken away, and then nothing else is different. -/
lemma exists_without (hd : p.disk.Sound) (hreach : p.disk.Reaches folder)
    (hnames : ∀ name ∈ names, IsFileName name) (hnodup : names.Nodup)
    (hfound : ∀ name ∈ names, ∃ bytes, p.disk.look (folder.child name) = .ok (.file bytes)) :
    ∃ p', names.foldlM (Progress.removeUnit folder false) p = .ok p' ∧ p'.disk.Sound ∧
      p'.disk.Reaches folder ∧ Without folder names p.disk p'.disk := by
  obtain ⟨p', hrun⟩ := foldlM_removeUnit_of_look hd hnames hnodup hfound
  obtain ⟨halt, hgone⟩ := Progress.foldlM_removeUnit hd hnames hnodup hrun
  refine ⟨p', hrun, halt.sound hd, halt.reaches hd hreach, ?_, ?_⟩
  · intro name hname
    obtain ⟨bytes, hlook⟩ := hfound name hname
    exact hgone name hname ⟨_, hlook⟩
  · exact fun l hl => halt.content?_elsewhere hd hreach hl

/-! ## Storing the manifest on disks without some files -/

/-- A manifest that can be saved is recorded. -/
lemma Progress.act_record {disk : Disk} {manifest : Manifest}
    (h : p.disk.save (folder.child manifestName) (Text.Utf8.encodeText manifest.text) = .ok disk) :
    p.act false (.record folder manifest) =
      .ok { p with disk, actions := p.actions ++ [.record folder manifest] } := by
  rw [act, if_neg Bool.false_ne_true, perform_record, h]

/-- A manifest that is recorded was saved. -/
lemma Progress.save_of_act {manifest : Manifest} (h : p.act false (.record folder manifest) = .ok q) :
    p.disk.save (folder.child manifestName) (Text.Utf8.encodeText manifest.text) = .ok q.disk := by
  obtain ⟨disk, hdisk, rfl⟩ := act_ok h
  rwa [perform_record] at hdisk

/-- The manifest can be stored on one of two disks if it can be stored on the other one. -/
lemma exists_act_of_act {manifest : Manifest} (hreach : p.disk.Reaches folder) (hreach₁ : p₁.disk.Reaches folder)
    (hsame : p₁.disk.content? (folder.resolve [] ++ [manifestName]) =
      p.disk.content? (folder.resolve [] ++ [manifestName]))
    (h : p.act false (.record folder manifest) = .ok q) :
    ∃ q', p₁.act false (.record folder manifest) = .ok q' := by
  have hsave := Progress.save_of_act h
  have hne := Disk.ne_folder_of_save isFileName_manifestName hsave hreach
  exact ⟨_, Progress.act_record (Disk.save_again isFileName_manifestName hsave hreach₁ (hsame ▸ hne))⟩

/-- A manifest that is stored on both disks keeps the difference between them. -/
lemma Without.act {p₂ q₂ : Progress} {manifest : Manifest} (h : Without folder names p.disk p₂.disk)
    (hnot : manifestName ∉ names) (hd : p.disk.Sound) (hreach : p.disk.Reaches folder) (hd₂ : p₂.disk.Sound)
    (hreach₂ : p₂.disk.Reaches folder) (hq : p.act false (.record folder manifest) = .ok q)
    (hq₂ : p₂.act false (.record folder manifest) = .ok q₂) : Without folder names q.disk q₂.disk := by
  have hsave := Progress.save_of_act hq
  have hsave₂ := Progress.save_of_act hq₂
  refine ⟨?_, ?_⟩
  · intro name hname
    rw [sameBut_of_save hd₂ hreach₂ hsave₂, h.gone name hname]
    intro heq
    obtain rfl : name = manifestName := by simpa using heq
    exact hnot hname
  · intro l hl
    by_cases hplace : l = folder.resolve [] ++ [manifestName]
    · -- the same manifest is stored on both disks
      rw [hplace, Disk.content?_of_save isFileName_manifestName hsave,
        Disk.content?_of_save isFileName_manifestName hsave₂]
    · rw [sameBut_of_save hd hreach hsave l hplace, sameBut_of_save hd₂ hreach₂ hsave₂ l hplace, h.others l hl]

/-! ## Writings that prune and writings that do not -/

/-- Where nothing is stale, pruning makes no difference. -/
lemma writeUnits_of_stale_nil (hm : previousUnits d folder = .ok m)
    (hstale : staleNames m (unitDigests units) = []) :
    writeUnits d folder units { fingerprint, prune := b } = writeUnits d folder units { fingerprint, prune := b' } := by
  unfold writeUnits
  rw [hm]
  simp only [Except.mapError, bind, Except.bind, hstale, ite_self]

/-- Where something is stale, the manifest is stored. -/
lemma writeUnits_eq_act {p₂ : Progress} (hm : previousUnits d folder = .ok m)
    (hstale : staleNames m (unitDigests units) ≠ [])
    (hwritten : units.foldlM (Progress.writeUnit folder false) { disk := d } = .ok p₁)
    (hremoved : (if b then staleNames m (unitDigests units) else []).foldlM (Progress.removeUnit folder false) p₁ =
      .ok p₂) :
    writeUnits d folder units { fingerprint, prune := b } =
      p₂.act false (.record folder ⟨fingerprint, unitDigests units⟩) := by
  have hsame : m.same (unitDigests units) = false := by
    rw [← Bool.not_eq_true, DigestMap.same_iff_perm (nodup_previousUnits hm) (nodup_unitDigests units)]
    intro hperm
    have hnone : WriteOptions.stale {} m units = [] := stale_of_perm hperm
    exact hstale hnone
  have hend : writeUnits d folder units { fingerprint, prune := b } =
      if p₂.changed || !m.same (unitDigests units) then
        p₂.act false (.record folder ⟨fingerprint, unitDigests units⟩)
      else .ok p₂ := writeUnits_eq hm hwritten hremoved
  rw [hend, hsame, if_pos (by simp)]

namespace UpToDate

/-- The stale names are those of the last units that are not generated again. -/
lemma mem_staleNames_iff (hperm : m.Perm (unitDigests last)) :
    name ∈ staleNames m (unitDigests units) ↔
      name ∈ last.map SourceUnit.hintName ∧ name ∉ units.map SourceUnit.hintName := by
  rw [mem_staleNames, mem_map_of_perm hperm, mem_unitDigests]

/-- Where something is stale, a writing that prunes goes on from a disk without the stale files. -/
lemma acts (h : UpToDate folder last d) (hnames : ∀ u ∈ units, IsFileName u.hintName ∧ u.hintName ≠ manifestName)
    (hnodup : (units.map SourceUnit.hintName).Nodup) (hm : previousUnits d folder = .ok m)
    (hperm : m.Perm (unitDigests last)) (hstale : staleNames m (unitDigests units) ≠ [])
    (hwritten : units.foldlM (Progress.writeUnit folder false) { disk := d } = .ok p₁) :
    p₁.disk.Sound ∧ p₁.disk.Reaches folder ∧ ∃ p₂ : Progress, p₂.disk.Sound ∧ p₂.disk.Reaches folder ∧
      Without folder (staleNames m (unitDigests units)) p₁.disk p₂.disk ∧
      writeUnits d folder units { fingerprint, prune := true } =
        p₂.act false (.record folder ⟨fingerprint, unitDigests units⟩) ∧
      writeUnits d folder units { fingerprint, prune := false } =
        p₁.act false (.record folder ⟨fingerprint, unitDigests units⟩) := by
  -- the stale units are files of the directory, and the units are written beside them
  have hfound (name : String) (hname : name ∈ staleNames m (unitDigests units)) :
      IsFileName name ∧ d.Reaches folder ∧ name ∉ units.map SourceUnit.hintName ∧
        ∃ bytes, d.look (folder.child name) = .ok (.file bytes) := by
    obtain ⟨hlast, hnot⟩ := (mem_staleNames_iff hperm).1 hname
    obtain ⟨u, hu, rfl⟩ := List.mem_map.1 hlast
    obtain ⟨cs, hread⟩ := h.reads u hu
    obtain ⟨bytes, -, hlook, -⟩ := readText_eq_ok_iff.1 hread
    exact ⟨(h.named u hu).1, reaches_of_readText (h.named u hu).1 hread, hnot, bytes, hlook⟩
  obtain ⟨name₀, hname₀⟩ := List.exists_mem_of_ne_nil _ hstale
  obtain ⟨-, hreach, -⟩ := hfound name₀ hname₀
  obtain ⟨halt, -⟩ := Progress.foldlM_writeUnit h.sound (fun u hu => (hnames u hu).1) hnodup hwritten
  have hp₁ := halt.sound h.sound
  have hreach₁ := halt.reaches h.sound hreach
  have hthere (name : String) (hname : name ∈ staleNames m (unitDigests units)) :
      ∃ bytes, p₁.disk.look (folder.child name) = .ok (.file bytes) := by
    obtain ⟨hfile, -, hnot, bytes, hlook⟩ := hfound name hname
    exact ⟨bytes, (halt.look_child h.sound hreach hfile hnot).trans hlook⟩
  obtain ⟨p₂, hremoved, hp₂, hreach₂, hwithout⟩ := exists_without hp₁ hreach₁
    (fun name hname => (hfound name hname).1) (nodup_staleNames (nodup_previousUnits hm)) hthere
  refine ⟨hp₁, hreach₁, p₂, hp₂, hreach₂, hwithout, ?_, ?_⟩
  · exact writeUnits_eq_act hm hstale hwritten hremoved
  · exact writeUnits_eq_act hm hstale hwritten rfl

/-- The manifest is never stale. -/
lemma manifestName_notMem (h : UpToDate folder last d) (hperm : m.Perm (unitDigests last)) :
    manifestName ∉ staleNames m (unitDigests units) := by
  intro hmem
  exact (h.named_of_listed hperm _ (mem_staleNames.1 hmem).1).2 rfl

/-- A writing that prunes succeeds exactly if one that does not would. -/
lemma succeeds_iff (h : UpToDate folder last d)
    (hnames : ∀ u ∈ units, IsFileName u.hintName ∧ u.hintName ≠ manifestName)
    (hnodup : (units.map SourceUnit.hintName).Nodup) :
    (∃ p, writeUnits d folder units { fingerprint, prune := true } = .ok p) ↔
      ∃ q, writeUnits d folder units { fingerprint, prune := false } = .ok q := by
  obtain ⟨m, hm, -, hperm⟩ := h.listed
  by_cases hstale : staleNames m (unitDigests units) = []
  · rw [writeUnits_of_stale_nil hm hstale]
  have hnot : manifestName ∉ staleNames m (unitDigests units) := h.manifestName_notMem hperm
  constructor
  · rintro ⟨p, hp⟩
    obtain ⟨-, p₁, -, -, hwritten, -⟩ := writeUnits_ok hp
    obtain ⟨hp₁, hreach₁, p₂, hp₂, hreach₂, hwithout, hpruned, hkept⟩ :=
      h.acts hnames hnodup hm hperm hstale hwritten
    rw [hpruned] at hp
    rw [hkept]
    exact exists_act_of_act hreach₂ hreach₁ (hwithout.content?_child hnot).symm hp
  · rintro ⟨q, hq⟩
    obtain ⟨-, p₁, -, -, hwritten, -⟩ := writeUnits_ok hq
    obtain ⟨hp₁, hreach₁, p₂, hp₂, hreach₂, hwithout, hpruned, hkept⟩ :=
      h.acts hnames hnodup hm hperm hstale hwritten
    rw [hkept] at hq
    rw [hpruned]
    exact exists_act_of_act hreach₁ hreach₂ (hwithout.content?_child hnot) hq

/-- A writing that prunes ends like one that does not, but without the stale files. -/
lemma without (h : UpToDate folder last d)
    (hnames : ∀ u ∈ units, IsFileName u.hintName ∧ u.hintName ≠ manifestName)
    (hnodup : (units.map SourceUnit.hintName).Nodup) (hm : previousUnits d folder = .ok m)
    (hperm : m.Perm (unitDigests last))
    (hp : writeUnits d folder units { fingerprint, prune := true } = .ok p)
    (hq : writeUnits d folder units { fingerprint, prune := false } = .ok q) :
    Without folder (staleNames m (unitDigests units)) q.disk p.disk := by
  by_cases hstale : staleNames m (unitDigests units) = []
  · rw [writeUnits_of_stale_nil hm hstale, hq] at hp
    cases hp
    rw [hstale]
    exact without_nil fun _ => rfl
  · obtain ⟨-, p₁, -, -, hwritten, -⟩ := writeUnits_ok hp
    obtain ⟨hp₁, hreach₁, p₂, hp₂, hreach₂, hwithout, hpruned, hkept⟩ :=
      h.acts hnames hnodup hm hperm hstale hwritten
    exact hwithout.act (h.manifestName_notMem hperm) hp₁ hreach₁ hp₂ hreach₂ (hkept.symm.trans hq)
      (hpruned.symm.trans hp)

/-- A writing that does not prune leaves the stale files as they are. -/
lemma stays (h : UpToDate folder last d)
    (hnames : ∀ u ∈ units, IsFileName u.hintName ∧ u.hintName ≠ manifestName)
    (hnodup : (units.map SourceUnit.hintName).Nodup)
    (hq : writeUnits d folder units { fingerprint, prune := false } = .ok q)
    (hlast : name ∈ last.map SourceUnit.hintName) (hnot : name ∉ units.map SourceUnit.hintName) :
    ∃ bytes, d.file? (folder.resolve [] ++ [name]) = some bytes ∧
      q.disk.file? (folder.resolve [] ++ [name]) = some bytes := by
  obtain ⟨m, hm, -, hperm⟩ := h.listed
  have hdone := delivered_of_writeUnits h.sound rfl hnames hnodup hm (h.named_of_listed hperm) hq
  obtain ⟨u, hu, rfl⟩ := List.mem_map.1 hlast
  obtain ⟨cs, hread⟩ := h.reads u hu
  obtain ⟨bytes, -, hlook, -⟩ := readText_eq_ok_iff.1 hread
  obtain ⟨hreach, hfile⟩ := Disk.look_child_ok (h.named u hu).1 hlook
  refine ⟨bytes, Disk.file?_eq_some_iff.2 hfile, Disk.file?_eq_some_iff.2 ?_⟩
  rw [hdone.altered.content?_child h.sound hreach, hfile]
  rintro (hunit | hstale | hmanifest)
  · exact hnot hunit
  · cases hstale
  · exact (h.named u hu).2 hmanifest

/-- Units of plain names can be written to an up-to-date directory. -/
lemma regular (h : UpToDate folder last d)
    (hnames : ∀ u ∈ units, IsFileName u.hintName ∧ u.hintName ≠ manifestName)
    (hnodup : (units.map SourceUnit.hintName).Nodup) : Regular folder units d := by
  refine ⟨h.sound, hnames, hnodup, ?_⟩
  obtain ⟨m, -, hat, hperm⟩ := h.listed
  intro m' hm'
  obtain rfl : m = m' := Except.ok.inj (hat.symm.trans hm')
  exact h.named_of_listed hperm

end UpToDate

/-! ## Writing the same units twice -/

/-- A writing without actions leaves the disk. -/
lemma disk_of_actions_eq_nil {options : WriteOptions} (hreal : options.dryRun = false)
    (h : writeUnits d folder units options = .ok q) (hactions : q.actions = []) : q.disk = d := by
  obtain ⟨previous, p₁, p₂, hprevious, hwritten, hremoved, hlast⟩ := writeUnits_ok h
  rw [hreal] at hwritten hremoved hlast
  rcases hlast with ⟨-, hact⟩ | ⟨hquiet, rfl⟩
  · obtain ⟨disk, -, rfl⟩ := Progress.act_ok hact
    simp at hactions
  · rw [(eq_of_quiet hprevious hwritten hremoved hquiet).2]

/-- A second writing of the same units leaves every file as it is, whether or not the two of them prune. -/
lemma writeUnits_twice (b' : Bool) (hregular : Regular folder units d)
    (h : writeUnits d folder units { fingerprint, prune := b } = .ok q) :
    ∃ r, writeUnits q.disk folder units { fingerprint, prune := b' } = .ok r ∧
      ∀ l, r.disk.content? l = q.disk.content? l := by
  -- the manifest lists the units by now, so nothing is stale
  obtain ⟨m, hm, hperm⟩ := listed_of_writeUnits rfl h
  have hstale : WriteOptions.stale {} m units = [] := stale_of_perm hperm
  have halike : writeUnits q.disk folder units { fingerprint, prune := b' } =
      writeUnits q.disk folder units { fingerprint, prune := b } := writeUnits_of_stale_nil hm hstale
  rw [halike]
  by_cases hactions : q.actions = []
  · have hdisk := disk_of_actions_eq_nil rfl h hactions
    rw [hdisk]
    exact ⟨q, h, fun l => by rw [hdisk]⟩
  · obtain ⟨previous, p₂, hrec⟩ := recorded_of_actions rfl h hactions
    obtain ⟨r, hr, hsame⟩ := hregular.retry_completed hrec
    refine ⟨r, hr, ?_⟩
    rcases stored_or_quiet rfl hr with ⟨-, disk, hsave⟩ | ⟨-, hquiet⟩
    · intro l
      by_cases hplace : l = folder.resolve [] ++ [manifestName]
      · -- both writings store the same manifest
        rw [hplace, Disk.content?_of_save isFileName_manifestName hsave,
          Disk.content?_of_save isFileName_manifestName hrec.saved]
      · exact hsame.files l hplace
    · rw [hquiet]
      exact fun _ => rfl

/-! ## Pruning later -/

/-- The names of the units of the last call that are not generated any more. -/
def leftOver (calls : List (Call folder)) (units : List SourceUnit) : List String :=
  ((lastUnits calls).map SourceUnit.hintName).filter (· ∉ units.map SourceUnit.hintName)

/-- A name is left over if it is one of the last units and of no new one. -/
lemma mem_leftOver {calls : List (Call folder)} : name ∈ leftOver calls units ↔
    name ∈ (lastUnits calls).map SourceUnit.hintName ∧ name ∉ units.map SourceUnit.hintName := by
  rw [leftOver, List.mem_filter, decide_eq_true_iff]

/-- After any series of calls, a writing that prunes succeeds exactly if one that does not would.  If the pruning is
left to a second writing, that one succeeds too, but it takes nothing away: the files of the last call that are not
generated any more stay, and all other files are as if the first writing had pruned.  So the two ways end with the
same files exactly if every unit of the last call is generated again. -/
theorem postponed_prune_is_lost {calls : List (Call folder)} (hd : d.Sound) (hfresh : unitsAt d folder = .ok [])
    (hreal : ∀ c ∈ calls, c.Real) (hseries : Series folder d calls d')
    (hnames : ∀ u ∈ units, IsFileName u.hintName ∧ u.hintName ≠ manifestName)
    (hnodup : (units.map SourceUnit.hintName).Nodup) :
    ((∃ p, writeUnits d' folder units { fingerprint, prune := true } = .ok p) ↔
      ∃ q, writeUnits d' folder units { fingerprint, prune := false } = .ok q) ∧
    ∀ p q, writeUnits d' folder units { fingerprint, prune := true } = .ok p →
      writeUnits d' folder units { fingerprint, prune := false } = .ok q →
      ∃ r, writeUnits q.disk folder units { fingerprint, prune := true } = .ok r ∧
        Without folder (leftOver calls units) r.disk p.disk ∧
        (∀ name ∈ leftOver calls units, ∃ bytes,
          d'.file? (folder.resolve [] ++ [name]) = some bytes ∧
          r.disk.file? (folder.resolve [] ++ [name]) = some bytes) ∧
        ((∀ l, r.disk.content? l = p.disk.content? l) ↔ leftOver calls units = []) := by
  have hdate := upToDate_of_series hd hfresh hreal hseries
  refine ⟨hdate.succeeds_iff hnames hnodup, ?_⟩
  intro p q hp hq
  obtain ⟨m, hm, -, hperm⟩ := hdate.listed
  obtain ⟨r, hr, hsame⟩ := writeUnits_twice true (hdate.regular hnames hnodup) hq
  have hstay (name : String) (hname : name ∈ leftOver calls units) :
      ∃ bytes, d'.file? (folder.resolve [] ++ [name]) = some bytes ∧
        r.disk.file? (folder.resolve [] ++ [name]) = some bytes := by
    obtain ⟨hlast, hnot⟩ := mem_leftOver.1 hname
    rw [Disk.file?_congr (hsame _)]
    exact hdate.stays hnames hnodup hq hlast hnot
  have hwithout : Without folder (leftOver calls units) r.disk p.disk := by
    have hstale := hdate.without hnames hnodup hm hperm hp hq
    have hmem (name : String) : name ∈ leftOver calls units ↔ name ∈ staleNames m (unitDigests units) := by
      rw [mem_leftOver, UpToDate.mem_staleNames_iff hperm]
    refine ⟨fun name hname => hstale.gone name ((hmem name).1 hname), fun l hl => ?_⟩
    rw [hsame, hstale.others l fun name hname => hl name ((hmem name).2 hname)]
  refine ⟨r, hr, hwithout, hstay, ?_, ?_⟩
  · intro halike
    rw [List.eq_nil_iff_forall_not_mem]
    intro name hname
    obtain ⟨bytes, -, hfile⟩ := hstay name hname
    rw [Disk.file?_eq_some_iff, halike, hwithout.gone name hname] at hfile
    cases hfile
  · intro hnone
    rw [hnone] at hwithout
    exact fun l => (hwithout.others l fun _ => nofun).symm

/-- The unit of the first call is taken away by one that prunes, but not if the pruning is left to a later one. -/
theorem postponed_prune_is_lost_unit :
    writeUnits firstCall.after.disk ⟨.top, ["out"]⟩ otherCall.units { fingerprint := "second", prune := true } =
        .ok otherCall.after ∧ otherCall.after.disk.content? ["out", "A.g.cs"] = none ∧
      ∃ q r, writeUnits firstCall.after.disk ⟨.top, ["out"]⟩ otherCall.units
          { fingerprint := "second", prune := false } = .ok q ∧
        writeUnits q.disk ⟨.top, ["out"]⟩ otherCall.units { fingerprint := "second", prune := true } = .ok r ∧
        r.disk.file? ["out", "A.g.cs"] = some [97] := by
  have hseries : Series ⟨.top, ["out"]⟩ .empty ([] ++ [firstCall]) firstCall.after.disk := .next (c := firstCall) .start
  have hreal : ∀ c ∈ [firstCall], c.Real := by
    rw [List.forall_mem_singleton]
    refine ⟨rfl, by decide, ?_⟩
    intro u hu
    obtain rfl := List.mem_singleton.1 hu
    decide
  have hnames : ∀ u ∈ otherCall.units, IsFileName u.hintName ∧ u.hintName ≠ manifestName := by
    intro u hu
    obtain rfl := List.mem_singleton.1 hu
    decide
  obtain ⟨hsucceeds, hends⟩ :=
    postponed_prune_is_lost Disk.sound_empty rfl hreal hseries hnames (by decide)
  obtain ⟨q, hq⟩ := hsucceeds.1 ⟨_, otherCall.success⟩
  obtain ⟨r, hr, hwithout, hstay, -⟩ := hends _ q otherCall.success hq
  have hleft : "A.g.cs" ∈ leftOver [firstCall] otherCall.units := mem_leftOver.2 (by decide)
  obtain ⟨bytes, hbefore, hafter⟩ := hstay _ hleft
  have hfile : firstCall.after.disk.file? ["out", "A.g.cs"] = some [97] := by decide +kernel
  exact ⟨otherCall.success, hwithout.gone _ hleft, q, r, hq, hr, hafter.trans (hbefore.symm.trans hfile)⟩

end PropertyQuote.Project
