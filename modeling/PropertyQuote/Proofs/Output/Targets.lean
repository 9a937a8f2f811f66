import PropertyQuote.Proofs.Output.Postponement
import PropertyQuote.Proofs.Utf8

/-!
# What was there before

A unit is written unless its file reads as the unit already.  Reading takes carriage returns for ends of lines, so a
file with other bytes than those of the unit may read as the unit, and then it keeps its bytes.  A file that holds no
text cannot be read at all, and then the writing fails.

* `Writable.foldlM_ok_iff`: exactly when units can be written into a directory.
* `Writable.succeeds_iff`: exactly when a whole writing succeeds.
* `content?_of_foldlM`, `file?_eq_encodeText_iff`: what is in the place of a unit in the end.
* `target_bytes`: all of this for a directory that is there or can be made.
-/

namespace PropertyQuote.Project

variable {d d' made : Disk} {folder : Path} {units : List SourceUnit} {u : SourceUnit} {p p' : Progress}
  {name fingerprint text : String} {names : List String} {bytes : List UInt8}

/-! ## Directories that take files -/

/-- A directory is reached, and the paths to files of the given names in it can be followed. -/
structure Writable (folder : Path) (names : List String) (d : Disk) : Prop where
  sound : d.Sound
  reaches : d.Reaches folder
  made : d.ensureFolders folder = .ok d
  named : ∀ name ∈ names, IsFileName name
  followed : ∀ name ∈ names, ∃ l, d.locate (folder.child name) = .ok l

namespace Writable

/-- Fewer names may be asked for. -/
lemma mono {names' : List String} (h : Writable folder names d) (hsub : names' ⊆ names) : Writable folder names' d :=
  ⟨h.sound, h.reaches, h.made, fun name hname => h.named name (hsub hname),
    fun name hname => h.followed name (hsub hname)⟩

/-- A directory still takes files after some of its files were altered. -/
lemma altered {only : String → Prop} (h : Writable folder names d) (halt : Disk.AlteredIn folder only d d') :
    Writable folder names d' := by
  have hreach := halt.reaches h.sound h.reaches
  refine ⟨halt.sound h.sound, hreach, Disk.ensureFolders_again h.made hreach, h.named, ?_⟩
  intro name hname
  rw [Disk.locate_child_congr (h.named name hname) h.reaches hreach]
  exact h.followed name hname

/-- A file may be saved under one of the names, unless a directory is in its place. -/
lemma save (h : Writable folder names d) (hname : name ∈ names)
    (hne : d.content? (folder.resolve [] ++ [name]) ≠ some .folder) :
    ∃ disk, d.save (folder.child name) bytes = .ok disk := by
  obtain ⟨l, hl⟩ := h.followed name hname
  obtain ⟨-, rfl⟩ := Disk.locate_child_ok (h.named name hname) hl
  have hsave : d.save (folder.child name) bytes = d.write (folder.child name) bytes := by
    rw [Disk.save, Path.parent_child (h.named name hname), h.made]
    rfl
  rw [hsave, Disk.write, hl]
  exact ⟨_, if_neg (by simpa using hne)⟩

/-- What the path to a file leads to is what is in its place. -/
lemma look_eq (h : Writable folder names d) (hname : name ∈ names) :
    d.look (folder.child name) = (d.content? (folder.resolve [] ++ [name])).elim (.error .notFound) .ok := by
  obtain ⟨l, hl⟩ := h.followed name hname
  obtain ⟨-, rfl⟩ := Disk.locate_child_ok (h.named name hname) hl
  rw [Disk.look, hl]

/-! ## Comparing a unit with its file -/

/-- A unit can be compared with what is in its place, unless that is no text. -/
lemma holds_ok_iff (h : Writable folder names d) (hname : name ∈ names)
    (hne : d.content? (folder.resolve [] ++ [name]) ≠ some .folder) :
    (∃ b, Progress.holds d (folder.child name) text = .ok b) ↔
      ∀ bytes, d.file? (folder.resolve [] ++ [name]) = some bytes → ∃ raw, Text.Utf8.decode? bytes = some raw := by
  have hlook := h.look_eq hname
  cases hc : d.content? (folder.resolve [] ++ [name]) with
  | none =>
    rw [hc] at hlook
    refine iff_of_true ⟨false, Progress.holds_eq_ok_iff.2 (.inl ⟨rfl, .notFound, by simp, hlook⟩)⟩ ?_
    intro bytes hfile
    rw [Disk.file?_eq_some_iff, hc] at hfile
    cases hfile
  | some c =>
    rw [hc] at hlook
    cases c with
    | folder => exact absurd hc hne
    | file bytes =>
      constructor
      · rintro ⟨b, hb⟩ bytes' hfile
        rw [Disk.file?_eq_some_iff, hc] at hfile
        cases hfile
        rcases Progress.holds_eq_ok_iff.1 hb with ⟨-, cause, -, hcause⟩ | ⟨cs, hcs, -⟩
        · rw [hlook] at hcause
          cases hcause
        · obtain ⟨bytes', raw, hlook', hdecode, -⟩ := readText_eq_ok_iff.1 hcs
          rw [hlook] at hlook'
          cases hlook'
          exact ⟨raw, hdecode⟩
      · intro hread
        obtain ⟨raw, hdecode⟩ := hread bytes (Disk.file?_eq_some_iff.2 hc)
        have hcs := readText_eq_ok_iff.2 ⟨bytes, raw, hlook, hdecode, rfl⟩
        exact ⟨_, Progress.holds_eq_ok_iff.2 (.inr ⟨_, hcs, rfl⟩)⟩

/-- A unit is found in its place exactly if the bytes there are those of a text that reads as the unit. -/
lemma holds_eq_true_iff (h : Writable folder names d) (hname : name ∈ names) :
    Progress.holds d (folder.child name) text = .ok true ↔
      ∃ raw, d.file? (folder.resolve [] ++ [name]) = some (Text.Utf8.encode raw) ∧
        Text.unifyNewlines raw = text.toList := by
  have hlook := h.look_eq hname
  constructor
  · intro hholds
    rcases Progress.holds_eq_ok_iff.1 hholds with ⟨hb, -⟩ | ⟨cs, hcs, hb⟩
    · cases hb
    · obtain ⟨bytes, raw, hfile, hdecode, rfl⟩ := readText_eq_ok_iff.1 hcs
      obtain ⟨-, hcontent⟩ := Disk.look_child_ok (h.named name hname) hfile
      obtain rfl := Text.Utf8.decode?_eq_some_iff.1 hdecode
      exact ⟨raw, Disk.file?_eq_some_iff.2 hcontent, beq_iff_eq.1 hb.symm⟩
  · rintro ⟨raw, hfile, hunify⟩
    rw [Disk.file?_eq_some_iff.1 hfile] at hlook
    have hcs := readText_eq_ok_iff.2 ⟨_, raw, hlook, Text.Utf8.decode?_encode raw, rfl⟩
    exact Progress.holds_eq_ok_iff.2 (.inr ⟨_, hcs, (beq_iff_eq.2 hunify).symm⟩)

/-! ## Writing units -/

/-- A unit can be written exactly if it can be compared with what is there. -/
lemma writeUnit_ok_iff (h : Writable folder names p.disk) (hname : u.hintName ∈ names)
    (hne : p.disk.content? (folder.resolve [] ++ [u.hintName]) ≠ some .folder) :
    (∃ p', Progress.writeUnit folder false p u = .ok p') ↔
      ∃ b, Progress.holds p.disk (folder.child u.hintName) u.text = .ok b := by
  constructor
  · rintro ⟨p', hp'⟩
    rcases Progress.writeUnit_ok hp' with ⟨hholds, -⟩ | ⟨hholds, -⟩
    · exact ⟨true, hholds⟩
    · exact ⟨false, hholds⟩
  · rintro ⟨b, hb⟩
    cases b with
    | true => exact ⟨_, Progress.writeUnit_of_holds hb⟩
    | false =>
      obtain ⟨disk, hsave⟩ := h.save hname hne
      exact ⟨_, Progress.writeUnit_of_save hb hsave⟩

/-- Units can be written exactly if each of them can be compared with what is in its place at first. -/
lemma foldlM_ok_iff (h : Writable folder (units.map SourceUnit.hintName) p.disk)
    (hnodup : (units.map SourceUnit.hintName).Nodup)
    (hne : ∀ u ∈ units, p.disk.content? (folder.resolve [] ++ [u.hintName]) ≠ some .folder) :
    (∃ p', units.foldlM (Progress.writeUnit folder false) p = .ok p') ↔
      ∀ u ∈ units, ∃ b, Progress.holds p.disk (folder.child u.hintName) u.text = .ok b := by
  induction units generalizing p with
  | nil => exact iff_of_true ⟨p, rfl⟩ fun _ => nofun
  | cons u units ih =>
    obtain ⟨hfirst, hlater⟩ := List.forall_mem_cons.1 hne
    rw [List.map_cons, List.nodup_cons] at hnodup
    have hstep := h.writeUnit_ok_iff List.mem_cons_self hfirst
    have hrest : Writable folder (units.map SourceUnit.hintName) p.disk := h.mono (List.subset_cons_self _ _)
    -- the first unit leaves the places of the others as they are
    have hnext {p₁ : Progress} (hp₁ : Progress.writeUnit folder false p u = .ok p₁) :
        (∃ p', units.foldlM (Progress.writeUnit folder false) p₁ = .ok p') ↔
          ∀ v ∈ units, ∃ b, Progress.holds p.disk (folder.child v.hintName) v.text = .ok b := by
      obtain ⟨halt, -⟩ := Progress.writeUnit_altered h.sound (h.named _ List.mem_cons_self) hp₁
      have hother (v : SourceUnit) (hv : v ∈ units) : ¬ v.hintName = u.hintName :=
        fun heq => hnodup.1 (heq ▸ List.mem_map_of_mem hv)
      rw [ih (hrest.altered halt) hnodup.2]
      · refine forall₂_congr fun v hv => exists_congr fun b => ?_
        have hlook := halt.look_child h.sound h.reaches (hrest.named _ (List.mem_map_of_mem hv)) (hother v hv)
        exact ⟨Progress.holds_congr hlook.symm, Progress.holds_congr hlook⟩
      · intro v hv
        rw [halt.content?_child h.sound h.reaches (hother v hv)]
        exact hlater v hv
    rw [List.forall_mem_cons, ← hstep]
    constructor
    · rintro ⟨p', hp'⟩
      obtain ⟨p₁, hp₁, hrun⟩ := foldlM_cons_ok hp'
      exact ⟨⟨p₁, hp₁⟩, (hnext hp₁).1 ⟨p', hrun⟩⟩
    · rintro ⟨⟨p₁, hp₁⟩, hholds⟩
      rw [List.foldlM_cons, hp₁]
      exact (hnext hp₁).2 hholds

end Writable

/-- In the place of a unit there is what was there before, if that reads as the unit, and the bytes of the unit
otherwise. -/
lemma content?_of_foldlM (hd : p.disk.Sound) (hreach : p.disk.Reaches folder)
    (hnames : ∀ u ∈ units, IsFileName u.hintName) (hnodup : (units.map SourceUnit.hintName).Nodup)
    (h : units.foldlM (Progress.writeUnit folder false) p = .ok p') :
    ∀ u ∈ units, (Progress.holds p.disk (folder.child u.hintName) u.text = .ok true ∧
        p'.disk.content? (folder.resolve [] ++ [u.hintName]) =
          p.disk.content? (folder.resolve [] ++ [u.hintName])) ∨
      (Progress.holds p.disk (folder.child u.hintName) u.text = .ok false ∧
        p'.disk.content? (folder.resolve [] ++ [u.hintName]) = some (.file (Text.Utf8.encodeText u.text))) := by
  induction units generalizing p with
  | nil => exact fun _ => nofun
  | cons u units ih =>
    obtain ⟨hname, hnames⟩ := List.forall_mem_cons.1 hnames
    rw [List.map_cons, List.nodup_cons] at hnodup
    obtain ⟨p₁, hstep, hrun⟩ := foldlM_cons_ok h
    obtain ⟨halt, hreach₁, -⟩ := Progress.writeUnit_altered hd hname hstep
    have hd₁ := halt.sound hd
    obtain ⟨halt', -⟩ := Progress.foldlM_writeUnit hd₁ hnames hnodup.2 hrun
    refine List.forall_mem_cons.2 ⟨?_, ?_⟩
    · rw [halt'.content?_child hd₁ hreach₁ hnodup.1]
      rcases Progress.writeUnit_ok hstep with ⟨hholds, rfl⟩ | ⟨hholds, disk, hsave, rfl⟩
      · exact .inl ⟨hholds, rfl⟩
      · exact .inr ⟨hholds, Disk.content?_of_save hname hsave⟩
    · intro v hv
      have hother : ¬ v.hintName = u.hintName := fun heq => hnodup.1 (heq ▸ List.mem_map_of_mem hv)
      have hlook := halt.look_child hd hreach (hnames v hv) hother
      rw [← halt.content?_child hd hreach hother]
      refine (ih hd₁ hreach₁ hnames hnodup.2 hrun v hv).imp ?_ ?_
      · exact fun hkept => ⟨Progress.holds_congr hlook.symm hkept.1, hkept.2⟩
      · exact fun hnew => ⟨Progress.holds_congr hlook.symm hnew.1, hnew.2⟩

/-! ## Whole writings -/

/-- A writing that does not prune ends with its manifest. -/
lemma writeUnits_unpruned_eq {m : DigestMap} (hm : previousUnits d folder = .ok m)
    (hwritten : units.foldlM (Progress.writeUnit folder false) { disk := d } = .ok p) :
    writeUnits d folder units { fingerprint, prune := false } =
      if p.changed || !m.same (unitDigests units) then
        p.act false (.record folder ⟨fingerprint, unitDigests units⟩)
      else .ok p :=
  writeUnits_eq hm hwritten rfl

namespace Writable

/-- A directory in the place of the manifest is no manifest. -/
lemma previousUnits_of_folder (h : Writable folder (manifestName :: names) d)
    (hfolder : d.content? (folder.resolve [] ++ [manifestName]) = some .folder) :
    previousUnits d folder = .ok [] := by
  have hlook := h.look_eq List.mem_cons_self
  rw [hfolder] at hlook
  rw [previousUnits, Disk.read, hlook]
  rfl

/-- Writing units leaves the place of the manifest as it is. -/
lemma manifest_of_foldlM (h : Writable folder (manifestName :: units.map SourceUnit.hintName) d)
    (hnodup : (manifestName :: units.map SourceUnit.hintName).Nodup)
    (hwritten : units.foldlM (Progress.writeUnit folder false) { disk := d } = .ok p) :
    Writable folder (manifestName :: units.map SourceUnit.hintName) p.disk ∧
      p.disk.content? (folder.resolve [] ++ [manifestName]) = d.content? (folder.resolve [] ++ [manifestName]) := by
  rw [List.nodup_cons] at hnodup
  have hnames (u : SourceUnit) (hu : u ∈ units) : IsFileName u.hintName :=
    h.named _ (List.mem_cons_of_mem _ (List.mem_map_of_mem hu))
  obtain ⟨halt, -⟩ := Progress.foldlM_writeUnit h.sound hnames hnodup.2 hwritten
  exact ⟨h.altered halt, halt.content?_child h.sound h.reaches hnodup.1⟩

/-- A writing succeeds exactly if the manifest can be read and replaced, and every file in the place of a unit holds a
text. -/
lemma succeeds_iff (h : Writable folder (manifestName :: units.map SourceUnit.hintName) d)
    (hnodup : (manifestName :: units.map SourceUnit.hintName).Nodup)
    (hne : ∀ u ∈ units, d.content? (folder.resolve [] ++ [u.hintName]) ≠ some .folder) :
    (∃ p, writeUnits d folder units { fingerprint, prune := false } = .ok p) ↔
      (∃ m, previousUnits d folder = .ok m) ∧
      (units ≠ [] → d.content? (folder.resolve [] ++ [manifestName]) ≠ some .folder) ∧
      ∀ u ∈ units, ∀ bytes, d.file? (folder.resolve [] ++ [u.hintName]) = some bytes →
        ∃ raw, Text.Utf8.decode? bytes = some raw := by
  have hunits : Writable folder (units.map SourceUnit.hintName) d := h.mono (List.subset_cons_self _ _)
  have hread : (∃ p, units.foldlM (Progress.writeUnit folder false) { disk := d } = .ok p) ↔
      ∀ u ∈ units, ∀ bytes, d.file? (folder.resolve [] ++ [u.hintName]) = some bytes →
        ∃ raw, Text.Utf8.decode? bytes = some raw := by
    rw [foldlM_ok_iff (p := { disk := d }) hunits (List.nodup_cons.1 hnodup).2 hne]
    exact forall₂_congr fun u hu => hunits.holds_ok_iff (List.mem_map_of_mem hu) (hne u hu)
  constructor
  · rintro ⟨p, hp⟩
    obtain ⟨m, p₁, p₂, hm, hwritten, hremoved, hlast⟩ := writeUnits_ok hp
    cases hremoved
    refine ⟨⟨m, hm⟩, ?_, hread.1 ⟨p₁, hwritten⟩⟩
    intro hsome hfolder
    obtain ⟨hp₁, hmanifest⟩ := h.manifest_of_foldlM hnodup hwritten
    obtain rfl : [] = m := Except.ok.inj ((h.previousUnits_of_folder hfolder).symm.trans hm)
    rcases hlast with ⟨-, hact⟩ | ⟨hquiet, -⟩
    · have hsave := Progress.save_of_act hact
      exact Disk.ne_folder_of_save isFileName_manifestName hsave hp₁.reaches (hmanifest.trans hfolder)
    · -- no manifest lists the units yet
      have hnone : ([] : List String).foldlM (Progress.removeUnit folder false) p₁ = .ok p₁ := rfl
      obtain ⟨hperm, -⟩ := eq_of_quiet hm hwritten hnone hquiet
      exact ne_nil_of_perm hsome hperm rfl
  · rintro ⟨⟨m, hm⟩, hfree, hdecode⟩
    obtain ⟨p₁, hwritten⟩ := hread.2 hdecode
    obtain ⟨hp₁, hmanifest⟩ := h.manifest_of_foldlM hnodup hwritten
    rw [writeUnits_unpruned_eq hm hwritten]
    split
    case isFalse => exact ⟨p₁, rfl⟩
    case isTrue hstore =>
      have hfile : p₁.disk.content? (folder.resolve [] ++ [manifestName]) ≠ some .folder := by
        rw [hmanifest]
        by_cases hsome : units = []
        · -- without units, the manifest is stored only if it lists some now
          intro hfolder
          obtain rfl : [] = m := Except.ok.inj ((h.previousUnits_of_folder hfolder).symm.trans hm)
          subst hsome
          cases hwritten
          cases hstore
        · exact hfree hsome
      obtain ⟨disk, hsave⟩ := hp₁.save List.mem_cons_self hfile
      exact ⟨_, Progress.act_record hsave⟩

/-- After a writing, the bytes in the place of a unit are those of the unit exactly if the bytes before were not
those of a text with carriage returns that reads as the unit. -/
lemma file?_eq_encodeText_iff (h : Writable folder (manifestName :: units.map SourceUnit.hintName) d)
    (hnodup : (manifestName :: units.map SourceUnit.hintName).Nodup)
    (hp : writeUnits d folder units { fingerprint, prune := false } = .ok p) :
    ∀ u ∈ units, p.disk.file? (folder.resolve [] ++ [u.hintName]) = some (Text.Utf8.encodeText u.text) ↔
      ∀ raw, d.file? (folder.resolve [] ++ [u.hintName]) = some (Text.Utf8.encode raw) →
        Text.unifyNewlines raw = u.text.toList → '\r' ∉ raw := by
  intro u hu
  obtain ⟨m, p₁, p₂, hm, hwritten, hremoved, hlast⟩ := writeUnits_ok hp
  cases hremoved
  obtain ⟨hp₁, -⟩ := h.manifest_of_foldlM hnodup hwritten
  rw [List.nodup_cons] at hnodup
  have hmem : u.hintName ∈ manifestName :: units.map SourceUnit.hintName :=
    List.mem_cons_of_mem _ (List.mem_map_of_mem hu)
  have hother : ¬ u.hintName = manifestName := fun heq => hnodup.1 (heq ▸ List.mem_map_of_mem hu)
  have hlater : p.disk.content? (folder.resolve [] ++ [u.hintName]) =
      p₁.disk.content? (folder.resolve [] ++ [u.hintName]) :=
    (altered_of_last hp₁.sound hlast).content?_child hp₁.sound hp₁.reaches hother
  have hnames (u : SourceUnit) (hu : u ∈ units) : IsFileName u.hintName :=
    h.named _ (List.mem_cons_of_mem _ (List.mem_map_of_mem hu))
  rcases content?_of_foldlM (p := { disk := d }) h.sound h.reaches hnames hnodup.2 hwritten u hu with
    ⟨hholds, hkept⟩ | ⟨hholds, hnew⟩
  · -- the file is left, whatever its ends of lines are
    obtain ⟨raw, hfile, hunify⟩ := (h.holds_eq_true_iff hmem).1 hholds
    rw [Disk.file?_congr (hlater.trans hkept), hfile, Option.some.injEq]
    constructor
    · intro hexact raw' hfile' hunify'
      obtain rfl := Text.Utf8.encode_injective (Option.some.inj hfile')
      rw [Text.Utf8.encode_injective hexact, ← hunify]
      exact Text.return_notMem_unifyNewlines raw
    · intro hplain
      rw [Text.Utf8.encodeText, ← hunify, Text.unifyNewlines_of_notMem (hplain raw rfl hunify)]
  · refine iff_of_true (Disk.file?_eq_some_iff.2 (hlater.trans hnew)) ?_
    intro raw hfile hunify
    have hfound := (h.holds_eq_true_iff hmem).2 ⟨raw, hfile, hunify⟩
    rw [hholds] at hfound
    cases hfound

end Writable

/-! ## Directories that have to be made -/

/-- A directory is there, or it can be made and the way to it has no step back.  The units have different plain names
that the disk takes and that are not the name of the manifest, and no directory is in the place of a unit. -/
structure Ready (folder : Path) (units : List SourceUnit) (d made : Disk) : Prop where
  sound : d.Sound
  way : d.ensureFolders folder = .ok made
  straight : d.Reaches folder ∨ ".." ∉ folder.names
  named : ∀ u ∈ units, IsFileName u.hintName
  nodup : (manifestName :: units.map SourceUnit.hintName).Nodup
  followed : ∀ name ∈ manifestName :: units.map SourceUnit.hintName,
    ∃ l, made.locate (folder.child name) = .ok l
  free : ∀ u ∈ units, d.content? (folder.resolve [] ++ [u.hintName]) ≠ some .folder

namespace Ready

/-- Once it is made, the directory takes the units and the manifest. -/
lemma writable (h : Ready folder units d made) :
    Writable folder (manifestName :: units.map SourceUnit.hintName) made := by
  obtain ⟨halt, hreach⟩ := Disk.ensureFolders_ok h.sound h.way
  refine ⟨halt.sound h.sound, hreach, Disk.ensureFolders_again h.way hreach, ?_, h.followed⟩
  rw [List.forall_mem_cons, List.forall_mem_map]
  exact ⟨isFileName_manifestName, h.named⟩

/-- There is nothing in a directory that has to be made. -/
lemma missing (h : Ready folder units d made) (hnot : ¬ d.Reaches folder) (name : String) :
    d.content? (folder.resolve [] ++ [name]) = none ∧ made.content? (folder.resolve [] ++ [name]) = none := by
  have hback := h.straight.resolve_left hnot
  obtain ⟨halt, hreach⟩ := Disk.ensureFolders_ok h.sound h.way
  have hnone : d.content? (folder.resolve [] ++ [name]) = none :=
    Disk.content?_child_of_not_reaches h.sound hnot hback (Disk.short_of_locateFrom hreach.1)
  refine ⟨hnone, ?_⟩
  rw [halt.content?_eq h.sound (fun hfalse => hfalse), hnone]
  rintro ⟨hpasses, -⟩
  -- only the directories on the way are made
  have habove := Path.isPrefix_of_passes hback hpasses
  rw [Path.resolve_nil, Path.foldl_step_of_notMem hback, List.nil_append] at habove
  have hlength := habove.length_le
  rw [List.length_append, List.length_singleton] at hlength
  exact Nat.not_succ_le_self _ hlength

/-- Once its directories are made, a file is saved alike. -/
lemma save_eq (h : Ready folder units d made) (hname : IsFileName name) :
    d.save (folder.child name) bytes = made.save (folder.child name) bytes := by
  rw [Disk.save, Disk.save, Path.parent_child hname, h.way, h.writable.made]

/-- The first unit is written as if the directory were there. -/
lemma writeUnit_made (h : Ready folder units d made) (hnot : ¬ d.Reaches folder) (hu : u ∈ units) :
    Progress.writeUnit folder false { disk := d } u = Progress.writeUnit folder false { disk := made } u := by
  have hname := h.named u hu
  have hmem : u.hintName ∈ manifestName :: units.map SourceUnit.hintName :=
    List.mem_cons_of_mem _ (List.mem_map_of_mem hu)
  obtain ⟨-, hnone⟩ := h.missing hnot u.hintName
  obtain ⟨disk, hsave⟩ : ∃ disk, made.save (folder.child u.hintName) (Text.Utf8.encodeText u.text) = .ok disk :=
    h.writable.save hmem (by rw [hnone]; simp)
  have hread : readText disk (folder.child u.hintName) = .ok (Text.unifyNewlines u.text.toList) :=
    readText_eq_ok_iff.2 ⟨_, _, (Disk.look_of_save hname hsave).2, Text.Utf8.decode?_encode _, rfl⟩
  have hlook := h.writable.look_eq hmem
  rw [hnone] at hlook
  have hholds : Progress.holds made (folder.child u.hintName) u.text = .ok false :=
    Progress.holds_eq_ok_iff.2 (.inl ⟨rfl, .notFound, by simp, hlook⟩)
  rw [Progress.writeUnit_of_save (p := { disk := d }) (holds_of_not_reaches hname hnot hread)
      ((h.save_eq hname).trans hsave), Progress.writeUnit_of_save (p := { disk := made }) hholds hsave]

/-- A directory that was just made lists nothing. -/
lemma previousUnits_made (h : Ready folder units d made) (hnot : ¬ d.Reaches folder) :
    previousUnits made folder = .ok [] := by
  have hlook := h.writable.look_eq List.mem_cons_self
  rw [(h.missing hnot manifestName).2] at hlook
  rw [previousUnits, Disk.read, hlook]
  rfl

/-- Units are written as if the directory were there. -/
lemma writeUnits_made {options : WriteOptions} (h : Ready folder units d made) (hreal : options.dryRun = false)
    (hnot : ¬ d.Reaches folder) (hsome : units ≠ []) :
    writeUnits d folder units options = writeUnits made folder units options := by
  obtain ⟨u, later, rfl⟩ := List.exists_cons_of_ne_nil hsome
  unfold writeUnits
  rw [previousUnits_of_not_reaches hnot, h.previousUnits_made hnot, hreal]
  simp only [List.foldlM_cons, h.writeUnit_made hnot List.mem_cons_self, Except.mapError, bind, Except.bind]

end Ready

/-- Whatever was in the places of units before, a writing succeeds exactly if the manifest can be read and replaced
and every file in the place of a unit holds a text.  After it, the bytes in the place of a unit are those of the unit
exactly if the bytes before were not those of a text with carriage returns that reads as the unit. -/
theorem target_bytes (h : Ready folder units d made) :
    ((∃ p, writeUnits d folder units { fingerprint, prune := false } = .ok p) ↔
      (∃ m, previousUnits d folder = .ok m) ∧
      (units ≠ [] → d.content? (folder.resolve [] ++ [manifestName]) ≠ some .folder) ∧
      ∀ u ∈ units, ∀ bytes, d.file? (folder.resolve [] ++ [u.hintName]) = some bytes →
        ∃ raw, Text.Utf8.decode? bytes = some raw) ∧
    ∀ p, writeUnits d folder units { fingerprint, prune := false } = .ok p → ∀ u ∈ units,
      (p.disk.file? (folder.resolve [] ++ [u.hintName]) = some (Text.Utf8.encodeText u.text) ↔
        ∀ raw, d.file? (folder.resolve [] ++ [u.hintName]) = some (Text.Utf8.encode raw) →
          Text.unifyNewlines raw = u.text.toList → '\r' ∉ raw) := by
  by_cases hreach : d.Reaches folder
  · obtain rfl := Disk.ensureFolders_of_reaches hreach h.way
    exact ⟨h.writable.succeeds_iff h.nodup h.free, fun p hp => h.writable.file?_eq_encodeText_iff h.nodup hp⟩
  have hprevious := previousUnits_of_not_reaches hreach
  by_cases hsome : units = []
  · -- without units there is nothing to do
    subst hsome
    have hwritten : ([] : List SourceUnit).foldlM (Progress.writeUnit folder false) { disk := d } =
        .ok { disk := d } := rfl
    have hquiet : writeUnits d folder [] { fingerprint, prune := false } = .ok { disk := d } :=
      (writeUnits_unpruned_eq hprevious hwritten).trans rfl
    refine ⟨iff_of_true ⟨_, hquiet⟩ ⟨⟨[], hprevious⟩, fun hne => absurd rfl hne, fun _ => nofun⟩, ?_⟩
    exact fun _ _ _ => nofun
  · have hcontent (name : String) :
        d.content? (folder.resolve [] ++ [name]) = made.content? (folder.resolve [] ++ [name]) :=
      (h.missing hreach name).1.trans (h.missing hreach name).2.symm
    have hfile (name : String) :
        d.file? (folder.resolve [] ++ [name]) = made.file? (folder.resolve [] ++ [name]) :=
      Disk.file?_congr (hcontent name)
    have hfree : ∀ u ∈ units, made.content? (folder.resolve [] ++ [u.hintName]) ≠ some .folder := by
      intro u hu
      rw [← hcontent]
      exact h.free u hu
    rw [h.writeUnits_made rfl hreach hsome, hprevious, ← h.previousUnits_made hreach, hcontent]
    simp only [hfile]
    exact ⟨h.writable.succeeds_iff h.nodup hfree, fun p hp => h.writable.file?_eq_encodeText_iff h.nodup hp⟩

/-- A directory with a file that reads as a unit but has another end of line. -/
def returnedOut : Disk :=
  (Disk.empty.put ["out"] .folder).put ["out", "A.g.cs"] (.file [97, 13, 10])

/-- A unit with a line end. -/
def lineUnits : List SourceUnit :=
  [{ hintName := "A.g.cs", text := "a\n" }]

/-- The directory is there already. -/
lemma ready_returnedOut : Ready ⟨.top, ["out"]⟩ lineUnits returnedOut returnedOut := by
  refine ⟨?_, rfl, .inl ⟨rfl, rfl⟩, ?_, by decide, ?_, ?_⟩
  · exact (Disk.sound_empty.put rfl (by decide)).put rfl (by decide)
  · rw [lineUnits, List.forall_mem_singleton]
    decide
  · rw [List.forall_mem_cons, List.forall_mem_map, lineUnits, List.forall_mem_singleton]
    exact ⟨⟨_, rfl⟩, ⟨_, rfl⟩⟩
  · rw [lineUnits, List.forall_mem_singleton]
    decide

/-- The writing succeeds, and yet the file does not hold the bytes of the unit. -/
theorem target_bytes_returned :
    Ready ⟨.top, ["out"]⟩ lineUnits returnedOut returnedOut ∧
      ∃ p, writeUnits returnedOut ⟨.top, ["out"]⟩ lineUnits { fingerprint := "", prune := false } = .ok p ∧
        p.disk.file? ["out", "A.g.cs"] ≠ some (Text.Utf8.encodeText "a\n") := by
  have hfile : returnedOut.file? ["out", "A.g.cs"] = some (Text.Utf8.encode ['a', '\r', '\n']) := rfl
  obtain ⟨p, hp⟩ : ∃ p, writeUnits returnedOut ⟨.top, ["out"]⟩ lineUnits { fingerprint := "", prune := false } =
      .ok p := by
    refine (target_bytes ready_returnedOut).1.2 ⟨⟨[], rfl⟩, fun _ => by decide, ?_⟩
    intro u hu bytes hbytes
    obtain rfl := List.mem_singleton.1 hu
    obtain rfl := Option.some.inj (hfile.symm.trans hbytes)
    exact ⟨_, Text.Utf8.decode?_encode _⟩
  refine ⟨ready_returnedOut, p, hp, ?_⟩
  intro hexact
  have hplain := ((target_bytes ready_returnedOut).2 p hp _ List.mem_cons_self).1 hexact _ hfile (by decide)
  exact hplain (by decide)

end PropertyQuote.Project
