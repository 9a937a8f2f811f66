import PropertyQuote.Proofs.Output.Steps

/-!
# Dry runs

A dry run leaves the disk as it is, and it reports what a writing would do.  It asks its questions of the disk
as it was, while a writing asks them of a disk that it changes.  Where the directory is reached the answers are
the same, since no step alters a file that a later one asks for.  Where it is not, the first unit that is written
makes the directories on the way.  Only a step back from a directory that was missing can then open a way to
files that the dry run did not see.

* `outcome_dryRun`: a dry run does nothing.
* `foldlM_preview`, `preview_of_reaches`: a directory that is reached.
* `unchanged_eq_iff`: which units a writing finds as they are.
* `dryRun_previews`: when the reports agree.
-/

namespace PropertyQuote.Project

variable {d d' : Disk} {folder target : Path} {u : SourceUnit} {units : List SourceUnit}
  {name : String} {names : List String} {options : WriteOptions} {p p' q : Progress}

/-! ## A dry run does nothing -/

/-- How far a writing has come in the end. -/
def outcome : Except Halt Progress → Progress
  | .ok p => p
  | .error halt => halt.progress

/-- The disk was left as it was. -/
def Untouched (p p' : Progress) : Prop :=
  p'.disk = p.disk ∧ p'.actions = p.actions

/-- A step that does nothing leaves the disk untouched. -/
lemma Untouched.refl (p : Progress) : Untouched p p := ⟨rfl, rfl⟩

/-- Two steps that leave the disk untouched are one. -/
lemma Untouched.trans {p'' : Progress} (h : Untouched p p') (h' : Untouched p' p'') : Untouched p p'' :=
  ⟨h'.1.trans h.1, h'.2.trans h.2⟩

/-- Whether or not the first of two steps fails, the disk is untouched. -/
lemma untouched_bind {x : Except Halt Progress} {f : Progress → Except Halt Progress}
    (hx : Untouched p (outcome x)) (hf : ∀ p', Untouched p' (outcome (f p'))) :
    Untouched p (outcome (x >>= f)) := by
  cases x with
  | error halt => exact hx
  | ok p' => exact hx.trans (hf p')

/-- So it is by a run of steps. -/
lemma untouched_foldlM {α : Type} {f : Progress → α → Except Halt Progress} {as : List α}
    (hf : ∀ p a, Untouched p (outcome (f p a))) : Untouched p (outcome (as.foldlM f p)) := by
  induction as generalizing p with
  | nil => exact .refl p
  | cons a as ih =>
    rw [List.foldlM_cons]
    exact untouched_bind (hf p a) fun p' => ih

namespace Progress

/-- In a dry run no unit is written. -/
lemma untouched_writeUnit : Untouched p (outcome (writeUnit folder true p u)) := by
  unfold writeUnit
  dsimp only
  split
  · exact .refl p
  · exact ⟨rfl, rfl⟩
  · exact ⟨rfl, rfl⟩

/-- In a dry run no unit is removed. -/
lemma untouched_removeUnit : Untouched p (outcome (removeUnit folder true p name)) := by
  unfold removeUnit
  dsimp only
  split
  · exact .refl p
  · exact ⟨rfl, rfl⟩
  · exact .refl p

end Progress

/-- A dry run leaves the disk untouched, whether or not it fails. -/
lemma outcome_dryRun (hdry : options.dryRun = true) :
    Untouched { disk := d } (outcome (writeUnits d folder units options)) := by
  unfold writeUnits
  rw [hdry]
  cases previousUnits d folder with
  | error => exact .refl _
  | ok previous =>
    refine untouched_bind (untouched_foldlM fun _ _ => Progress.untouched_writeUnit) fun p₁ => ?_
    refine untouched_bind (untouched_foldlM fun _ _ => Progress.untouched_removeUnit) fun p₂ => ?_
    split
    · exact .refl p₂
    · exact .refl p₂

/-! ## A directory that is reached -/

namespace Progress

/-- What a writing reports: the units that are written, unchanged and removed. -/
def report (p : Progress) : List Path × List Path × List Path :=
  (p.written, p.unchanged, p.removed)

/-- A dry step reports what the real one does, on any disk that shows the same file. -/
lemma writeUnit_preview
    (hlook : q.disk.look (folder.child u.hintName) = p.disk.look (folder.child u.hintName))
    (hreport : q.report = p.report) (h : writeUnit folder false p u = .ok p') :
    ∃ q', writeUnit folder true q u = .ok q' ∧ q'.disk = q.disk ∧ q'.report = p'.report := by
  simp only [report, Prod.mk.injEq] at hreport ⊢
  obtain ⟨hwritten, hunchanged, hremoved⟩ := hreport
  rcases writeUnit_ok h with ⟨hholds, rfl⟩ | ⟨hholds, disk, -, rfl⟩
  · refine ⟨_, writeUnit_of_holds (holds_congr hlook hholds), rfl, ?_⟩
    simp [hwritten, hunchanged, hremoved]
  · refine ⟨{ q with written := q.written ++ [folder.child u.hintName] }, ?_, rfl, ?_⟩
    · unfold writeUnit
      simp only [holds_congr hlook hholds]
      rfl
    · simp [hwritten, hunchanged, hremoved]

/-- The same for a unit that is removed. -/
lemma removeUnit_preview (hlook : q.disk.look (folder.child name) = p.disk.look (folder.child name))
    (hreport : q.report = p.report) (h : removeUnit folder false p name = .ok p') :
    ∃ q', removeUnit folder true q name = .ok q' ∧ q'.disk = q.disk ∧ q'.report = p'.report := by
  rcases removeUnit_ok h with ⟨hmissing, rfl⟩ | ⟨hfound, disk, -, rfl⟩
  · exact ⟨q, removeUnit_of_missing (has_congr hlook hmissing), rfl, hreport⟩
  · simp only [report, Prod.mk.injEq] at hreport ⊢
    obtain ⟨hwritten, hunchanged, hremoved⟩ := hreport
    refine ⟨{ q with removed := q.removed ++ [folder.child name] }, ?_, rfl, ?_⟩
    · unfold removeUnit
      simp only [has_congr hlook hfound]
      rfl
    · simp [hwritten, hunchanged, hremoved]

/-- Where the directory is reached, a run over items with different names is reported in the same way on a disk
that stays as it is, if each step is. -/
lemma foldlM_preview {α : Type} {step : Bool → Progress → α → Except Halt Progress} {f : α → String}
    (hpreview : ∀ {p p' q a}, q.disk.look (folder.child (f a)) = p.disk.look (folder.child (f a)) →
      q.report = p.report → step false p a = .ok p' →
      ∃ q', step true q a = .ok q' ∧ q'.disk = q.disk ∧ q'.report = p'.report)
    (haltered : ∀ {p p' a}, p.disk.Sound → IsFileName (f a) → step false p a = .ok p' →
      Disk.AlteredIn folder (· = f a) p.disk p'.disk)
    {items : List α} (hd : p.disk.Sound) (hreach : p.disk.Reaches folder)
    (hnames : ∀ a ∈ items, IsFileName (f a)) (hnodup : (items.map f).Nodup)
    (hlook : ∀ a ∈ items, q.disk.look (folder.child (f a)) = p.disk.look (folder.child (f a)))
    (hreport : q.report = p.report) (h : items.foldlM (step false) p = .ok p') :
    ∃ q', items.foldlM (step true) q = .ok q' ∧ q'.disk = q.disk ∧ q'.report = p'.report := by
  induction items generalizing p q with
  | nil =>
    cases h
    exact ⟨q, rfl, rfl, hreport⟩
  | cons a items ih =>
    obtain ⟨hname, hnames⟩ := List.forall_mem_cons.1 hnames
    obtain ⟨hlookfirst, hlook⟩ := List.forall_mem_cons.1 hlook
    rw [List.map_cons, List.nodup_cons] at hnodup
    obtain ⟨p₁, hstep, hrest⟩ := foldlM_cons_ok h
    obtain ⟨q₁, hstep', hsame, hreport₁⟩ := hpreview hlookfirst hreport hstep
    have halt := haltered hd hname hstep
    -- the step altered a file that no later one asks for
    have hlook₁ (b : α) (hb : b ∈ items) :
        q₁.disk.look (folder.child (f b)) = p₁.disk.look (folder.child (f b)) := by
      rw [hsame, hlook b hb, halt.look_child hd hreach (hnames b hb)]
      intro heq
      exact hnodup.1 (heq ▸ List.mem_map_of_mem hb)
    obtain ⟨q', hrest', hsame', hreport'⟩ :=
      ih (halt.sound hd) (halt.reaches hd hreach) hnames hnodup.2 hlook₁ hreport₁ hrest
    refine ⟨q', ?_, hsame'.trans hsame, hreport'⟩
    rw [List.foldlM_cons, hstep']
    exact hrest'

end Progress

/-- The last step of a writing is not reported. -/
lemma report_of_last {action : Action} {b : Bool} {p₂ : Progress}
    (h : (b = true ∧ p₂.act false action = .ok p) ∨ (b = false ∧ p = p₂)) : p.report = p₂.report := by
  rcases h with ⟨-, hact⟩ | ⟨-, rfl⟩
  · obtain ⟨disk, -, rfl⟩ := Progress.act_ok hact
    rfl
  · rfl

/-- A dry run is made of its dry steps. -/
lemma writeUnits_dryRun_eq {previous : DigestMap} {p₁ p₂ : Progress}
    (hprevious : previousUnits d folder = .ok previous)
    (hwritten : units.foldlM (Progress.writeUnit folder true) { disk := d } = .ok p₁)
    (hremoved : (options.stale previous units).foldlM (Progress.removeUnit folder true) p₁ = .ok p₂) :
    writeUnits d folder units { options with dryRun := true } = .ok p₂ := by
  refine Eq.trans (writeUnits_eq hprevious hwritten hremoved) ?_
  split <;> rfl

/-- In a directory that is reached, a dry run reports what the writing does. -/
lemma preview_of_reaches (hd : d.Sound) (hnames : ∀ u ∈ units, IsFileName u.hintName)
    (hnodup : (units.map SourceUnit.hintName).Nodup)
    (hlisted : ∀ m, previousUnits d folder = .ok m → ∀ name ∈ m.map Prod.fst, IsFileName name)
    (hreach : d.Reaches folder)
    (h : writeUnits d folder units { options with dryRun := false } = .ok p) :
    ∃ q, writeUnits d folder units { options with dryRun := true } = .ok q ∧ q.report = p.report := by
  obtain ⟨previous, p₁, p₂, hprevious, hwritten, hremoved, hlast⟩ := writeUnits_ok h
  have hstale {name : String} (hname : name ∈ options.stale previous units) : IsFileName name :=
    hlisted previous hprevious name (mem_stale hname).1
  obtain ⟨halt, -⟩ := Progress.foldlM_writeUnit hd hnames hnodup hwritten
  obtain ⟨q₁, hwritten', hdisk, hreport₁⟩ := Progress.foldlM_preview (q := { disk := d })
    Progress.writeUnit_preview (fun hd hname hstep => (Progress.writeUnit_altered hd hname hstep).1)
    hd hreach hnames hnodup (fun _ _ => rfl) rfl hwritten
  -- no unit that is written is stale
  have hlook (name : String) (hname : name ∈ options.stale previous units) :
      q₁.disk.look (folder.child name) = p₁.disk.look (folder.child name) := by
    rw [hdisk, halt.look_child hd hreach (hstale hname) (mem_stale hname).2]
  obtain ⟨q₂, hremoved', -, hreport₂⟩ := Progress.foldlM_preview (f := id)
    Progress.removeUnit_preview (fun _ hname hstep => (Progress.removeUnit_altered hname hstep).1)
    (halt.sound hd) (halt.reaches hd hreach) (fun _ => hstale)
    (by simpa using nodup_stale (nodup_previousUnits hprevious)) hlook hreport₁ hremoved
  exact ⟨q₂, writeUnits_dryRun_eq hprevious hwritten' hremoved',
    hreport₂.trans (report_of_last hlast).symm⟩

/-! ## A directory that is not reached -/

/-- The file of a unit is there and holds its text. -/
def Stored (folder : Path) (d : Disk) (u : SourceUnit) : Prop :=
  ∃ bytes raw, d.file? (folder.resolve [] ++ [u.hintName]) = some bytes ∧
    Text.Utf8.decode? bytes = some raw ∧ Text.unifyNewlines raw = u.text.toList

/-- Whether a unit is stored depends on the file in its place alone. -/
lemma stored_congr
    (h : d'.file? (folder.resolve [] ++ [u.hintName]) = d.file? (folder.resolve [] ++ [u.hintName])) :
    Stored folder d' u ↔ Stored folder d u := by
  rw [Stored, Stored, h]

/-- Units with other names are stored as before. -/
lemma stored_of_altered {only : String → Prop} (hd : d.Sound) (halt : Disk.AlteredIn folder only d d')
    (hnot : ¬ only u.hintName) : Stored folder d' u ↔ Stored folder d u := by
  refine stored_congr (halt.file?_eq hd ?_)
  intro name hname heq
  obtain rfl : u.hintName = name := by simpa using heq
  exact hnot hname

namespace Progress

/-- Where the directory is reached, a unit is left as it is exactly if it is stored. -/
lemma writeUnit_stored (hd : p.disk.Sound) (hreach : p.disk.Reaches folder) (hname : IsFileName u.hintName)
    (h : writeUnit folder false p u = .ok p') :
    (Stored folder p.disk u ∧ p'.unchanged = p.unchanged ++ [folder.child u.hintName]) ∨
      (¬ Stored folder p.disk u ∧ p'.unchanged = p.unchanged) := by
  obtain ⟨-, hreach', hread⟩ := writeUnit_altered hd hname h
  rcases writeUnit_ok h with ⟨hholds, rfl⟩ | ⟨hholds, disk, -, rfl⟩
  · left
    rcases holds_eq_ok_iff.1 hholds with ⟨hb, -⟩ | ⟨cs, hcs, hb⟩
    · cases hb
    · obtain ⟨bytes, raw, hlook, hdecode, rfl⟩ := readText_eq_ok_iff.1 hcs
      obtain ⟨-, hcontent⟩ := Disk.look_child_ok hname hlook
      exact ⟨⟨bytes, raw, Disk.file?_eq_some_iff.2 hcontent, hdecode, beq_iff_eq.1 hb.symm⟩, rfl⟩
  · right
    refine ⟨?_, rfl⟩
    rintro ⟨bytes, raw, hfile, hdecode, hunified⟩
    -- the path could be followed after the step, so it could be followed before
    obtain ⟨written, -, hlook', -⟩ := readText_eq_ok_iff.1 hread
    obtain ⟨l, hl, -⟩ := Disk.look_eq_ok_iff.1 hlook'
    have hlook : p.disk.look (folder.child u.hintName) = .ok (.file bytes) :=
      Disk.look_child_of_locate hname hl hreach (Disk.file?_eq_some_iff.1 hfile)
    have hholds' : holds p.disk (folder.child u.hintName) u.text = .ok true := by
      refine holds_eq_ok_iff.2 (.inr ⟨u.text.toList, ?_, (beq_self_eq_true _).symm⟩)
      exact readText_eq_ok_iff.2 ⟨bytes, raw, hlook, hdecode, hunified⟩
    rw [hholds] at hholds'
    cases hholds'

/-- Where the directory is reached, all units are written exactly if none is stored. -/
lemma unchanged_eq_iff (hd : p.disk.Sound) (hreach : p.disk.Reaches folder)
    (hnames : ∀ u ∈ units, IsFileName u.hintName) (hnodup : (units.map SourceUnit.hintName).Nodup)
    (h : units.foldlM (writeUnit folder false) p = .ok p') :
    p'.unchanged = p.unchanged ↔ ∀ u ∈ units, ¬ Stored folder p.disk u := by
  induction units generalizing p with
  | nil =>
    cases h
    exact iff_of_true rfl fun _ => nofun
  | cons u units ih =>
    obtain ⟨hname, hnames⟩ := List.forall_mem_cons.1 hnames
    rw [List.map_cons, List.nodup_cons] at hnodup
    obtain ⟨p₁, hstep, hrest⟩ := foldlM_cons_ok h
    rcases writeUnit_stored hd hreach hname hstep with ⟨hstored, hunchanged⟩ | ⟨hnot, hunchanged⟩
    · refine iff_of_false ?_ fun hnone => hnone u List.mem_cons_self hstored
      obtain ⟨-, hgrown, -⟩ := foldlM_writeUnit_grows hrest
      intro heq
      have hlength := hgrown.length_le
      rw [heq, hunchanged, List.length_append, List.length_singleton] at hlength
      omega
    · obtain ⟨halt, hreach₁, -⟩ := writeUnit_altered hd hname hstep
      rw [← hunchanged, ih (halt.sound hd) hreach₁ hnames hnodup.2 hrest, List.forall_mem_cons]
      have hsame (v : SourceUnit) (hv : v ∈ units) : Stored folder p₁.disk v ↔ Stored folder p.disk v := by
        refine stored_of_altered hd halt ?_
        intro heq
        exact hnodup.1 (heq ▸ List.mem_map_of_mem hv)
      constructor
      · exact fun hnone => ⟨hnot, fun v hv hstored => hnone v hv ((hsame v hv).2 hstored)⟩
      · exact fun hnone v hv hstored => hnone.2 v hv ((hsame v hv).1 hstored)

/-- If no unit is found unchanged, all of them are written. -/
lemma written_of_unchanged_eq (h : units.foldlM (writeUnit folder false) p = .ok p')
    (heq : p'.unchanged = p.unchanged) : p'.written = p.written ++ units.map (folder.child ·.hintName) := by
  induction units generalizing p with
  | nil =>
    cases h
    simp
  | cons u units ih =>
    obtain ⟨p₁, hstep, hrest⟩ := foldlM_cons_ok h
    obtain ⟨-, hgrown, -⟩ := foldlM_writeUnit_grows hrest
    rcases writeUnit_ok hstep with ⟨-, rfl⟩ | ⟨-, disk, -, rfl⟩
    · have hlength := hgrown.length_le
      rw [heq, List.length_append, List.length_singleton] at hlength
      omega
    · rw [ih hrest heq]
      simp

/-- A dry run reports all units as written if none is found. -/
lemma foldlM_writeUnit_of_missing
    (hmissing : ∀ u ∈ units, holds q.disk (folder.child u.hintName) u.text = .ok false) :
    units.foldlM (writeUnit folder true) q =
      .ok { q with written := q.written ++ units.map (folder.child ·.hintName) } := by
  induction units generalizing q with
  | nil => simp [pure, Except.pure]
  | cons u units ih =>
    obtain ⟨hfirst, hmissing⟩ := List.forall_mem_cons.1 hmissing
    have hstep : writeUnit folder true q u =
        .ok { q with written := q.written ++ [folder.child u.hintName] } := by
      unfold writeUnit
      simp only [hfirst]
      rfl
    rw [List.foldlM_cons, hstep]
    refine (ih (q := { q with written := q.written ++ [folder.child u.hintName] }) hmissing).trans ?_
    simp

end Progress

/-- The manifest of a directory that is not reached lists nothing. -/
lemma previousUnits_of_not_reaches (hnot : ¬ d.Reaches folder) : previousUnits d folder = .ok [] := by
  unfold previousUnits
  split
  case h_1 bytes hread =>
    exact absurd (Disk.look_child_ok isFileName_manifestName (read_eq_ok_iff.1 hread)).1 hnot
  case h_2 => rfl

/-- Nothing is found in a directory that is not reached, and the paths of units that can be written are not too
long to ask. -/
lemma holds_of_not_reaches {cs : List Char} (hname : IsFileName u.hintName) (hnot : ¬ d.Reaches folder)
    (h : readText d' (folder.child u.hintName) = .ok cs) :
    Progress.holds d (folder.child u.hintName) u.text = .ok false := by
  obtain ⟨bytes, -, hlook', -⟩ := readText_eq_ok_iff.1 h
  cases hlook : d.look (folder.child u.hintName) with
  | ok c => exact absurd (Disk.look_child_ok hname hlook).1 hnot
  | error cause =>
    refine Progress.holds_eq_ok_iff.2 (.inl ⟨rfl, cause, ?_, hlook⟩)
    rintro rfl
    exact Disk.look_ne_tooLong hlook' hlook

/-- In a directory that is not reached, a dry run reports what the writing does exactly if no unit but the first is
stored there already. -/
lemma preview_of_not_reaches (hd : d.Sound) (hnames : ∀ u ∈ units, IsFileName u.hintName)
    (hnodup : (units.map SourceUnit.hintName).Nodup) (hnot : ¬ d.Reaches folder)
    (h : writeUnits d folder units { options with dryRun := false } = .ok p) :
    ∃ q, writeUnits d folder units { options with dryRun := true } = .ok q ∧
      (q.report = p.report ↔ ∀ u ∈ units.tail, ¬ Stored folder d u) := by
  obtain ⟨previous, p₁, p₂, hprevious, hwritten, hremoved, hlast⟩ := writeUnits_ok h
  obtain rfl : [] = previous :=
    Except.ok.inj ((previousUnits_of_not_reaches hnot).symm.trans hprevious)
  obtain rfl : p₂ = p₁ := by
    change (options.stale [] units).foldlM _ _ = _ at hremoved
    rw [stale_nil] at hremoved
    cases hremoved
    rfl
  obtain ⟨-, -, hreads⟩ := Progress.foldlM_writeUnit hd hnames hnodup hwritten
  have hdry := Progress.foldlM_writeUnit_of_missing (q := { disk := d })
    fun u hu => holds_of_not_reaches (hnames u hu) hnot (hreads u hu)
  refine ⟨_, writeUnits_dryRun_eq hprevious hdry (by rw [stale_nil]; rfl), ?_⟩
  rw [report_of_last hlast]
  obtain ⟨-, -, hnone⟩ := Progress.foldlM_writeUnit_grows hwritten
  -- the reports agree if no unit is left as it is
  have hreport : (Progress.report { disk := d, written := units.map (folder.child ·.hintName) } =
      p₂.report) ↔ p₂.unchanged = [] := by
    simp only [Progress.report, Prod.mk.injEq]
    constructor
    · exact fun heq => heq.2.1.symm
    · intro heq
      exact ⟨(Progress.written_of_unchanged_eq hwritten heq).symm, heq.symm, hnone.symm⟩
  rw [List.nil_append, hreport]
  cases units with
  | nil =>
    cases hwritten
    exact iff_of_true rfl fun _ => nofun
  | cons u units =>
    obtain ⟨hname, hnames⟩ := List.forall_mem_cons.1 hnames
    rw [List.map_cons, List.nodup_cons] at hnodup
    obtain ⟨p₀, hstep, hrest⟩ := foldlM_cons_ok hwritten
    obtain ⟨halt, hreach₀, -⟩ := Progress.writeUnit_altered hd hname hstep
    have hmissing := holds_of_not_reaches hname hnot (hreads u List.mem_cons_self)
    -- the first unit is written, and with it the directory is reached
    have hfirst : p₀.unchanged = [] := by
      rcases Progress.writeUnit_ok hstep with ⟨hholds, rfl⟩ | ⟨-, disk, -, rfl⟩
      · rw [hmissing] at hholds
        cases hholds
      · rfl
    rw [← hfirst, Progress.unchanged_eq_iff (halt.sound hd) hreach₀ hnames hnodup.2 hrest]
    refine forall₂_congr fun v hv => not_congr (stored_of_altered hd halt ?_)
    intro heq
    exact hnodup.1 (heq ▸ List.mem_map_of_mem hv)

/-! ## When the reports agree -/

/-- Without steps back, nothing is stored in a directory that is not reached. -/
lemma not_stored_of_notMem (hd : d.Sound) (hnot : ¬ d.Reaches folder) (hback : ".." ∉ folder.names)
    (hshort : ∀ name ∈ folder.names, name.utf8ByteSize ≤ Disk.longestName) : ¬ Stored folder d u := by
  rintro ⟨bytes, raw, hfile, -⟩
  have hnone : d.content? (folder.resolve [] ++ [u.hintName]) = none :=
    Disk.content?_child_of_not_reaches hd hnot hback hshort
  rw [Disk.file?_eq_some_iff.1 hfile] at hnone
  cases hnone

/-- No name on the way of a writing that succeeds is too long. -/
lemma short_of_writeUnits (hd : d.Sound) (hnames : ∀ u ∈ units, IsFileName u.hintName)
    (hnodup : (units.map SourceUnit.hintName).Nodup) (hunits : units ≠ [])
    (h : writeUnits d folder units { options with dryRun := false } = .ok p) :
    ∀ name ∈ folder.names, name.utf8ByteSize ≤ Disk.longestName := by
  obtain ⟨-, p₁, -, -, hwritten, -⟩ := writeUnits_ok h
  obtain ⟨-, hreach, -⟩ := Progress.foldlM_writeUnit hd hnames hnodup hwritten
  exact Disk.short_of_locateFrom (hreach hunits).1

/-- A dry run leaves the disk as it is, even where it fails.  Whenever a writing succeeds, so does the dry run.
The two report the same exactly if the directory is reached or no unit but the first one is stored there, and so
they do whenever the path has no step back. -/
theorem dryRun_previews (options : WriteOptions) (hd : d.Sound)
    (hnames : ∀ u ∈ units, IsFileName u.hintName) (hnodup : (units.map SourceUnit.hintName).Nodup)
    (hlisted : ∀ m, previousUnits d folder = .ok m → ∀ name ∈ m.map Prod.fst, IsFileName name) :
    (outcome (writeUnits d folder units { options with dryRun := true })).disk = d ∧
    (outcome (writeUnits d folder units { options with dryRun := true })).actions = [] ∧
    ∀ p, writeUnits d folder units { options with dryRun := false } = .ok p →
      ∃ q, writeUnits d folder units { options with dryRun := true } = .ok q ∧
        (q.report = p.report ↔ d.Reaches folder ∨ ∀ u ∈ units.tail, ¬ Stored folder d u) ∧
        (".." ∉ folder.names → q.report = p.report) := by
  have huntouched : Untouched { disk := d }
      (outcome (writeUnits d folder units { options with dryRun := true })) := outcome_dryRun rfl
  obtain ⟨hdisk, hactions⟩ := huntouched
  refine ⟨hdisk, hactions, ?_⟩
  intro p h
  by_cases hreach : d.Reaches folder
  · obtain ⟨q, hdry, hreport⟩ := preview_of_reaches hd hnames hnodup hlisted hreach h
    exact ⟨q, hdry, iff_of_true hreport (.inl hreach), fun _ => hreport⟩
  · obtain ⟨q, hdry, hreport⟩ := preview_of_not_reaches hd hnames hnodup hreach h
    refine ⟨q, hdry, ?_, ?_⟩
    · rw [hreport]
      simp only [hreach, false_or]
    · intro hback
      refine hreport.2 fun u hu => not_stored_of_notMem hd hreach hback ?_
      refine short_of_writeUnits hd hnames hnodup ?_ h
      rintro rfl
      cases hu

/-- A disk with the second of two units. -/
def halfWritten : Disk :=
  (Disk.empty.put ["out"] .folder).put ["out", "B.g.cs"] (.file [98])

/-- The two units. -/
def bothUnits : List SourceUnit :=
  [{ hintName := "A.g.cs", text := "a" }, { hintName := "B.g.cs", text := "b" }]

/-- Where the way leads through a directory that is missing and back, the dry run reports as written what the
writing finds unchanged. -/
theorem dryRun_misses_stored :
    ∃ p q, writeUnits halfWritten ⟨.top, ["new", "..", "out"]⟩ bothUnits {} = .ok p ∧
      writeUnits halfWritten ⟨.top, ["new", "..", "out"]⟩ bothUnits { dryRun := true } = .ok q ∧
      q.report ≠ p.report := by
  have hd : halfWritten.Sound := (Disk.sound_empty.put rfl (by decide)).put rfl (by decide)
  have hnot : ¬ halfWritten.Reaches ⟨.top, ["new", "..", "out"]⟩ := by
    intro hreach
    cases hreach.1
  have hstored : Stored ⟨.top, ["new", "..", "out"]⟩ halfWritten { hintName := "B.g.cs", text := "b" } :=
    ⟨[98], ['b'], by decide, by decide +kernel, by decide⟩
  obtain ⟨p, hp⟩ : ∃ p, writeUnits halfWritten ⟨.top, ["new", "..", "out"]⟩ bothUnits {} = .ok p :=
    exists_ok_of_isSome (by decide +kernel)
  have hnames : ∀ u ∈ bothUnits, IsFileName u.hintName := by
    rw [bothUnits, List.forall_mem_cons, List.forall_mem_singleton]
    decide
  have hlisted (m : DigestMap) (hm : previousUnits halfWritten ⟨.top, ["new", "..", "out"]⟩ = .ok m) :
      ∀ name ∈ m.map Prod.fst, IsFileName name := by
    rw [previousUnits_of_not_reaches hnot] at hm
    cases hm
    exact fun _ => nofun
  obtain ⟨-, -, hpreview⟩ := dryRun_previews {} hd hnames (by decide) hlisted
  obtain ⟨q, hq, hreport, -⟩ := hpreview p hp
  refine ⟨p, q, hp, hq, ?_⟩
  intro heq
  rcases hreport.1 heq with hreach | hnone
  · exact hnot hreach
  · exact hnone _ List.mem_cons_self hstored

end PropertyQuote.Project
