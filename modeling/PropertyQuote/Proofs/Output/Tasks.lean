import PropertyQuote.Proofs.Output.Steps

/-!
# Tasks of a writing

A writing has one task for each file: to write a unit or to take a stale one away.  Tasks are about different files,
so a run of tasks can be stopped anywhere and begun anew: each file is then as it was before, or as its task left
it, and either way the task ends with the same file.

* `Task.run_actions`, `foldlM_interrupted`: where a run can be stopped.
* `Task.Repeatable`, `repeatable_of_foldlM`: each task of a run can be repeated.
* `foldlM_resumed`: a run that was stopped is completed by running it again.
-/

namespace PropertyQuote.Project

variable {d d' : Disk} {folder : Path} {u : SourceUnit} {units : List SourceUnit} {name : String}
  {names : List String} {options : WriteOptions} {p p' m q : Progress} {done rest : List Action}

/-! ## Actions one after the other -/

/-- The disk after some actions. -/
def performAll (d : Disk) (actions : List Action) : Except Disk.Refusal Disk :=
  actions.foldlM Action.perform d

/-- Actions are performed from the first one on. -/
lemma performAll_cons {action : Action} (h : action.perform d = .ok d') :
    performAll d (action :: rest) = performAll d' rest := by
  rw [performAll, List.foldlM_cons, h]
  rfl

/-- One more action is performed after the others. -/
lemma performAll_concat {action : Action} {disk : Disk} (h : performAll d done = .ok disk)
    (haction : action.perform disk = .ok d') : performAll d (done ++ [action]) = .ok d' := by
  unfold performAll at h ⊢
  rw [List.foldlM_append, h]
  change [action].foldlM Action.perform disk = .ok d'
  rw [List.foldlM_cons, haction]
  rfl

/-! ## Tasks -/

/-- What a writing has to do for one file: to write a unit, or to take a stale one away. -/
inductive Task where
  | write (u : SourceUnit)
  | remove (name : String)

namespace Task

variable {t : Task} {tasks before after : List Task}

/-- The file that a task is about. -/
def fileName : Task → String
  | write u => u.hintName
  | remove name => name

/-- A task is done by a step of a writing. -/
def run (folder : Path) (p : Progress) : Task → Except Halt Progress
  | write u => p.writeUnit folder false u
  | remove name => p.removeUnit folder false name

/-- Writing units and then taking others away is one run of tasks. -/
lemma foldlM_tasks :
    (units.map write ++ names.map remove).foldlM (run folder) p =
      units.foldlM (Progress.writeUnit folder false) p >>= names.foldlM (Progress.removeUnit folder false) := by
  rw [List.foldlM_append, List.foldlM_map]
  simp only [List.foldlM_map]
  rfl

/-- The tasks of a writing are about its units and what it takes away. -/
lemma map_fileName_tasks : (units.map write ++ names.map remove).map fileName =
    units.map SourceUnit.hintName ++ names := by
  rw [List.map_append, List.map_map, List.map_map]
  congr 1
  exact List.map_id names

/-- A task alters its own file at most. -/
lemma run_altered (hd : p.disk.Sound) (hname : IsFileName t.fileName) (h : run folder p t = .ok p') :
    Disk.AlteredIn folder (· = t.fileName) p.disk p'.disk := by
  cases t with
  | write u => exact (Progress.writeUnit_altered hd hname h).1
  | remove name => exact (Progress.removeUnit_altered hname h).1

/-- A task performs one action, or none. -/
lemma run_actions (h : run folder p t = .ok p') :
    (p'.actions = p.actions ∧ p'.disk = p.disk) ∨
      ∃ action, p'.actions = p.actions ++ [action] ∧ action.perform p.disk = .ok p'.disk := by
  cases t with
  | write u =>
    rcases Progress.writeUnit_ok h with ⟨-, rfl⟩ | ⟨-, disk, hsave, rfl⟩
    · exact .inl ⟨rfl, rfl⟩
    · exact .inr ⟨_, rfl, hsave⟩
  | remove name =>
    rcases Progress.removeUnit_ok h with ⟨-, rfl⟩ | ⟨-, disk, hremove, rfl⟩
    · exact .inl ⟨rfl, rfl⟩
    · exact .inr ⟨_, rfl, hremove⟩

/-! ## A task that is repeated -/

/-- A unit that is written again, from what was there before or from what was written, ends the same. -/
lemma write_again (hp : p.disk.Sound) (hname : IsFileName u.hintName)
    (h : Progress.writeUnit folder false p u = .ok p') (hq : q.disk.Reaches folder)
    (hcontent : (p.disk.Reaches folder ∧ q.disk.content? (folder.resolve [] ++ [u.hintName]) =
        p.disk.content? (folder.resolve [] ++ [u.hintName])) ∨
      q.disk.content? (folder.resolve [] ++ [u.hintName]) =
        p'.disk.content? (folder.resolve [] ++ [u.hintName])) :
    ∃ q', Progress.writeUnit folder false q u = .ok q' ∧
      q'.disk.content? (folder.resolve [] ++ [u.hintName]) =
        p'.disk.content? (folder.resolve [] ++ [u.hintName]) := by
  obtain ⟨-, hreach', hread⟩ := Progress.writeUnit_altered hp hname h
  rcases Progress.writeUnit_ok h with ⟨hholds, rfl⟩ | ⟨hholds, disk, hsave, rfl⟩
  · -- the unit was there all the time
    have hsame : q.disk.content? (folder.resolve [] ++ [u.hintName]) =
        p.disk.content? (folder.resolve [] ++ [u.hintName]) := by
      rcases hcontent with ⟨-, hsame⟩ | hsame
      · exact hsame
      · exact hsame
    have hlook := Disk.look_child_congr hname hreach' hq hsame
    exact ⟨_, Progress.writeUnit_of_holds (Progress.holds_congr hlook hholds), hsame⟩
  · have hfile := Disk.content?_of_save hname hsave
    have hagain (hne : q.disk.content? (folder.resolve [] ++ [u.hintName]) ≠ some .folder)
        (hnot : Progress.holds q.disk (folder.child u.hintName) u.text = .ok false) :
        ∃ q', Progress.writeUnit folder false q u = .ok q' ∧
          q'.disk.content? (folder.resolve [] ++ [u.hintName]) =
            disk.content? (folder.resolve [] ++ [u.hintName]) := by
      refine ⟨_, Progress.writeUnit_of_save hnot (Disk.save_again hname hsave hq hne), ?_⟩
      rw [hfile]
      exact Disk.content?_put_self (by simp)
    rcases hcontent with ⟨hreach, hsame⟩ | hsame
    · have hlook := Disk.look_child_congr hname hreach hq hsame
      apply hagain
      · rw [hsame]
        exact Disk.ne_folder_of_save hname hsave hreach
      · exact Progress.holds_congr hlook hholds
    · -- the file reads as the unit, but is written once more if lines of the unit end in another way
      have hlook : q.disk.look (folder.child u.hintName) = disk.look (folder.child u.hintName) :=
        Disk.look_child_congr hname hreach' hq hsame
      have hreadq := readText_congr hlook hread
      cases hb : (Text.unifyNewlines u.text.toList == u.text.toList) with
      | true =>
        refine ⟨_, Progress.writeUnit_of_holds ?_, hsame⟩
        exact Progress.holds_eq_ok_iff.2 (.inr ⟨_, hreadq, hb.symm⟩)
      | false =>
        apply hagain
        · rw [hsame, hfile]
          simp
        · exact Progress.holds_eq_ok_iff.2 (.inr ⟨_, hreadq, hb.symm⟩)

/-- A unit that was removed is missing. -/
lemma removeUnit_missing (hd : p.disk.Sound) (hname : IsFileName name)
    (h : Progress.removeUnit folder false p name = .ok p') : p'.disk.has (folder.child name) = .ok false := by
  rcases Progress.removeUnit_ok h with ⟨hhas, rfl⟩ | ⟨hhas, disk, hremove, rfl⟩
  · exact hhas
  · rcases Disk.has_eq_ok_iff.1 hhas with ⟨-, c, hlook⟩ | ⟨hb, -⟩
    · obtain ⟨halt, hgone⟩ := Disk.remove_child hname hremove
      have hreach := (Disk.look_child_ok hname hlook).1
      exact Disk.has_of_missing hname hlook (halt.reaches hd hreach) hgone
    · cases hb

/-- A unit that is taken away again is gone in the end. -/
lemma remove_again (hp : p.disk.Sound) (hname : IsFileName name)
    (h : Progress.removeUnit folder false p name = .ok p') (hreach : p.disk.Reaches folder)
    (hq : q.disk.Reaches folder)
    (hcontent : q.disk.content? (folder.resolve [] ++ [name]) =
        p.disk.content? (folder.resolve [] ++ [name]) ∨
      q.disk.content? (folder.resolve [] ++ [name]) = p'.disk.content? (folder.resolve [] ++ [name])) :
    ∃ q', Progress.removeUnit folder false q name = .ok q' ∧
      q'.disk.content? (folder.resolve [] ++ [name]) = p'.disk.content? (folder.resolve [] ++ [name]) := by
  obtain ⟨halt, -⟩ := Progress.removeUnit_altered hname h
  rcases hcontent with hsame | hsame
  · have hlook := Disk.look_child_congr hname hreach hq hsame
    rcases Progress.removeUnit_ok h with ⟨hhas, rfl⟩ | ⟨hhas, disk, hremove, rfl⟩
    · exact ⟨q, Progress.removeUnit_of_missing (has_congr hlook hhas), hsame⟩
    · obtain ⟨bytes, hfile⟩ := Disk.look_of_remove hremove
      obtain ⟨disk', hremove'⟩ := Disk.remove_of_look (hlook.trans hfile)
      refine ⟨_, Progress.removeUnit_of_remove (has_congr hlook hhas) hremove', ?_⟩
      rw [(Disk.remove_child hname hremove).2, (Disk.remove_child hname hremove').2]
  · have hlook := Disk.look_child_congr hname (halt.reaches hp hreach) hq hsame
    exact ⟨q, Progress.removeUnit_of_missing (has_congr hlook (removeUnit_missing hp hname h)), hsame⟩

/-- On every disk that reaches the directory and has `c` in the place of the task, the task succeeds and leaves
`c'` there. -/
def Repeatable (folder : Path) (t : Task) (c c' : Option Content) : Prop :=
  ∀ q : Progress, q.disk.Reaches folder → q.disk.content? (folder.resolve [] ++ [t.fileName]) = c →
    ∃ q', run folder q t = .ok q' ∧ q'.disk.content? (folder.resolve [] ++ [t.fileName]) = c'

/-- A task can be repeated on what it left, and on what it found in a directory that is reached. -/
lemma repeatable_of_run {c : Option Content} (hp : p.disk.Sound) (hname : IsFileName t.fileName)
    (h : run folder p t = .ok p') (hstart : p.disk.Reaches folder ∨ ∃ u, t = write u)
    (hc : c = p'.disk.content? (folder.resolve [] ++ [t.fileName]) ∨
      p.disk.Reaches folder ∧ c = p.disk.content? (folder.resolve [] ++ [t.fileName])) :
    Repeatable folder t c (p'.disk.content? (folder.resolve [] ++ [t.fileName])) := by
  rintro q hq rfl
  cases t with
  | write u => exact write_again hp hname h hq hc.symm
  | remove name =>
    have hreach : p.disk.Reaches folder := by
      rcases hstart with hreach | ⟨u, hu⟩
      · exact hreach
      · cases hu
    exact remove_again hp hname h hreach hq (hc.symm.imp_left And.right)

/-! ## Runs -/

/-- Some tasks alter their own files at most. -/
lemma foldlM_altered (hd : p.disk.Sound) (hnames : ∀ t ∈ tasks, IsFileName t.fileName)
    (h : tasks.foldlM (run folder) p = .ok p') :
    Disk.AlteredIn folder (· ∈ tasks.map fileName) p.disk p'.disk := by
  induction tasks generalizing p with
  | nil =>
    cases h
    exact .refl
  | cons t tasks ih =>
    obtain ⟨hname, hnames⟩ := List.forall_mem_cons.1 hnames
    obtain ⟨p₁, hstep, hrest⟩ := foldlM_cons_ok h
    have halt := run_altered hd hname hstep
    have halt' := ih (halt.sound hd) hnames hrest
    apply Disk.AlteredIn.trans (halt.mono _) hd (halt'.mono _)
    · rintro name rfl
      exact List.mem_cons_self
    · intro name hmem
      exact List.mem_cons_of_mem _ hmem

/-- The disk after a run is the one after its actions. -/
lemma foldlM_performs (h : tasks.foldlM (run folder) p = .ok p') :
    ∃ later, p'.actions = p.actions ++ later ∧ performAll p.disk later = .ok p'.disk := by
  induction tasks generalizing p with
  | nil =>
    cases h
    exact ⟨[], (List.append_nil _).symm, rfl⟩
  | cons t tasks ih =>
    obtain ⟨p₁, hstep, hrest⟩ := foldlM_cons_ok h
    obtain ⟨later, hlater, hdisk⟩ := ih hrest
    rcases run_actions hstep with ⟨hnone, hsame⟩ | ⟨action, hone, hperform⟩
    · exact ⟨later, hnone ▸ hlater, hsame ▸ hdisk⟩
    · refine ⟨action :: later, ?_, ?_⟩
      · rw [hlater, hone, List.append_assoc]
        rfl
      · rw [performAll_cons hperform]
        exact hdisk

/-- Wherever a run is stopped, some tasks were completed and the others were not begun. -/
lemma foldlM_interrupted (h : tasks.foldlM (run folder) p = .ok p')
    (hactions : p'.actions = p.actions ++ (done ++ rest)) :
    ∃ before after m, tasks = before ++ after ∧ before.foldlM (run folder) p = .ok m ∧
      after.foldlM (run folder) m = .ok p' ∧ m.actions = p.actions ++ done ∧
      performAll p.disk done = .ok m.disk := by
  induction tasks generalizing p done with
  | nil =>
    cases h
    obtain ⟨rfl, -⟩ := List.append_eq_nil_iff.1 (List.append_right_eq_self.1 hactions.symm)
    exact ⟨[], [], p', rfl, rfl, rfl, (List.append_nil _).symm, rfl⟩
  | cons t tasks ih =>
    cases done with
    | nil => exact ⟨[], t :: tasks, p, rfl, rfl, h, (List.append_nil _).symm, rfl⟩
    | cons first done =>
      obtain ⟨p₁, hstep, hrest⟩ := foldlM_cons_ok h
      rcases run_actions hstep with ⟨hnone, hdisk⟩ | ⟨action, hone, hperform⟩
      · rw [← hnone] at hactions
        obtain ⟨before, after, m, rfl, hbefore, hafter, hsofar, hdone⟩ := ih hrest hactions
        refine ⟨t :: before, after, m, rfl, ?_, hafter, hnone ▸ hsofar, hdisk ▸ hdone⟩
        rw [List.foldlM_cons, hstep]
        exact hbefore
      · -- the action of the task is the first one of the run
        obtain ⟨later, hlater, -⟩ := foldlM_performs hrest
        have heq : [action] ++ later = first :: (done ++ rest) := by
          rw [hlater, hone, List.append_assoc] at hactions
          exact List.append_cancel_left hactions
        obtain ⟨rfl, rfl⟩ := List.cons_eq_cons.1 heq
        obtain ⟨before, after, m, rfl, hbefore, hafter, hsofar, hdone⟩ := ih hrest hlater
        refine ⟨t :: before, after, m, rfl, ?_, hafter, ?_, ?_⟩
        · rw [List.foldlM_cons, hstep]
          exact hbefore
        · rw [hsofar, hone, List.append_assoc]
          rfl
        · rw [performAll_cons hperform]
          exact hdone

/-- A run that wrote a unit, or that started in a directory that is reached, ends in one. -/
lemma reaches_of_run (hd : p.disk.Sound) (hname : IsFileName t.fileName)
    (hstart : p.disk.Reaches folder ∨ ∃ u, t = write u) (h : run folder p t = .ok p') :
    p'.disk.Reaches folder := by
  rcases hstart with hreach | ⟨u, rfl⟩
  · exact (run_altered hd hname h).reaches hd hreach
  · exact (Progress.writeUnit_altered hd hname h).2.1

/-- After some tasks the directory is reached, if it was or if units are written. -/
lemma reaches_of_foldlM (hd : p.disk.Sound) (hnames : ∀ t ∈ tasks, IsFileName t.fileName)
    (hstart : p.disk.Reaches folder ∨ tasks ≠ [] ∧ ∀ t ∈ tasks, ∃ u, t = write u)
    (h : tasks.foldlM (run folder) p = .ok p') : p'.disk.Reaches folder := by
  cases tasks with
  | nil =>
    cases h
    rcases hstart with hreach | ⟨hne, -⟩
    · exact hreach
    · exact absurd rfl hne
  | cons t tasks =>
    obtain ⟨hname, hnames⟩ := List.forall_mem_cons.1 hnames
    obtain ⟨p₁, hstep, hrest⟩ := foldlM_cons_ok h
    have hreach₁ : p₁.disk.Reaches folder :=
      reaches_of_run hd hname (hstart.imp_right fun hwrites => hwrites.2 t List.mem_cons_self) hstep
    have hd₁ := (run_altered hd hname hstep).sound hd
    exact (foldlM_altered hd₁ hnames hrest).reaches hd₁ hreach₁

/-- Each task of a run can be repeated on what the run left, and on what the run found in a directory that is
reached. -/
lemma repeatable_of_foldlM (hp : p.disk.Sound) (hnames : ∀ t ∈ tasks, IsFileName t.fileName)
    (hnodup : (tasks.map fileName).Nodup) (hstart : p.disk.Reaches folder ∨ ∀ t ∈ tasks, ∃ u, t = write u)
    (h : tasks.foldlM (run folder) p = .ok p') :
    ∀ t ∈ tasks, ∀ c, (c = p'.disk.content? (folder.resolve [] ++ [t.fileName]) ∨
        p.disk.Reaches folder ∧ c = p.disk.content? (folder.resolve [] ++ [t.fileName])) →
      Repeatable folder t c (p'.disk.content? (folder.resolve [] ++ [t.fileName])) := by
  induction tasks generalizing p with
  | nil => exact fun _ => nofun
  | cons t tasks ih =>
    obtain ⟨hname, hnames⟩ := List.forall_mem_cons.1 hnames
    rw [List.map_cons, List.nodup_cons] at hnodup
    obtain ⟨p₁, hstep, hrest⟩ := foldlM_cons_ok h
    have hfirst : p.disk.Reaches folder ∨ ∃ u, t = write u :=
      hstart.imp_right fun hwrites => hwrites t List.mem_cons_self
    have halt := run_altered hp hname hstep
    have hp₁ := halt.sound hp
    have hreach₁ := reaches_of_run hp hname hfirst hstep
    refine List.forall_mem_cons.2 ⟨?_, ?_⟩
    · -- the tasks that follow are about other files
      rw [(foldlM_altered hp₁ hnames hrest).content?_child hp₁ hreach₁ hnodup.1]
      exact fun c hc => repeatable_of_run hp hname hstep hfirst hc
    · intro s hs c hc
      refine ih hp₁ hnames hnodup.2 (.inl hreach₁) hrest s hs c (hc.imp_right ?_)
      rintro ⟨hreach, rfl⟩
      refine ⟨hreach₁, (halt.content?_child hp hreach ?_).symm⟩
      intro heq
      exact hnodup.1 (heq ▸ List.mem_map_of_mem hs)

/-- Tasks about different files can be repeated together if each of them can be. -/
lemma foldlM_of_forall_repeatable {final : Disk} (hq : q.disk.Sound) (hreach : q.disk.Reaches folder)
    (hnames : ∀ t ∈ tasks, IsFileName t.fileName) (hnodup : (tasks.map fileName).Nodup)
    (h : ∀ t ∈ tasks, Repeatable folder t (q.disk.content? (folder.resolve [] ++ [t.fileName]))
      (final.content? (folder.resolve [] ++ [t.fileName]))) :
    ∃ q', tasks.foldlM (run folder) q = .ok q' ∧
      ∀ t ∈ tasks, q'.disk.content? (folder.resolve [] ++ [t.fileName]) =
        final.content? (folder.resolve [] ++ [t.fileName]) := by
  induction tasks generalizing q with
  | nil => exact ⟨q, rfl, fun _ => nofun⟩
  | cons t tasks ih =>
    obtain ⟨hname, hnames⟩ := List.forall_mem_cons.1 hnames
    obtain ⟨hfirst, hlater⟩ := List.forall_mem_cons.1 h
    rw [List.map_cons, List.nodup_cons] at hnodup
    obtain ⟨q₁, hstep, hdone⟩ := hfirst q hreach rfl
    have halt := run_altered hq hname hstep
    have hq₁ := halt.sound hq
    have hreach₁ := halt.reaches hq hreach
    -- the first task leaves the files of the others, so they can still be repeated
    have hlater₁ (s : Task) (hs : s ∈ tasks) :
        Repeatable folder s (q₁.disk.content? (folder.resolve [] ++ [s.fileName]))
          (final.content? (folder.resolve [] ++ [s.fileName])) := by
      rw [halt.content?_child hq hreach]
      · exact hlater s hs
      · intro heq
        exact hnodup.1 (heq ▸ List.mem_map_of_mem hs)
    obtain ⟨q', hrest, hdone'⟩ := ih hq₁ hreach₁ hnames hnodup.2 hlater₁
    refine ⟨q', ?_, List.forall_mem_cons.2 ⟨?_, hdone'⟩⟩
    · rw [List.foldlM_cons, hstep]
      exact hrest
    · rw [(foldlM_altered hq₁ hnames hrest).content?_child hq₁ hreach₁ hnodup.1, hdone]

/-- A run of tasks that can be repeated ends with a given disk, if all other places are as on this disk. -/
lemma foldlM_of_repeatable {final : Disk} (hq : q.disk.Sound) (hreach : q.disk.Reaches folder)
    (hnames : ∀ t ∈ tasks, IsFileName t.fileName) (hnodup : (tasks.map fileName).Nodup)
    (h : ∀ t ∈ tasks, Repeatable folder t (q.disk.content? (folder.resolve [] ++ [t.fileName]))
      (final.content? (folder.resolve [] ++ [t.fileName])))
    (hother : ∀ l, (∀ name ∈ tasks.map fileName, l ≠ folder.resolve [] ++ [name]) →
      q.disk.content? l = final.content? l) :
    ∃ q', tasks.foldlM (run folder) q = .ok q' ∧ ∀ l, q'.disk.content? l = final.content? l := by
  obtain ⟨q', hrun, hdone⟩ := foldlM_of_forall_repeatable hq hreach hnames hnodup h
  refine ⟨q', hrun, ?_⟩
  intro l
  by_cases htask : ∀ name ∈ tasks.map fileName, l ≠ folder.resolve [] ++ [name]
  · rw [(foldlM_altered hq hnames hrun).content?_elsewhere hq hreach htask]
    exact hother l htask
  · push Not at htask
    obtain ⟨name, hname, rfl⟩ := htask
    obtain ⟨t, ht, rfl⟩ := List.mem_map.1 hname
    exact hdone t ht

/-- A run that was stopped is completed by running it again. -/
lemma foldlM_resumed (hp : p.disk.Sound) (hnames : ∀ t ∈ before ++ after, IsFileName t.fileName)
    (hnodup : ((before ++ after).map fileName).Nodup)
    (hstart : p.disk.Reaches folder ∨ before ≠ [] ∧ ∀ t ∈ before, ∃ u, t = write u)
    (hbefore : before.foldlM (run folder) p = .ok m) (hafter : after.foldlM (run folder) m = .ok p') :
    ∃ q, (before ++ after).foldlM (run folder) { disk := m.disk } = .ok q ∧
      ∀ l, q.disk.content? l = p'.disk.content? l := by
  obtain ⟨hnames₁, hnames₂⟩ := List.forall_mem_append.1 hnames
  have hparts := hnodup
  rw [List.map_append, List.nodup_append] at hparts
  obtain ⟨hnodup₁, hnodup₂, hdisjoint⟩ := hparts
  have hm := (foldlM_altered hp hnames₁ hbefore).sound hp
  have hreach := reaches_of_foldlM hp hnames₁ hstart hbefore
  have halt := foldlM_altered hm hnames₂ hafter
  have hrepeat : ∀ t ∈ before ++ after,
      Repeatable folder t (m.disk.content? (folder.resolve [] ++ [t.fileName]))
        (p'.disk.content? (folder.resolve [] ++ [t.fileName])) := by
    -- the first tasks find what they left, the others what they found
    refine List.forall_mem_append.2 ⟨?_, ?_⟩
    · intro t ht
      rw [halt.content?_child hm hreach fun hmem => hdisjoint _ (List.mem_map_of_mem ht) _ hmem rfl]
      exact repeatable_of_foldlM hp hnames₁ hnodup₁ (hstart.imp_right And.right) hbefore t ht _ (.inl rfl)
    · intro t ht
      exact repeatable_of_foldlM hm hnames₂ hnodup₂ (.inl hreach) hafter t ht _ (.inr ⟨hreach, rfl⟩)
  refine foldlM_of_repeatable (q := { disk := m.disk }) hm hreach hnames hnodup hrepeat ?_
  intro l hl
  refine (halt.content?_elsewhere hm hreach ?_).symm
  intro name hname
  apply hl
  rw [List.map_append]
  exact List.mem_append_right _ hname

/-- Units that were removed are missing. -/
lemma missing_of_foldlM_remove (hd : p.disk.Sound) (hreach : p.disk.Reaches folder)
    (hnames : ∀ name ∈ names, IsFileName name) (hnodup : names.Nodup)
    (h : names.foldlM (Progress.removeUnit folder false) p = .ok p') :
    ∀ name ∈ names, p'.disk.has (folder.child name) = .ok false := by
  induction names generalizing p with
  | nil => exact fun _ => nofun
  | cons name names ih =>
    obtain ⟨hname, hnames⟩ := List.forall_mem_cons.1 hnames
    rw [List.nodup_cons] at hnodup
    obtain ⟨p₁, hstep, hrest⟩ := foldlM_cons_ok h
    obtain ⟨halt, -⟩ := Progress.removeUnit_altered hname hstep
    have hd₁ := halt.sound hd
    have hreach₁ := halt.reaches hd hreach
    obtain ⟨halt', -⟩ := Progress.foldlM_removeUnit hd₁ hnames hnodup.2 hrest
    refine List.forall_mem_cons.2 ⟨?_, ih hd₁ hreach₁ hnames hnodup.2 hrest⟩
    exact has_congr (halt'.look_child hd₁ hreach₁ hname hnodup.1) (removeUnit_missing hd hname hstep)

/-- Units that are missing need no steps. -/
lemma foldlM_remove_of_missing (h : ∀ name ∈ names, p.disk.has (folder.child name) = .ok false) :
    names.foldlM (Progress.removeUnit folder false) p = .ok p := by
  induction names with
  | nil => rfl
  | cons name names ih =>
    obtain ⟨hfirst, hlater⟩ := List.forall_mem_cons.1 h
    rw [List.foldlM_cons, Progress.removeUnit_of_missing hfirst]
    exact ih hlater

end Task

end PropertyQuote.Project
