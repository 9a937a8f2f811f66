import PropertyQuote.Proofs.Disk.Ways
import PropertyQuote.Proofs.Manifest

/-!
# What writing units does

One lemma inverts each step of a writing: a unit is written or left as it is, a stale unit is taken away or
was not there.  Runs of steps alter only the files that they are about, and in the end the directory holds
every unit, no stale one, and a manifest that lists the units.

* `writeUnit_ok`, `removeUnit_ok`, `writeUnits_ok`: the cases of a step and the parts of a writing.
* `foldlM_writeUnit`, `foldlM_removeUnit`: what runs of steps do.
* `Delivered`, `delivered_of_writeUnits`: what a whole writing does.
* `writeUnits_of_reads`: a writing that finds everything as it is.
-/

namespace PropertyQuote.Project

variable {d d' : Disk} {folder target : Path} {u : SourceUnit} {units : List SourceUnit}
  {name : String} {names : List String} {options : WriteOptions} {text : String} {p p' : Progress}

/-! ## Computations that may fail -/

/-- What two computations achieve, the first does in part and the second goes on from there. -/
lemma bind_ok {ε α β : Type} {x : Except ε α} {f : α → Except ε β} {b : β} (h : x >>= f = .ok b) :
    ∃ a, x = .ok a ∧ f a = .ok b := by
  cases x with
  | error => cases h
  | ok a => exact ⟨a, rfl, h⟩

/-- A computation with a result succeeds. -/
lemma exists_ok_of_isSome {ε α : Type} {x : Except ε α} (h : x.toOption.isSome = true) :
    ∃ a, x = .ok a := by
  cases x with
  | error => cases h
  | ok a => exact ⟨a, rfl⟩

/-- A run of steps is a first step and a run from there. -/
lemma foldlM_cons_ok {ε α σ : Type} {f : σ → α → Except ε σ} {a : α} {as : List α} {s s' : σ}
    (h : (a :: as).foldlM f s = .ok s') : ∃ s₁, f s a = .ok s₁ ∧ as.foldlM f s₁ = .ok s' := by
  rw [List.foldlM_cons] at h
  exact bind_ok h

/-- A refusal by the disk is a failure of the pass, and nothing else is. -/
lemma orRefused_eq_ok_iff {α : Type} {x : Except Disk.Refusal α} {a : α} :
    orRefused x = .ok a ↔ x = .ok a := by
  cases x <;> simp [orRefused]

/-! ## Questions about files -/

/-- The bytes that are read are those of the file that is seen. -/
lemma read_eq_ok_iff {bytes : List UInt8} : d.read target = .ok bytes ↔ d.look target = .ok (.file bytes) := by
  unfold Disk.read
  split
  case h_1 h => simp [h]
  case h_2 h => simp [h]
  case h_3 h => simp [h]

/-- A text is read from a file if its bytes are well-formed, with all line ends made one. -/
lemma readText_eq_ok_iff {cs : List Char} :
    readText d target = .ok cs ↔
      ∃ bytes raw, d.look target = .ok (.file bytes) ∧ Text.Utf8.decode? bytes = some raw ∧
        Text.unifyNewlines raw = cs := by
  constructor
  · intro h
    obtain ⟨bytes, hread, hrest⟩ := bind_ok h
    rw [orRefused_eq_ok_iff, read_eq_ok_iff] at hread
    cases hdecode : Text.Utf8.decode? bytes with
    | none =>
      rw [hdecode] at hrest
      cases hrest
    | some raw =>
      rw [hdecode] at hrest
      cases hrest
      exact ⟨bytes, raw, hread, hdecode, rfl⟩
  · rintro ⟨bytes, raw, hlook, hdecode, rfl⟩
    simp [readText, read_eq_ok_iff.2 hlook, orRefused, hdecode, bind, Except.bind, pure, Except.pure]

/-- The text of a file depends on what its path leads to alone. -/
lemma readText_congr {cs : List Char} (hlook : d'.look target = d.look target)
    (h : readText d target = .ok cs) : readText d' target = .ok cs := by
  rw [readText_eq_ok_iff] at h ⊢
  rwa [hlook]

/-- Whether something exists depends on what its path leads to alone. -/
lemma has_congr {b : Bool} (hlook : d'.look target = d.look target) (h : d.has target = .ok b) :
    d'.has target = .ok b := by
  rw [Disk.has_eq_ok_iff, hlook, ← Disk.has_eq_ok_iff]
  exact h

namespace Progress

/-- A file holds a text, or it holds another one, or there is nothing. -/
lemma holds_eq_ok_iff {b : Bool} :
    holds d target text = .ok b ↔
      (b = false ∧ ∃ cause, cause ≠ .tooLong ∧ d.look target = .error cause) ∨
        ∃ cs, readText d target = .ok cs ∧ b = (cs == text.toList) := by
  constructor
  · intro h
    obtain ⟨found, hfound, hrest⟩ := bind_ok h
    rw [orRefused_eq_ok_iff] at hfound
    cases found with
    | false =>
      cases hrest
      rcases Disk.has_eq_ok_iff.1 hfound with ⟨hb, -⟩ | ⟨-, hcause⟩
      · cases hb
      · exact .inl ⟨rfl, hcause⟩
    | true =>
      obtain ⟨cs, hcs, hb⟩ := bind_ok hrest
      cases hb
      exact .inr ⟨cs, hcs, rfl⟩
  · rintro (⟨rfl, hcause⟩ | ⟨cs, hcs, rfl⟩)
    · have hhas : d.has target = .ok false := Disk.has_eq_ok_iff.2 (.inr ⟨rfl, hcause⟩)
      rw [holds, hhas]
      rfl
    · obtain ⟨bytes, -, hlook, -⟩ := readText_eq_ok_iff.1 hcs
      have hhas : d.has target = .ok true := Disk.has_eq_ok_iff.2 (.inl ⟨rfl, _, hlook⟩)
      rw [holds, hhas]
      change (readText d target >>= fun cs => pure (cs == text.toList)) = _
      rw [hcs]
      rfl

/-- Whether a file holds a text depends on what its path leads to alone. -/
lemma holds_congr {b : Bool} (hlook : d'.look target = d.look target) (h : holds d target text = .ok b) :
    holds d' target text = .ok b := by
  rw [holds_eq_ok_iff] at h ⊢
  rcases h with ⟨hb, hcause⟩ | ⟨cs, hcs, hb⟩
  · rw [← hlook] at hcause
    exact .inl ⟨hb, hcause⟩
  · exact .inr ⟨cs, readText_congr hlook hcs, hb⟩

/-- A file that holds a text reads as this text. -/
lemma readText_of_holds (h : holds d target text = .ok true) :
    readText d target = .ok (Text.unifyNewlines text.toList) := by
  rcases holds_eq_ok_iff.1 h with ⟨hb, -⟩ | ⟨cs, hcs, hb⟩
  · cases hb
  · obtain ⟨-, raw, -, -, rfl⟩ := readText_eq_ok_iff.1 hcs
    rw [← beq_iff_eq.1 hb.symm, Text.unifyNewlines_idem]
    exact hcs

/-! ## Steps -/

/-- An action is performed and noted down. -/
lemma act_ok {action : Action} (h : p.act false action = .ok p') :
    ∃ disk, action.perform p.disk = .ok disk ∧
      p' = { p with disk, actions := p.actions ++ [action] } := by
  unfold act at h
  rw [if_neg Bool.false_ne_true] at h
  split at h
  case h_1 disk hdisk =>
    cases h
    exact ⟨disk, hdisk, rfl⟩
  case h_2 => cases h

/-- A unit that is there already is noted as unchanged. -/
lemma writeUnit_of_holds {dryRun : Bool} (h : holds p.disk (folder.child u.hintName) u.text = .ok true) :
    writeUnit folder dryRun p u = .ok { p with unchanged := p.unchanged ++ [folder.child u.hintName] } := by
  unfold writeUnit
  simp only [h]

/-- A unit that is not there is saved and noted as written. -/
lemma writeUnit_of_save {disk : Disk} (h : holds p.disk (folder.child u.hintName) u.text = .ok false)
    (hsave : p.disk.save (folder.child u.hintName) (Text.Utf8.encodeText u.text) = .ok disk) :
    writeUnit folder false p u = .ok { p with
      disk
      written := p.written ++ [folder.child u.hintName]
      actions := p.actions ++ [.save (folder.child u.hintName) u.text] } := by
  unfold writeUnit
  simp only [h]
  simp [act, Action.perform, hsave]

/-- A unit is left as it is, or it is written. -/
lemma writeUnit_ok (h : writeUnit folder false p u = .ok p') :
    (holds p.disk (folder.child u.hintName) u.text = .ok true ∧
        p' = { p with unchanged := p.unchanged ++ [folder.child u.hintName] }) ∨
      (holds p.disk (folder.child u.hintName) u.text = .ok false ∧ ∃ disk,
        p.disk.save (folder.child u.hintName) (Text.Utf8.encodeText u.text) = .ok disk ∧
        p' = { p with
          disk
          written := p.written ++ [folder.child u.hintName]
          actions := p.actions ++ [.save (folder.child u.hintName) u.text] }) := by
  unfold writeUnit at h
  dsimp only at h
  split at h
  case h_1 => cases h
  case h_2 hholds =>
    cases h
    exact .inl ⟨hholds, rfl⟩
  case h_3 hholds =>
    obtain ⟨disk, hdisk, rfl⟩ := act_ok h
    exact .inr ⟨hholds, disk, hdisk, rfl⟩

/-- A stale unit that is not there needs no step. -/
lemma removeUnit_of_missing {dryRun : Bool} (h : p.disk.has (folder.child name) = .ok false) :
    removeUnit folder dryRun p name = .ok p := by
  unfold removeUnit
  simp only [h]

/-- A stale unit that is there is removed and noted as such. -/
lemma removeUnit_of_remove {disk : Disk} (h : p.disk.has (folder.child name) = .ok true)
    (hremove : p.disk.remove (folder.child name) = .ok disk) :
    removeUnit folder false p name = .ok { p with
      disk
      removed := p.removed ++ [folder.child name]
      actions := p.actions ++ [.delete (folder.child name)] } := by
  unfold removeUnit
  simp only [h]
  simp [act, Action.perform, hremove]

/-- A unit that is to go was not there, or it is taken away. -/
lemma removeUnit_ok (h : removeUnit folder false p name = .ok p') :
    (p.disk.has (folder.child name) = .ok false ∧ p' = p) ∨
      (p.disk.has (folder.child name) = .ok true ∧ ∃ disk,
        p.disk.remove (folder.child name) = .ok disk ∧
        p' = { p with
          disk
          removed := p.removed ++ [folder.child name]
          actions := p.actions ++ [.delete (folder.child name)] }) := by
  unfold removeUnit at h
  dsimp only at h
  split at h
  case h_1 => cases h
  case h_2 hhas =>
    obtain ⟨disk, hdisk, rfl⟩ := act_ok h
    exact .inr ⟨hhas, disk, hdisk, rfl⟩
  case h_3 hhas =>
    cases h
    exact .inl ⟨hhas, rfl⟩

/-- After its step the directory holds the unit, and nothing else was altered. -/
lemma writeUnit_altered (hd : p.disk.Sound) (hname : IsFileName u.hintName)
    (h : writeUnit folder false p u = .ok p') :
    Disk.AlteredIn folder (· = u.hintName) p.disk p'.disk ∧ p'.disk.Reaches folder ∧
      readText p'.disk (folder.child u.hintName) = .ok (Text.unifyNewlines u.text.toList) := by
  rcases writeUnit_ok h with ⟨hholds, rfl⟩ | ⟨-, disk, hsave, rfl⟩
  · have hread := readText_of_holds hholds
    obtain ⟨bytes, -, hlook, -⟩ := readText_eq_ok_iff.1 hread
    exact ⟨.refl, (Disk.look_child_ok hname hlook).1, hread⟩
  · obtain ⟨hreach, hlook⟩ := Disk.look_of_save hname hsave
    refine ⟨Disk.alteredIn_save hd hname hsave, hreach, ?_⟩
    rw [readText_eq_ok_iff]
    exact ⟨_, _, hlook, Text.Utf8.decode?_encode _, rfl⟩

/-- A step that takes a unit away alters nothing else, and the unit is gone if it could be found. -/
lemma removeUnit_altered (hname : IsFileName name) (h : removeUnit folder false p name = .ok p') :
    Disk.AlteredIn folder (· = name) p.disk p'.disk ∧
      ((∃ c, p.disk.look (folder.child name) = .ok c) →
        p'.disk.content? (folder.resolve [] ++ [name]) = none) := by
  rcases removeUnit_ok h with ⟨hhas, rfl⟩ | ⟨-, disk, hremove, rfl⟩
  · refine ⟨.refl, ?_⟩
    rintro ⟨c, hlook⟩
    rcases Disk.has_eq_ok_iff.1 hhas with ⟨hb, -⟩ | ⟨-, cause, -, hcause⟩
    · cases hb
    · rw [hlook] at hcause
      cases hcause
  · obtain ⟨halt, hgone⟩ := Disk.remove_child hname hremove
    exact ⟨halt, fun _ => hgone⟩

/-! ## Runs -/

/-- After a run over units with different names the directory holds them all. -/
lemma foldlM_writeUnit (hd : p.disk.Sound) (hnames : ∀ u ∈ units, IsFileName u.hintName)
    (hnodup : (units.map SourceUnit.hintName).Nodup)
    (h : units.foldlM (writeUnit folder false) p = .ok p') :
    Disk.AlteredIn folder (· ∈ units.map SourceUnit.hintName) p.disk p'.disk ∧
      (units ≠ [] → p'.disk.Reaches folder) ∧
      ∀ u ∈ units, readText p'.disk (folder.child u.hintName) =
        .ok (Text.unifyNewlines u.text.toList) := by
  induction units generalizing p with
  | nil =>
    cases h
    exact ⟨.refl, fun hne => absurd rfl hne, fun _ => nofun⟩
  | cons u units ih =>
    obtain ⟨hname, hnames⟩ := List.forall_mem_cons.1 hnames
    rw [List.map_cons, List.nodup_cons] at hnodup
    obtain ⟨p₁, hstep, hrest⟩ := foldlM_cons_ok h
    obtain ⟨halt, hreach, hread⟩ := writeUnit_altered hd hname hstep
    have hd₁ := halt.sound hd
    obtain ⟨halt', -, hreads⟩ := ih hd₁ hnames hnodup.2 hrest
    refine ⟨?_, fun _ => halt'.reaches hd₁ hreach, List.forall_mem_cons.2 ⟨?_, hreads⟩⟩
    · refine Disk.AlteredIn.trans (halt.mono ?_) hd (halt'.mono ?_)
      · rintro name rfl
        exact List.mem_cons_self
      · intro name hmem
        exact List.mem_cons_of_mem _ hmem
    · -- the units that follow have other names
      exact readText_congr (halt'.look_child hd₁ hreach hname hnodup.1) hread

/-- After a run over names the units of these names are gone if they could be found. -/
lemma foldlM_removeUnit (hd : p.disk.Sound) (hnames : ∀ name ∈ names, IsFileName name)
    (hnodup : names.Nodup) (h : names.foldlM (removeUnit folder false) p = .ok p') :
    Disk.AlteredIn folder (· ∈ names) p.disk p'.disk ∧
      ∀ name ∈ names, (∃ c, p.disk.look (folder.child name) = .ok c) →
        p'.disk.content? (folder.resolve [] ++ [name]) = none := by
  induction names generalizing p with
  | nil =>
    cases h
    exact ⟨.refl, fun _ => nofun⟩
  | cons name names ih =>
    obtain ⟨hname, hnames⟩ := List.forall_mem_cons.1 hnames
    rw [List.nodup_cons] at hnodup
    obtain ⟨p₁, hstep, hrest⟩ := foldlM_cons_ok h
    obtain ⟨halt, hgone⟩ := removeUnit_altered hname hstep
    have hd₁ := halt.sound hd
    obtain ⟨halt', hgones⟩ := ih hd₁ hnames hnodup.2 hrest
    constructor
    · refine Disk.AlteredIn.trans (halt.mono ?_) hd (halt'.mono ?_)
      · rintro name rfl
        exact List.mem_cons_self
      · intro name hmem
        exact List.mem_cons_of_mem _ hmem
    · intro name' hmem hfound
      obtain ⟨c, hlook⟩ := hfound
      have hname' : IsFileName name' := (List.forall_mem_cons.2 ⟨hname, hnames⟩) name' hmem
      have hreach := (Disk.look_child_ok hname' hlook).1
      rcases List.mem_cons.1 hmem with rfl | hlater
      · rw [halt'.content?_child hd₁ (halt.reaches hd hreach) hnodup.1]
        exact hgone ⟨c, hlook⟩
      · refine hgones name' hlater ⟨c, ?_⟩
        rw [halt.look_child hd hreach hname', hlook]
        rintro rfl
        exact hnodup.1 hlater

/-! ## Runs that change nothing -/

/-- What a run has reported stays in its report. -/
lemma foldlM_writeUnit_grows (h : units.foldlM (writeUnit folder false) p = .ok p') :
    p.written <+: p'.written ∧ p.unchanged <+: p'.unchanged ∧ p'.removed = p.removed := by
  induction units generalizing p with
  | nil =>
    cases h
    exact ⟨List.prefix_rfl, List.prefix_rfl, rfl⟩
  | cons u units ih =>
    obtain ⟨p₁, hstep, hrest⟩ := foldlM_cons_ok h
    obtain ⟨hwritten, hunchanged, hremoved⟩ := ih hrest
    rcases writeUnit_ok hstep with ⟨-, rfl⟩ | ⟨-, disk, -, rfl⟩
    · exact ⟨hwritten, (List.prefix_append _ _).trans hunchanged, hremoved⟩
    · exact ⟨(List.prefix_append _ _).trans hwritten, hunchanged, hremoved⟩

/-- A run that reports no unit as written leaves everything as it is. -/
lemma eq_of_written_eq_nil (h : units.foldlM (writeUnit folder false) p = .ok p')
    (hwritten : p'.written = []) :
    p' = { p with unchanged := p.unchanged ++ units.map (folder.child ·.hintName) } := by
  induction units generalizing p with
  | nil =>
    cases h
    simp
  | cons u units ih =>
    obtain ⟨p₁, hstep, hrest⟩ := foldlM_cons_ok h
    rcases writeUnit_ok hstep with ⟨-, rfl⟩ | ⟨-, disk, -, rfl⟩
    · rw [ih hrest]
      simp
    · obtain ⟨hgrown, -⟩ := foldlM_writeUnit_grows hrest
      rw [hwritten] at hgrown
      simp at hgrown

/-- Removing units writes none, and what was removed stays noted. -/
lemma foldlM_removeUnit_grows (h : names.foldlM (removeUnit folder false) p = .ok p') :
    p'.written = p.written ∧ p.removed <+: p'.removed := by
  induction names generalizing p with
  | nil =>
    cases h
    exact ⟨rfl, List.prefix_rfl⟩
  | cons name names ih =>
    obtain ⟨p₁, hstep, hrest⟩ := foldlM_cons_ok h
    obtain ⟨hwritten, hremoved⟩ := ih hrest
    rcases removeUnit_ok hstep with ⟨-, rfl⟩ | ⟨-, disk, -, rfl⟩
    · exact ⟨hwritten, hremoved⟩
    · exact ⟨hwritten, (List.prefix_append _ _).trans hremoved⟩

/-- A run that reports no unit as removed leaves everything as it is. -/
lemma eq_of_removed_eq_nil (h : names.foldlM (removeUnit folder false) p = .ok p')
    (hremoved : p'.removed = []) : p' = p := by
  induction names generalizing p with
  | nil =>
    cases h
    rfl
  | cons name names ih =>
    obtain ⟨p₁, hstep, hrest⟩ := foldlM_cons_ok h
    rcases removeUnit_ok hstep with ⟨-, rfl⟩ | ⟨-, disk, -, rfl⟩
    · exact ih hrest
    · obtain ⟨-, hgrown⟩ := foldlM_removeUnit_grows hrest
      rw [hremoved] at hgrown
      simp at hgrown

end Progress

/-! ## Names of units -/

/-- A name of a unit that is a plain file name. -/
def IsUnitName (name : String) : Prop :=
  '/' ∉ name.toList ∧ ".g.cs".toList <:+ name.toList

instance : DecidablePred IsUnitName := fun _ => inferInstanceAs (Decidable (_ ∧ _))

/-- The name of a unit differs from every name with another ending. -/
lemma IsUnitName.ne (h : IsUnitName name) {other : String} (hother : ¬ ".g.cs".toList <:+ other.toList) :
    name ≠ other := by
  rintro rfl
  exact hother h.2

/-- The name of a unit can be that of a file. -/
lemma IsUnitName.isFileName (h : IsUnitName name) : IsFileName name :=
  ⟨h.ne (by decide), h.ne (by decide), h.ne (by decide), h.1⟩

/-- No unit is called like the manifest. -/
lemma IsUnitName.ne_manifestName (h : IsUnitName name) : name ≠ manifestName :=
  h.ne (by decide)

/-- The stale names are those that were listed and are listed no more. -/
lemma mem_staleNames {previous current : DigestMap} :
    name ∈ staleNames previous current ↔
      name ∈ previous.map Prod.fst ∧ name ∉ current.map Prod.fst := by
  rw [staleNames, List.mem_mergeSort, List.mem_filter, ← DigestMap.digest?_isSome_iff (m := current)]
  simp

/-- Distinct names that were listed make distinct stale names. -/
lemma nodup_staleNames {previous current : DigestMap} (h : (previous.map Prod.fst).Nodup) :
    (staleNames previous current).Nodup := by
  rw [staleNames, (List.mergeSort_perm _ _).nodup_iff]
  exact h.filter _

/-- No manifest lists a unit twice. -/
lemma nodup_previousUnits {m : DigestMap} (h : previousUnits d folder = .ok m) :
    (m.map Prod.fst).Nodup := by
  unfold previousUnits at h
  split at h
  case h_1 bytes _ =>
    cases hunits : Manifest.unitsOfBytes bytes with
    | error =>
      rw [hunits] at h
      cases h
    | ok n =>
      rw [hunits] at h
      cases h
      exact Manifest.nodup_of_unitsOfBytes hunits
  case h_2 =>
    cases h
    exact List.nodup_nil

/-! ## Storing the manifest -/

/-- The name of the manifest can be that of a file. -/
lemma isFileName_manifestName : IsFileName manifestName := by decide

/-- To record a manifest is to save its text. -/
lemma perform_record (m : Manifest) :
    (Action.record folder m).perform d =
      d.save (folder.child manifestName) (Text.Utf8.encodeText m.text) := by
  rw [Action.perform, Disk.save, Path.parent_child isFileName_manifestName]

/-- A manifest that is stored lists its units. -/
lemma previousUnits_of_save {m : Manifest} (hm : (m.units.map Prod.fst).Nodup)
    (h : d.save (folder.child manifestName) (Text.Utf8.encodeText m.text) = .ok d') :
    previousUnits d' folder = .ok m.units.sorted := by
  obtain ⟨-, hlook⟩ := Disk.look_of_save isFileName_manifestName h
  rw [previousUnits, read_eq_ok_iff.2 hlook]
  dsimp only
  rw [Manifest.unitsOfBytes_text hm]
  rfl

/-! ## A whole writing -/

/-- The names of the units that a writing takes away. -/
def WriteOptions.stale (options : WriteOptions) (previous : DigestMap) (units : List SourceUnit) :
    List String :=
  if options.prune then staleNames previous (unitDigests units) else []

/-- A stale unit was listed and is not one of the units. -/
lemma mem_stale {previous : DigestMap} (h : name ∈ options.stale previous units) :
    name ∈ previous.map Prod.fst ∧ name ∉ units.map SourceUnit.hintName := by
  unfold WriteOptions.stale at h
  split at h
  · rwa [mem_staleNames, mem_unitDigests] at h
  · cases h

/-- Units that are listed once are removed once. -/
lemma nodup_stale {previous : DigestMap} (h : (previous.map Prod.fst).Nodup) :
    (options.stale previous units).Nodup := by
  unfold WriteOptions.stale
  split
  · exact nodup_staleNames h
  · exact List.nodup_nil

/-- Without a list nothing is stale. -/
lemma stale_nil : options.stale [] units = [] := by
  rw [List.eq_nil_iff_forall_not_mem]
  intro name hname
  exact List.not_mem_nil (mem_stale hname).1

/-- Nothing is stale if the manifest lists the units. -/
lemma stale_of_perm {m : DigestMap} (h : m.Perm (unitDigests units)) : options.stale m units = [] := by
  rw [List.eq_nil_iff_forall_not_mem]
  intro name hname
  obtain ⟨hmem, hnot⟩ := mem_stale hname
  rw [← mem_unitDigests] at hnot
  exact hnot ((h.map Prod.fst).subset hmem)

/-- A manifest of some units lists something. -/
lemma ne_nil_of_perm {m : DigestMap} (hunits : units ≠ []) (h : m.Perm (unitDigests units)) : m ≠ [] := by
  rintro rfl
  obtain ⟨u, hu⟩ := List.exists_mem_of_ne_nil units hunits
  have hmem := mem_unitDigests.2 (List.mem_map_of_mem (f := SourceUnit.hintName) hu)
  rw [h.nil_eq.symm] at hmem
  cases hmem

/-- A writing is made of its parts: the list, the units, the stale units and the new manifest. -/
lemma writeUnits_eq {previous : DigestMap} {p₁ p₂ : Progress} (hprevious : previousUnits d folder = .ok previous)
    (hwritten : units.foldlM (Progress.writeUnit folder options.dryRun) { disk := d } = .ok p₁)
    (hremoved : (options.stale previous units).foldlM (Progress.removeUnit folder options.dryRun) p₁ =
      .ok p₂) :
    writeUnits d folder units options =
      if p₂.changed || !previous.same (unitDigests units) then
        p₂.act options.dryRun (.record folder ⟨options.fingerprint, unitDigests units⟩)
      else .ok p₂ := by
  unfold writeUnits
  rw [hprevious, hwritten]
  unfold WriteOptions.stale at hremoved
  simp only [Except.mapError, bind, Except.bind, hremoved]
  rfl

/-- The parts of a writing: units are written, stale ones are taken away, and the manifest is stored unless
nothing changed. -/
lemma writeUnits_ok (h : writeUnits d folder units options = .ok p) :
    ∃ previous p₁ p₂, previousUnits d folder = .ok previous ∧
      units.foldlM (Progress.writeUnit folder options.dryRun) { disk := d } = .ok p₁ ∧
      (options.stale previous units).foldlM (Progress.removeUnit folder options.dryRun) p₁ = .ok p₂ ∧
      (((p₂.changed || !previous.same (unitDigests units)) = true ∧
          p₂.act options.dryRun (.record folder ⟨options.fingerprint, unitDigests units⟩) = .ok p) ∨
        ((p₂.changed || !previous.same (unitDigests units)) = false ∧ p = p₂)) := by
  obtain ⟨previous, hprevious, h⟩ := bind_ok h
  obtain ⟨p₁, hwritten, h⟩ := bind_ok h
  obtain ⟨p₂, hremoved, h⟩ := bind_ok h
  refine ⟨previous, p₁, p₂, ?_, hwritten, hremoved, ?_⟩
  · cases hunits : previousUnits d folder with
    | error =>
      rw [hunits] at hprevious
      cases hprevious
    | ok m =>
      rw [hunits] at hprevious
      cases hprevious
      rfl
  · cases hstore : p₂.changed || !previous.same (unitDigests units) with
    | true =>
      rw [if_pos hstore] at h
      exact .inl ⟨rfl, h⟩
    | false =>
      rw [if_neg (by simp [hstore])] at h
      cases h
      exact .inr ⟨rfl, rfl⟩

/-- Where nothing is written or removed and the manifest lists the units, nothing was done. -/
lemma eq_of_quiet {previous : DigestMap} {p₁ p₂ : Progress} (hprevious : previousUnits d folder = .ok previous)
    (hwritten : units.foldlM (Progress.writeUnit folder false) { disk := d } = .ok p₁)
    (hremoved : names.foldlM (Progress.removeUnit folder false) p₁ = .ok p₂)
    (hquiet : (p₂.changed || !previous.same (unitDigests units)) = false) :
    previous.Perm (unitDigests units) ∧ p₂ = { disk := d, unchanged := units.map (folder.child ·.hintName) } := by
  rw [Bool.or_eq_false_iff, Progress.changed, Bool.or_eq_false_iff, Bool.not_eq_false', Bool.not_eq_false',
    Bool.not_eq_false', List.isEmpty_iff, List.isEmpty_iff] at hquiet
  obtain ⟨⟨hnone, hnone'⟩, hlisted⟩ := hquiet
  obtain rfl := Progress.eq_of_removed_eq_nil hremoved hnone'
  constructor
  · exact (DigestMap.same_iff_perm (nodup_previousUnits hprevious) (nodup_unitDigests units)).1 hlisted
  · simpa using Progress.eq_of_written_eq_nil hwritten hnone

/-- A writing that changes a file, or that finds other units in the manifest, stores the manifest at the end.
Any other one does nothing. -/
lemma stored_or_quiet (hreal : options.dryRun = false) (h : writeUnits d folder units options = .ok p) :
    ((p.changed = true ∨ ∀ m, previousUnits d folder = .ok m → ¬ m.Perm (unitDigests units)) ∧
        ∃ disk : Disk, disk.save (folder.child manifestName)
          (Text.Utf8.encodeText (Manifest.mk options.fingerprint (unitDigests units)).text) = .ok p.disk) ∨
      ((∃ m, previousUnits d folder = .ok m ∧ m.Perm (unitDigests units)) ∧
        p = { disk := d, unchanged := units.map (folder.child ·.hintName) }) := by
  obtain ⟨previous, p₁, p₂, hprevious, hwritten, hremoved, hlast⟩ := writeUnits_ok h
  rw [hreal] at hwritten hremoved hlast
  have hsame := DigestMap.same_iff_perm (nodup_previousUnits hprevious) (nodup_unitDigests units)
  rcases hlast with ⟨hstore, hact⟩ | ⟨hquiet, rfl⟩
  · left
    obtain ⟨disk, hdisk, rfl⟩ := Progress.act_ok hact
    rw [perform_record] at hdisk
    refine ⟨?_, _, hdisk⟩
    rcases Bool.or_eq_true_iff.1 hstore with hchanged | hother
    · exact .inl hchanged
    · right
      intro m hm hperm
      obtain rfl : previous = m := Except.ok.inj (hprevious.symm.trans hm)
      rw [hsame.2 hperm] at hother
      cases hother
  · right
    obtain ⟨hperm, hnothing⟩ := eq_of_quiet hprevious hwritten hremoved hquiet
    exact ⟨⟨previous, hprevious, hperm⟩, hnothing⟩

/-- After a writing the manifest lists the units. -/
lemma listed_of_writeUnits (hreal : options.dryRun = false)
    (h : writeUnits d folder units options = .ok p) :
    ∃ m, previousUnits p.disk folder = .ok m ∧ m.Perm (unitDigests units) := by
  rcases stored_or_quiet hreal h with ⟨-, disk, hsave⟩ | ⟨hlisted, rfl⟩
  · exact ⟨_, previousUnits_of_save (nodup_unitDigests units) hsave, DigestMap.sorted_perm _⟩
  · exact hlisted

/-- The manifest is the only file that the last step alters. -/
lemma altered_of_last {b : Bool} {m : Manifest} (hd : p.disk.Sound)
    (h : (b = true ∧ p.act false (.record folder m) = .ok p') ∨ (b = false ∧ p' = p)) :
    Disk.AlteredIn folder (· = manifestName) p.disk p'.disk := by
  rcases h with ⟨-, hact⟩ | ⟨-, rfl⟩
  · obtain ⟨disk, hdisk, rfl⟩ := Progress.act_ok hact
    rw [perform_record] at hdisk
    exact Disk.alteredIn_save hd isFileName_manifestName hdisk
  · exact .refl

/-- What a writing does to a directory: it holds the units, stale ones are gone, its manifest lists the units,
and nothing else is altered. -/
structure Delivered (folder : Path) (units : List SourceUnit) (stale : List String) (d d' : Disk) : Prop where
  altered : Disk.AlteredIn folder
    (fun name => name ∈ units.map SourceUnit.hintName ∨ name ∈ stale ∨ name = manifestName) d d'
  reads : ∀ u ∈ units, readText d' (folder.child u.hintName) = .ok (Text.unifyNewlines u.text.toList)
  gone : ∀ name ∈ stale, (∃ c, d.look (folder.child name) = .ok c) →
    d'.content? (folder.resolve [] ++ [name]) = none
  listed : ∃ m, previousUnits d' folder = .ok m ∧ m.Perm (unitDigests units)

/-- A unit that is read is in a directory that is reached. -/
lemma reaches_of_readText {cs : List Char} (hname : IsFileName name)
    (h : readText d (folder.child name) = .ok cs) : d.Reaches folder := by
  obtain ⟨bytes, -, hlook, -⟩ := readText_eq_ok_iff.1 h
  exact (Disk.look_child_ok hname hlook).1

/-- Every writing delivers. -/
lemma delivered_of_writeUnits {previous : DigestMap} (hd : d.Sound) (hreal : options.dryRun = false)
    (hnames : ∀ u ∈ units, IsFileName u.hintName ∧ u.hintName ≠ manifestName)
    (hnodup : (units.map SourceUnit.hintName).Nodup) (hprevious : previousUnits d folder = .ok previous)
    (hprevnames : ∀ name ∈ previous.map Prod.fst, IsFileName name ∧ name ≠ manifestName)
    (h : writeUnits d folder units options = .ok p) :
    Delivered folder units (options.stale previous units) d p.disk := by
  obtain ⟨previous', p₁, p₂, hprevious', hwritten, hremoved, hlast⟩ := writeUnits_ok h
  obtain rfl : previous' = previous := Except.ok.inj (hprevious'.symm.trans hprevious)
  rw [hreal] at hwritten hremoved hlast
  obtain ⟨halt₁, -, hreads₁⟩ := Progress.foldlM_writeUnit hd (fun u hu => (hnames u hu).1) hnodup hwritten
  have hd₁ := halt₁.sound hd
  obtain ⟨halt₂, hgone₂⟩ := Progress.foldlM_removeUnit hd₁
    (fun name hname => (hprevnames name (mem_stale hname).1).1)
    (nodup_stale (nodup_previousUnits hprevious)) hremoved
  have hd₂ := halt₂.sound hd₁
  have halt₃ := altered_of_last hd₂ hlast
  refine ⟨?_, ?_, ?_, listed_of_writeUnits hreal h⟩
  · refine Disk.AlteredIn.trans (halt₁.mono fun _ => .inl) hd ?_
    exact Disk.AlteredIn.trans (halt₂.mono fun _ hmem => .inr (.inl hmem)) hd₁
      (halt₃.mono fun _ heq => .inr (.inr heq))
  · intro u hu
    have hreach := reaches_of_readText (hnames u hu).1 (hreads₁ u hu)
    have hnot : u.hintName ∉ options.stale previous' units := by
      intro hmem
      exact (mem_stale hmem).2 (List.mem_map_of_mem hu)
    refine readText_congr (halt₃.look_child hd₂ (halt₂.reaches hd₁ hreach) (hnames u hu).1 (hnames u hu).2) ?_
    exact readText_congr (halt₂.look_child hd₁ hreach (hnames u hu).1 hnot) (hreads₁ u hu)
  · intro name hname hfound
    obtain ⟨c, hlook⟩ := hfound
    obtain ⟨hmem, hnot⟩ := mem_stale hname
    obtain ⟨hfile, hother⟩ := hprevnames name hmem
    have hreach := (Disk.look_child_ok hfile hlook).1
    have hreach₁ := halt₁.reaches hd hreach
    rw [halt₃.content?_child hd₂ (halt₂.reaches hd₁ hreach₁) hother]
    refine hgone₂ name hname ⟨c, ?_⟩
    rw [halt₁.look_child hd hreach hfile hnot, hlook]

/-! ## Writing again -/

/-- Where every unit can be read already, writing them notes all of them as unchanged. -/
lemma Progress.foldlM_writeUnit_of_reads {dryRun : Bool}
    (hreads : ∀ u ∈ units, readText p.disk (folder.child u.hintName) = .ok u.text.toList) :
    units.foldlM (writeUnit folder dryRun) p =
      .ok { p with unchanged := p.unchanged ++ units.map (folder.child ·.hintName) } := by
  induction units generalizing p with
  | nil => simp [pure, Except.pure]
  | cons u units ih =>
    obtain ⟨hread, hreads⟩ := List.forall_mem_cons.1 hreads
    have hholds : holds p.disk (folder.child u.hintName) u.text = .ok true :=
      holds_eq_ok_iff.2 (.inr ⟨_, hread, (beq_self_eq_true _).symm⟩)
    rw [List.foldlM_cons, writeUnit_of_holds hholds]
    refine (ih (p := { p with unchanged := p.unchanged ++ [folder.child u.hintName] }) hreads).trans ?_
    simp

/-- Where a directory holds units as they are, and its manifest lists them, there is nothing to do. -/
lemma writeUnits_of_reads {m : DigestMap} (hlisted : previousUnits d folder = .ok m)
    (hperm : m.Perm (unitDigests units))
    (hreads : ∀ u ∈ units, readText d (folder.child u.hintName) = .ok u.text.toList) :
    writeUnits d folder units options =
      .ok { disk := d, unchanged := units.map (folder.child ·.hintName) } := by
  have hsame : m.same (unitDigests units) = true :=
    (DigestMap.same_iff_perm (nodup_previousUnits hlisted) (nodup_unitDigests units)).2 hperm
  have hwritten : units.foldlM (Progress.writeUnit folder options.dryRun) { disk := d } =
      .ok { disk := d, unchanged := units.map (folder.child ·.hintName) } :=
    Progress.foldlM_writeUnit_of_reads hreads
  have hremoved : (options.stale m units).foldlM (Progress.removeUnit folder options.dryRun)
      { disk := d, unchanged := units.map (folder.child ·.hintName) } =
        .ok { disk := d, unchanged := units.map (folder.child ·.hintName) } := by
    rw [stale_of_perm hperm]
    rfl
  rw [writeUnits_eq hlisted hwritten hremoved, if_neg]
  simp [Progress.changed, hsame]

end PropertyQuote.Project
