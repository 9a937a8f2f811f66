import PropertyQuote.Proofs.Output.Steps

/-!
# Series of writings

Writings into one directory that follow one another.  The manifest ties them together: each call finds there
what the one before wrote, so that no unit is left over and no other file is ever touched.  The fingerprint in
the manifest is not that of the last call, but that of the last call which stored the manifest.

* `Tracks.next`: what one call preserves.
* `directory_after_series`: what a directory holds after any series of calls.
* `fingerprint_after_series`: which fingerprint the manifest records.
-/

namespace PropertyQuote.Project

variable {folder : Path} {d d' : Disk}

/-- A writing into a directory that succeeded. -/
structure Call (folder : Path) where
  before : Disk
  units : List SourceUnit
  options : WriteOptions
  after : Progress
  success : writeUnits before folder units options = .ok after

/-- Calls that follow one another, from a first disk to a last one. -/
inductive Series (folder : Path) (d : Disk) : List (Call folder) → Disk → Prop where
  | start : Series folder d [] d
  | next {calls : List (Call folder)} {c : Call folder} :
    Series folder d calls c.before →
    Series folder d (calls ++ [c]) c.after.disk

namespace Call

/-- A call that is known to succeed. -/
def ofSuccess (before : Disk) (units : List SourceUnit) (options : WriteOptions)
    (h : (writeUnits before folder units options).toOption.isSome = true) : Call folder where
  before
  units
  options
  after := (writeUnits before folder units options).toOption.get h
  success := by
    revert h
    cases writeUnits before folder units options with
    | error => exact nofun
    | ok p => exact fun _ => rfl

/-- The names of the units of a call. -/
def names (c : Call folder) : List String :=
  c.units.map SourceUnit.hintName

/-- The call writes to the disk and prunes, and its units have different plain names. -/
structure Plain (c : Call folder) : Prop where
  real : c.options.dryRun = false
  prunes : c.options.prune = true
  nodup : c.names.Nodup
  named : ∀ name ∈ c.names, IsUnitName name

/-- The call changed a file, or it found other units in the manifest than its own. -/
def Stores (c : Call folder) : Prop :=
  c.after.changed = true ∨ ∀ m, previousUnits c.before folder = .ok m → ¬ m.Perm (unitDigests c.units)

end Call

/-! ## What a directory holds -/

/-- What is known of a disk after some calls: `names` are those of all units so far, `units` are the units of
the last call. -/
structure Tracks (folder : Path) (d : Disk) (names : List String) (units : List SourceUnit) (d' : Disk) :
    Prop where
  sound : d'.Sound
  named : ∀ name ∈ names, IsUnitName name
  current : ∀ u ∈ units, u.hintName ∈ names
  reads : ∀ u ∈ units, readText d' (folder.child u.hintName) = .ok (Text.unifyNewlines u.text.toList)
  listed : ∃ m, previousUnits d' folder = .ok m ∧ m.Perm (unitDigests units)
  gone : ∀ name ∈ names, name ∉ units.map SourceUnit.hintName →
    d'.content? (folder.resolve [] ++ [name]) = none
  reaches : names ≠ [] → d'.Reaches folder
  others : ∀ l : Location, (∀ name ∈ names ++ [manifestName], l ≠ folder.resolve [] ++ [name]) →
    d'.file? l = d.file? l

/-- Before the first call nothing was written. -/
lemma tracks_start (hd : d.Sound) (hfresh : previousUnits d folder = .ok []) : Tracks folder d [] [] d where
  sound := hd
  named _ := nofun
  current _ := nofun
  reads _ := nofun
  listed := ⟨[], hfresh, .nil⟩
  gone _ := nofun
  reaches h := absurd rfl h
  others _ _ := rfl

/-- What is known of a disk is known after one more call. -/
lemma Tracks.next {names : List String} {units : List SourceUnit} {c : Call folder}
    (h : Tracks folder d names units c.before) (hc : c.Plain) :
    Tracks folder d (names ++ c.names) c.units c.after.disk := by
  obtain ⟨m, hprevious, hperm⟩ := h.listed
  -- the manifest lists the units of the last call, and nothing else
  have hmem (name : String) : name ∈ m.map Prod.fst ↔ name ∈ units.map SourceUnit.hintName := by
    rw [(hperm.map Prod.fst).mem_iff, mem_unitDigests]
  have hprevnames {name : String} (hname : name ∈ m.map Prod.fst) : name ∈ names := by
    obtain ⟨u, hu, rfl⟩ := List.mem_map.1 ((hmem name).1 hname)
    exact h.current u hu
  have hfilename (name : String) (hname : IsUnitName name) : IsFileName name ∧ name ≠ manifestName :=
    ⟨hname.isFileName, hname.ne_manifestName⟩
  have hdone : Delivered folder c.units (c.options.stale m c.units) c.before c.after.disk := by
    refine delivered_of_writeUnits h.sound hc.real ?_ hc.nodup hprevious ?_ c.success
    · intro u hu
      exact hfilename _ (hc.named _ (List.mem_map_of_mem hu))
    · intro name hname
      exact hfilename _ (h.named _ (hprevnames hname))
  refine ⟨hdone.altered.sound h.sound, ?_, ?_, hdone.reads, hdone.listed, ?_, ?_, ?_⟩
  · intro name hname
    rcases List.mem_append.1 hname with hold | hnew
    · exact h.named name hold
    · exact hc.named name hnew
  · intro u hu
    exact List.mem_append_right names (List.mem_map_of_mem hu)
  · intro name hname hnot
    have hold : name ∈ names := (List.mem_append.1 hname).resolve_right hnot
    have hunit := h.named name hold
    by_cases hlast : name ∈ units.map SourceUnit.hintName
    · -- a unit of the last call is found, and so it is taken away
      have hstale : name ∈ c.options.stale m c.units := by
        rw [WriteOptions.stale, if_pos hc.prunes, mem_staleNames, mem_unitDigests]
        exact ⟨(hmem name).2 hlast, hnot⟩
      obtain ⟨u, hu, rfl⟩ := List.mem_map.1 hlast
      obtain ⟨bytes, -, hlook, -⟩ := readText_eq_ok_iff.1 (h.reads u hu)
      exact hdone.gone _ hstale ⟨_, hlook⟩
    · -- any other one was gone before, and nothing comes up in its place
      have hreach := h.reaches (List.ne_nil_of_mem hold)
      rw [hdone.altered.content?_child h.sound hreach, h.gone name hold hlast]
      rintro (hnew | hstale | hmanifest)
      · exact hnot hnew
      · exact hlast ((hmem name).1 (mem_stale hstale).1)
      · exact hunit.ne_manifestName hmanifest
  · intro hne
    by_cases hold : names = []
    · obtain ⟨u, hu⟩ := List.exists_mem_of_ne_nil c.units (by
        intro hnone
        rw [hold, Call.names, hnone] at hne
        exact hne rfl)
      have hunit := hc.named _ (List.mem_map_of_mem hu)
      exact reaches_of_readText hunit.isFileName (hdone.reads u hu)
    · exact hdone.altered.reaches h.sound (h.reaches hold)
  · intro l hl
    rw [hdone.altered.file?_eq h.sound, h.others]
    · intro name hname
      apply hl
      rcases List.mem_append.1 hname with hold | hmanifest
      · exact List.mem_append_left _ (List.mem_append_left _ hold)
      · exact List.mem_append_right _ hmanifest
    · intro name hname
      apply hl
      rcases hname with hnew | hstale | rfl
      · exact List.mem_append_left _ (List.mem_append_right _ hnew)
      · exact List.mem_append_left _ (List.mem_append_left _ (hprevnames (mem_stale hstale).1))
      · exact List.mem_append_right _ List.mem_cons_self

/-- After a series of calls the files of all calls may have been touched, and those of the last one are listed. -/
lemma tracks_of_series {calls : List (Call folder)} (hd : d.Sound) (hfresh : previousUnits d folder = .ok [])
    (hplain : ∀ c ∈ calls, c.Plain) (h : Series folder d calls d') :
    Tracks folder d (calls.flatMap Call.names) ((calls.getLast?.map Call.units).getD []) d' := by
  induction h with
  | start => exact tracks_start hd hfresh
  | next hcalls ih =>
    rw [List.forall_mem_append, List.forall_mem_singleton] at hplain
    have htracks := (ih hplain.1).next hplain.2
    simpa using htracks

/-- After any series of calls that prune, the directory holds the units of the last call, those of earlier calls
are gone, and every other file on the disk but the manifest is as it was. -/
theorem directory_after_series {earlier : List (Call folder)} {last : Call folder} (hd : d.Sound)
    (hfresh : previousUnits d folder = .ok []) (hplain : ∀ c ∈ earlier ++ [last], c.Plain)
    (h : Series folder d (earlier ++ [last]) d') :
    (∀ u ∈ last.units,
      readText d' (folder.child u.hintName) = .ok (Text.unifyNewlines u.text.toList)) ∧
    (∀ name ∈ earlier.flatMap Call.names, name ∉ last.names →
      d'.content? (folder.resolve [] ++ [name]) = none) ∧
    (∀ l : Location,
      (∀ name ∈ (earlier ++ [last]).flatMap Call.names ++ [manifestName], l ≠ folder.resolve [] ++ [name]) →
      d'.file? l = d.file? l) := by
  have htracks := tracks_of_series hd hfresh hplain h
  rw [List.getLast?_concat, Option.map_some, Option.getD_some] at htracks
  refine ⟨htracks.reads, ?_, htracks.others⟩
  intro name hname hnot
  refine htracks.gone name ?_ hnot
  rw [List.flatMap_append]
  exact List.mem_append_left _ hname

/-- A call with one unit, on an empty disk. -/
def firstCall : Call ⟨.top, ["out"]⟩ :=
  .ofSuccess .empty [{ hintName := "A.g.cs", text := "a" }] { fingerprint := "first" } (by decide +kernel)

/-- The first call lists its unit. -/
lemma previousUnits_firstCall :
    previousUnits firstCall.after.disk ⟨.top, ["out"]⟩ = .ok [("A.g.cs", textDigest "a")] := by
  obtain ⟨m, hm, hperm⟩ := listed_of_writeUnits rfl firstCall.success
  rw [hm, List.perm_singleton.1 hperm]

/-- A call with another unit, after the first one. -/
def otherCall : Call ⟨.top, ["out"]⟩ :=
  .ofSuccess firstCall.after.disk [{ hintName := "B.g.cs", text := "b\r\n" }] { fingerprint := "second" } (by
    unfold writeUnits
    rw [previousUnits_firstCall]
    decide +kernel)

/-- The unit of the first call is replaced by that of the second one. -/
theorem directory_after_series_replaced :
    Series ⟨.top, ["out"]⟩ .empty [firstCall, otherCall] otherCall.after.disk ∧
      readText otherCall.after.disk (Path.child ⟨.top, ["out"]⟩ "B.g.cs") = .ok ['b', '\n'] ∧
      otherCall.after.disk.content? ["out", "A.g.cs"] = none ∧
      otherCall.after.disk.file? ["out", "C.cs"] = none := by
  have hplain : ∀ c ∈ [firstCall] ++ [otherCall], c.Plain := by
    rw [List.forall_mem_append, List.forall_mem_singleton, List.forall_mem_singleton]
    exact ⟨⟨rfl, rfl, by decide, by decide⟩, ⟨rfl, rfl, by decide, by decide⟩⟩
  have hseries : Series ⟨.top, ["out"]⟩ .empty ([firstCall] ++ [otherCall]) otherCall.after.disk :=
    .next (c := otherCall) (.next (c := firstCall) .start)
  have hfresh : previousUnits .empty ⟨.top, ["out"]⟩ = .ok [] := rfl
  obtain ⟨hreads, hgone, hothers⟩ := directory_after_series Disk.sound_empty hfresh hplain hseries
  have hread := hreads { hintName := "B.g.cs", text := "b\r\n" } List.mem_cons_self
  have hunified : Text.unifyNewlines "b\r\n".toList = ['b', '\n'] := by decide
  rw [hunified] at hread
  refine ⟨hseries, hread, hgone "A.g.cs" (by decide) (by decide), ?_⟩
  exact hothers ["out", "C.cs"] (by decide)

/-! ## What the manifest records -/

/-- The fingerprint that the manifest of a directory records. -/
def fingerprint? (d : Disk) (folder : Path) : Option Json :=
  (d.read (folder.child manifestName)).toOption.bind Manifest.fingerprintOfBytes?

/-- A call that stores the manifest records its fingerprint, any other one leaves the disk as it is. -/
lemma Call.recorded_or_quiet {c : Call folder} (hreal : c.options.dryRun = false) :
    (c.Stores ∧ fingerprint? c.after.disk folder = some (.str c.options.fingerprint)) ∨
      (¬ c.Stores ∧ c.after.disk = c.before) := by
  rcases stored_or_quiet hreal c.success with ⟨hstores, disk, hsave⟩ | ⟨⟨m, hm, hperm⟩, hquiet⟩
  · obtain ⟨-, hlook⟩ := Disk.look_of_save isFileName_manifestName hsave
    refine .inl ⟨hstores, ?_⟩
    rw [fingerprint?, read_eq_ok_iff.2 hlook]
    exact Manifest.fingerprintOfBytes?_text (nodup_unitDigests c.units)
  · right
    rw [Stores, hquiet]
    refine ⟨?_, rfl⟩
    rintro (hchanged | hother)
    · cases hchanged
    · exact hother m hm hperm

/-- A manifest that lists anything is there. -/
lemma read_of_previousUnits {m : DigestMap} (hm : previousUnits d folder = .ok m) (hne : m ≠ []) :
    ∃ bytes, d.read (folder.child manifestName) = .ok bytes := by
  unfold previousUnits at hm
  split at hm
  case h_1 bytes hread => exact ⟨bytes, hread⟩
  case h_2 =>
    cases hm
    exact absurd rfl hne

/-- A real call with units leaves a manifest. -/
lemma Call.manifest_exists {c : Call folder} (hreal : c.options.dryRun = false) (hunits : c.units ≠ []) :
    ∃ bytes, c.after.disk.read (folder.child manifestName) = .ok bytes := by
  obtain ⟨m, hm, hperm⟩ := listed_of_writeUnits hreal c.success
  exact read_of_previousUnits hm (ne_nil_of_perm hunits hperm)

/-- After any series of calls the manifest is there, and it records the fingerprint of the last call that stored
it.  If none did, the disk is as it was.  So the fingerprint of the last call is recorded exactly if this call
stored the manifest or found its fingerprint there. -/
theorem fingerprint_after_series {calls : List (Call folder)}
    (hcalls : ∀ c ∈ calls, c.options.dryRun = false ∧ c.units ≠ []) (h : Series folder d calls d') :
    (calls ≠ [] → ∃ bytes, d'.read (folder.child manifestName) = .ok bytes) ∧
    (∀ earlier c later, calls = earlier ++ c :: later → c.Stores → (∀ c' ∈ later, ¬ c'.Stores) →
      fingerprint? d' folder = some (.str c.options.fingerprint)) ∧
    ((∀ c ∈ calls, ¬ c.Stores) → d' = d) ∧
    (∀ earlier last, calls = earlier ++ [last] →
      (fingerprint? d' folder = some (.str last.options.fingerprint) ↔
        last.Stores ∨ fingerprint? last.before folder = some (.str last.options.fingerprint))) := by
  induction h with
  | start => simp
  | @next calls c hseries ih =>
    rw [List.forall_mem_append, List.forall_mem_singleton] at hcalls
    obtain ⟨hearlier, hreal, hunits⟩ := hcalls
    obtain ⟨-, ihstored, ihquiet, -⟩ := ih hearlier
    have hlast := Call.recorded_or_quiet hreal
    refine ⟨fun _ => Call.manifest_exists hreal hunits, ?_, ?_, ?_⟩
    · intro earlier c₀ later heq hstores hlater
      rcases List.eq_nil_or_concat later with rfl | ⟨later', c', rfl⟩
      · obtain ⟨-, heq'⟩ := List.append_inj' heq rfl
        obtain rfl := List.singleton_inj.1 heq'
        exact (hlast.resolve_right fun hquiet => hquiet.1 hstores).2
      · -- the last call did nothing, so the calls before it decide
        rw [List.concat_eq_append, ← List.cons_append, ← List.append_assoc] at heq
        obtain ⟨rfl, heq'⟩ := List.append_inj' heq rfl
        obtain rfl := List.singleton_inj.1 heq'
        rw [List.concat_eq_append, List.forall_mem_append, List.forall_mem_singleton] at hlater
        obtain ⟨-, hsame⟩ := hlast.resolve_left fun hstored => hlater.2 hstored.1
        rw [hsame]
        exact ihstored earlier c₀ later' rfl hstores hlater.1
    · intro hnone
      rw [List.forall_mem_append, List.forall_mem_singleton] at hnone
      obtain ⟨-, hsame⟩ := hlast.resolve_left fun hstored => hnone.2 hstored.1
      rw [hsame]
      exact ihquiet hnone.1
    · intro earlier last heq
      obtain ⟨-, heq'⟩ := List.append_inj' heq rfl
      obtain rfl := List.singleton_inj.1 heq'
      rcases hlast with ⟨hstores, hrecorded⟩ | ⟨hnot, hsame⟩
      · simp [hstores, hrecorded]
      · simp [hnot, hsame]

/-- A call with the unit of the first one and another fingerprint, after the first one. -/
def sameCall : Call ⟨.top, ["out"]⟩ where
  before := firstCall.after.disk
  units := firstCall.units
  options := { fingerprint := "second" }
  after := { disk := firstCall.after.disk, unchanged := [⟨.top, ["out", "A.g.cs"]⟩] }
  success := by
    refine writeUnits_of_reads previousUnits_firstCall (.refl _) ?_
    intro u hu
    obtain rfl := List.mem_singleton.1 hu
    have hd : firstCall.before.Sound := Disk.sound_empty
    have hfresh : previousUnits firstCall.before ⟨.top, ["out"]⟩ = .ok [] := rfl
    refine (delivered_of_writeUnits hd rfl ?_ ?_ hfresh (fun _ => nofun) firstCall.success).reads _ hu
    · intro u hu
      obtain rfl := List.mem_singleton.1 hu
      decide
    · decide

/-- The fingerprint of a call that finds its units as they are is not recorded. -/
theorem fingerprint_after_series_stays :
    Series ⟨.top, ["out"]⟩ .empty [firstCall, sameCall] sameCall.after.disk ∧
      sameCall.options.fingerprint = "second" ∧
      fingerprint? sameCall.after.disk ⟨.top, ["out"]⟩ = some (.str "first") := by
  have hseries : Series ⟨.top, ["out"]⟩ .empty ([firstCall] ++ [sameCall]) sameCall.after.disk :=
    .next (c := sameCall) (.next (c := firstCall) .start)
  have hcalls : ∀ c ∈ [firstCall] ++ [sameCall], c.options.dryRun = false ∧ c.units ≠ [] := by
    rw [List.forall_mem_append, List.forall_mem_singleton, List.forall_mem_singleton]
    exact ⟨⟨rfl, by decide⟩, ⟨rfl, by decide⟩⟩
  have hstores : firstCall.Stores := .inl (by decide +kernel)
  have hquiet : ¬ sameCall.Stores := by
    rintro (hchanged | hother)
    · cases hchanged
    · exact hother _ previousUnits_firstCall (.refl _)
  obtain ⟨-, hrecorded, -⟩ := fingerprint_after_series hcalls hseries
  refine ⟨hseries, rfl, hrecorded [] firstCall [sameCall] rfl hstores ?_⟩
  rw [List.forall_mem_singleton]
  exact hquiet

end PropertyQuote.Project
