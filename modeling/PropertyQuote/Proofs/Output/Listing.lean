import PropertyQuote.Proofs.Output.Steps

/-!
# What the manifest lists

After a writing the manifest lists the digest of every unit, and of units with the same name that of the last one.  It
does so whatever was in its place before, also when nothing is stored: then it was read as the same map already.

* `DigestMap.digest?_record`, `digest?_foldl_record`: what is recorded in one step and in a run of steps.
* `manifest_lists_units`: what the manifest lists after a writing.
-/

namespace PropertyQuote.Project

variable {d : Disk} {folder : Path} {units : List SourceUnit} {options : WriteOptions} {p : Progress}
  {m n : DigestMap}

namespace DigestMap

/-- A record replaces the one of the same name, and it leaves the others as they are. -/
lemma digest?_record (m : DigestMap) (name digest name' : String) :
    (m.record name digest).digest? name' = if name = name' then some digest else m.digest? name' := by
  rw [record, digest?, List.find?_append, List.find?_singleton, digest?]
  by_cases heq : name = name'
  · subst heq
    have hnone : (m.filter (·.1 != name)).find? (·.1 == name) = none := by
      rw [List.find?_eq_none]
      intro e he
      simpa using (List.mem_filter.1 he).2
    rw [if_pos rfl, hnone, if_pos (beq_self_eq_true name)]
    rfl
  · have hother : (m.filter (·.1 != name)).find? (·.1 == name') = m.find? (·.1 == name') := by
      rw [List.find?_filter]
      refine congrArg (m.find? ·) (funext fun e => ?_)
      by_cases he : e.1 = name'
      · simp [he, Ne.symm heq]
      · simp [he]
    rw [if_neg heq, hother, if_neg (by simpa using heq), Option.or_none]

/-- The order of its entries does not matter for what a map records. -/
lemma digest?_of_perm (hn : (n.map Prod.fst).Nodup) (h : m.Perm n) (name : String) :
    m.digest? name = n.digest? name := by
  have hm : (m.map Prod.fst).Nodup := (h.map Prod.fst).nodup_iff.2 hn
  refine Option.ext fun digest => ?_
  rw [digest?_eq_some_iff hm, digest?_eq_some_iff hn, h.mem_iff]

end DigestMap

/-- The last of some units that have the given name. -/
def lastNamed? (units : List SourceUnit) (name : String) : Option SourceUnit :=
  units.reverse.find? (·.hintName == name)

/-- After a run of records a name has the digest of the last unit of this name, or else the one that it had before. -/
lemma digest?_foldl_record (units : List SourceUnit) (m : DigestMap) (name : String) :
    (units.foldl (fun m u => m.record u.hintName (textDigest u.text)) m).digest? name =
      ((lastNamed? units name).map fun u => textDigest u.text).or (m.digest? name) := by
  induction units generalizing m with
  | nil => rfl
  | cons u units ih =>
    rw [List.foldl_cons, ih, DigestMap.digest?_record, lastNamed?, lastNamed?, List.reverse_cons, List.find?_append,
      List.find?_singleton]
    cases units.reverse.find? (·.hintName == name) with
    | some v => rfl
    | none =>
      by_cases heq : u.hintName = name
      · simp [heq]
      · simp [heq]

/-- The digest of a name is that of the last unit with this name. -/
lemma digest?_unitDigests (units : List SourceUnit) (name : String) :
    (unitDigests units).digest? name = (lastNamed? units name).map fun u => textDigest u.text := by
  rw [unitDigests, digest?_foldl_record]
  exact Option.or_none

/-- After any writing the manifest can be read and lists no name twice.  It gives each name the digest of the last unit
of this name, and it lists nothing else. -/
theorem manifest_lists_units (hreal : options.dryRun = false) (h : writeUnits d folder units options = .ok p) :
    ∃ m, previousUnits p.disk folder = .ok m ∧ (m.map Prod.fst).Nodup ∧
      ∀ name, m.digest? name = (lastNamed? units name).map fun u => textDigest u.text := by
  obtain ⟨m, hm, hperm⟩ := listed_of_writeUnits hreal h
  refine ⟨m, hm, nodup_previousUnits hm, ?_⟩
  intro name
  rw [DigestMap.digest?_of_perm (nodup_unitDigests units) hperm, digest?_unitDigests]

/-- A directory with a file in the place of the manifest that is no text at all. -/
def corruptOut : Disk :=
  (Disk.empty.put ["out"] .folder).put ["out", "manifest.json"] (.file [0xff])

/-- Two units of the same name, and one of another. -/
def repeatedUnits : List SourceUnit :=
  [{ hintName := "A.g.cs", text := "a" }, { hintName := "B.g.cs", text := "b" }, { hintName := "A.g.cs", text := "c" }]

/-- A manifest that cannot be read lists nothing. -/
lemma previousUnits_corruptOut : previousUnits corruptOut ⟨.top, ["out"]⟩ = .ok [] := by
  have hdecode : Text.Utf8.decode? [0xff] = none := by
    rw [Text.Utf8.decode?]
    rfl
  have hread : corruptOut.read (Path.child ⟨.top, ["out"]⟩ manifestName) = .ok [0xff] := rfl
  rw [previousUnits, hread]
  dsimp only
  rw [Manifest.unitsOfBytes, hdecode]
  rfl

/-- The last one of two units with the same name is listed. -/
theorem manifest_lists_units_repeated :
    ∃ p, writeUnits corruptOut ⟨.top, ["out"]⟩ repeatedUnits { fingerprint := "f", prune := false } = .ok p ∧
      ∃ m, previousUnits p.disk ⟨.top, ["out"]⟩ = .ok m ∧ m.digest? "A.g.cs" = some (textDigest "c") ∧
        m.digest? "B.g.cs" = some (textDigest "b") ∧ m.digest? "C.g.cs" = none := by
  obtain ⟨p, hp⟩ : ∃ p, writeUnits corruptOut ⟨.top, ["out"]⟩ repeatedUnits { fingerprint := "f", prune := false } =
      .ok p := by
    apply exists_ok_of_isSome
    unfold writeUnits
    rw [previousUnits_corruptOut]
    decide +kernel
  obtain ⟨m, hm, -, hdigests⟩ := manifest_lists_units rfl hp
  exact ⟨p, hp, m, hm, hdigests "A.g.cs", hdigests "B.g.cs", hdigests "C.g.cs"⟩

end PropertyQuote.Project
