import PropertyQuote.Project.Pass
import PropertyQuote.Proofs.Output.Steps
import PropertyQuote.Proofs.Scan.Walk
import PropertyQuote.Proofs.UnitReturns

/-!
# Passes that are repeated

A pass reads the settings, the ignore rules, the sources and the template of a project, and then it writes
units.  It writes nothing of what it reads: units and manifests are no sources, and directories are made only
where there was nothing.  So a second pass reads the same, generates the same units, and finds them as they
are.

Three things can spoil this.  A unit whose name holds a slash is written somewhere else, and the way to the
output directory may lead through a directory that is missing: once it is made, it can stand where a file is
looked for, or open the way to a template.

* `PassSteps`: the parts of a pass that succeeds.
* `Clear`: the directories that a pass makes are in nobody's way.
* `PassSteps.again`: a pass that writes only units and manifests can be repeated.
* `pass_again`: a second pass does nothing.
-/

namespace PropertyQuote.Project

variable {readers : Readers} {yaml : Yaml.Loader} {d d' : Disk} {s : Surroundings} {path name : String}
  {output : OutputChoice} {dryRun : Bool} {o : PassOutcome} {root : Location} {found : Scan}
  {settings loaded : Settings} {p folder file : Path}

/-! ## The parts of a pass -/

/-- The parts of a pass that succeeds. -/
structure PassSteps (readers : Readers) (d : Disk) (s : Surroundings) (path : String) (output : OutputChoice)
    (dryRun : Bool) (o : PassOutcome) (root : Location) (found : Scan) (loaded : Settings) : Prop where
  place : s.resolve d path = .ok root
  scan : scanAt readers.yaml d (Path.ofLocation root).text root = .ok found
  load : Settings.load readers.yaml d (.ofLocation root) = .ok loaded
  choice : output.apply d root loaded = .ok o.settings
  generation : generate
      { marker := o.settings.marker, emitBootstrap := o.settings.emitBootstrap,
        template := templateOf d o.settings }
      (CSharp.Compilation.ofFiles (csharpFiles readers.csharp found.files)).occurrences = .ok o.result
  writing : writeUnits d o.settings.outputDir o.result.units
      { fingerprint := o.result.fingerprint, prune := o.settings.pruneStale, dryRun } = .ok o.written

/-- The steps of a pass make up what it does. -/
lemma PassSteps.pass_eq (h : PassSteps readers d s path output dryRun o root found loaded) :
    (pass readers d s path output dryRun).result = .ok o ∧ (pass readers d s path output dryRun).disk = o.written.disk ∧
      (pass readers d s path output dryRun).actions = o.written.actions := by
  have hsettings : Settings.load readers.yaml d (.ofLocation root) >>= output.apply d root = .ok o.settings := by
    rw [h.load]
    exact h.choice
  simp [pass, h.place, passAt, h.scan, hsettings, generateInto, h.generation, h.writing]

/-- A pass that succeeds has taken all steps. -/
lemma passSteps_of_result (h : (pass readers d s path output dryRun).result = .ok o) :
    ∃ root found loaded, PassSteps readers d s path output dryRun o root found loaded := by
  unfold pass at h
  split at h
  case h_2 => cases h
  case h_1 root hplace =>
    unfold passAt at h
    dsimp only at h
    split at h
    case h_1 => cases h
    case h_2 found hscan =>
      split at h
      case h_1 => cases h
      case h_2 settings hsettings =>
        obtain ⟨loaded, hload, hchoice⟩ := bind_ok hsettings
        unfold generateInto at h
        dsimp only at h
        split at h
        case h_1 => cases h
        case h_2 result hgeneration =>
          split at h
          case h_1 => cases h
          case h_2 written hwriting =>
            cases h
            exact ⟨root, found, loaded, hplace, hscan, hload, hchoice, hgeneration, hwriting⟩

/-! ## Files that a pass writes -/

/-- A name of a file that a pass writes. -/
def IsOutputName (name : String) : Prop :=
  IsUnitName name ∨ name = manifestName

instance : DecidablePred IsOutputName := fun _ => inferInstanceAs (Decidable (_ ∨ _))

/-- No file that a pass writes is a source. -/
lemma isSourceName_of_isOutputName (h : IsOutputName name) : isSourceName name = false := by
  rcases h with hunit | rfl
  · rw [isSourceName, List.isSuffixOf_iff_suffix.2 hunit.2, Bool.not_true, Bool.and_false]
  · decide

/-- What has another name is at no place that is written. -/
lemma place_ne {l l' : Location} (hother : ¬ IsOutputName name) (name' : String) (hname' : IsOutputName name') :
    l ++ [name] ≠ l' ++ [name'] := by
  intro heq
  obtain ⟨-, rfl⟩ : l = l' ∧ name = name' := by simpa using heq
  exact hother hname'

/-- What a pass writes is no source. -/
lemma sourcesBelow_of_altered {rules : List IgnoreRule} (hd : d.Sound)
    (halt : Disk.AlteredIn folder IsOutputName d d') :
    sourcesBelow rules d' root = sourcesBelow rules d root := by
  have hfiles (l : Location) (file : String) (hsource : isSourceName file = true) :
      d'.file? (l ++ [file]) = d.file? (l ++ [file]) := by
    refine halt.file?_eq hd (place_ne fun houtput => ?_)
    rw [isSourceName_of_isOutputName houtput] at hsource
    cases hsource
  rw [sourcesBelow, sourcesBelow, walk_congr hd hfiles fun l => halt.folder_stays hd]

/-- A file of another name is found as before, unless a directory is made in its place. -/
lemma look_of_altered (hd : d.Sound) (halt : Disk.AlteredIn folder IsOutputName d d') (hreach : d.Reaches p)
    (hname : IsFileName name) (hother : ¬ IsOutputName name)
    (hfree : d.Reaches folder ∨ ¬ folder.Passes (p.resolve [] ++ [name])) :
    d'.look (p.child name) = d.look (p.child name) := by
  refine Disk.look_child_congr hname hreach (hreach.mono fun _ => halt.folder_stays hd) ?_
  refine halt.content?_eq hd ?_ ?_
  · rintro ⟨name', hname', heq⟩
    exact place_ne hother name' hname' heq
  · rintro ⟨hpasses, hnot⟩
    rcases hfree with hreached | hfree
    · exact hnot hreached
    · exact hfree hpasses

/-! ## What a pass reads -/

/-- A file that is read if it is there depends on what its path leads to alone. -/
lemma optionalText_congr {α : Type} {f : List Char → Except Failure α} {a b : α}
    (hlook : d'.look file = d.look file)
    (h : (orRefused (d.has file) >>= fun found => if found then readText d file >>= f else .ok a) = .ok b) :
    (orRefused (d'.has file) >>= fun found => if found then readText d' file >>= f else .ok a) = .ok b := by
  obtain ⟨found, hfound, hrest⟩ := bind_ok h
  rw [orRefused_eq_ok_iff] at hfound
  rw [orRefused_eq_ok_iff.2 (has_congr hlook hfound)]
  cases found with
  | false => exact hrest
  | true =>
    obtain ⟨cs, hcs, hb⟩ := bind_ok hrest
    change (readText d' file >>= f) = .ok b
    rw [readText_congr hlook hcs]
    exact hb

/-- The ignore rules are those of the file that is seen at the root. -/
lemma fileRules_congr {rules : List IgnoreRule}
    (hlook : d'.look ((Path.ofLocation root).child ".gitignore") =
      d.look ((Path.ofLocation root).child ".gitignore"))
    (h : fileRules d root = .ok rules) : fileRules d' root = .ok rules :=
  optionalText_congr (f := fun cs => .ok (IgnoreRule.ofLines cs)) hlook h

/-- There is a directory if one is seen. -/
lemma hasFolder_eq_true_iff : d.hasFolder p = .ok true ↔ d.look p = .ok .folder := by
  unfold Disk.hasFolder Disk.leadsTo
  cases d.look p with
  | ok c => simp
  | error cause => cases cause <;> simp

/-- The settings belong to the directory that they are read for. -/
lemma root_of_ofMapping {mapping : Yaml.Value} (h : Settings.ofMapping p mapping = .ok settings) :
    settings.root = p := by
  obtain ⟨outputDir, -, h⟩ := bind_ok h
  obtain ⟨templatesDir, -, h⟩ := bind_ok h
  obtain ⟨marker, -, h⟩ := bind_ok h
  obtain ⟨excludePaths, -, h⟩ := bind_ok h
  cases h
  rfl

/-- Settings are about the directory that they are read for. -/
lemma root_of_ofText {cs : List Char} (h : Settings.ofText yaml p cs = .ok settings) : settings.root = p := by
  unfold Settings.ofText at h
  split at h
  · cases h
    rfl
  · obtain ⟨value, -, hvalue⟩ := bind_ok h
    unfold Settings.ofValue at hvalue
    split at hvalue
    case h_1 entries =>
      cases hmapping : Settings.ofMapping p (.map entries) with
      | error =>
        rw [hmapping] at hvalue
        cases hvalue
      | ok stated =>
        rw [hmapping] at hvalue
        cases hvalue
        exact root_of_ofMapping hmapping
    case h_2 =>
      split at hvalue
      · cases hvalue
        rfl
      · cases hvalue

/-- The name of the settings can be that of a file. -/
lemma isFileName_settingsName : IsFileName settingsName := by decide

/-- The settings of a directory are in a file of this directory. -/
lemma load_of_folder (hfolder : d.look p = .ok .folder) :
    Settings.load yaml d p =
      (orRefused (d.has ((Path.ofLocation (p.resolve [])).child settingsName)) >>= fun found =>
        if found then
          readText d ((Path.ofLocation (p.resolve [])).child settingsName) >>=
            Settings.ofText yaml (.ofLocation (p.resolve []))
        else .ok (.standard (.ofLocation (p.resolve [])))) := by
  have hnull : (p.child settingsName).hasNull = false := by
    obtain ⟨l, hl, -⟩ := Disk.look_eq_ok_iff.1 hfolder
    obtain ⟨hnull, -⟩ := Disk.locate_eq_ok_iff.1 hl
    rw [Path.hasNull] at hnull
    rw [Path.child_of_isFileName isFileName_settingsName, Path.hasNull, List.any_append, hnull]
    decide
  have hplace : Settings.place d p = .ok (p.resolve [] ++ [settingsName]) := by
    rw [Settings.place, hasFolder_eq_true_iff.2 hfolder]
    change d.resolve [] (p.child settingsName) = _
    rw [Disk.resolve, hnull, if_neg Bool.false_ne_true, Path.resolve_child isFileName_settingsName]
  have hfile : Path.ofLocation (p.resolve [] ++ [settingsName]) =
      (Path.ofLocation (p.resolve [])).child settingsName :=
    (Path.child_of_isFileName (p := .ofLocation (p.resolve [])) isFileName_settingsName).symm
  rw [Settings.load, hplace]
  change (orRefused (d.has (Path.ofLocation (p.resolve [] ++ [settingsName]))) >>= _) = _
  rw [hfile, Path.parent_child isFileName_settingsName]
  rfl

/-- The settings belong to the place that the path leads to. -/
lemma root_of_load (hfolder : d.look p = .ok .folder) (h : Settings.load yaml d p = .ok settings) :
    settings.root = .ofLocation (p.resolve []) := by
  rw [load_of_folder hfolder] at h
  obtain ⟨found, -, hrest⟩ := bind_ok h
  cases found with
  | false =>
    cases hrest
    rfl
  | true =>
    obtain ⟨cs, -, htext⟩ := bind_ok hrest
    exact root_of_ofText htext

/-- Loading the settings depends on what is seen at the directory and at the file alone. -/
lemma load_congr (hfolder : d.look p = .ok .folder) (hfolder' : d'.look p = .ok .folder)
    (hlook : d'.look ((Path.ofLocation (p.resolve [])).child settingsName) =
      d.look ((Path.ofLocation (p.resolve [])).child settingsName))
    (h : Settings.load yaml d p = .ok settings) : Settings.load yaml d' p = .ok settings := by
  rw [load_of_folder hfolder] at h
  rw [load_of_folder hfolder']
  exact optionalText_congr hlook h

/-- A scan of a project whose settings can be read. -/
lemma scanAt_eq_ok_iff {given : String} (hload : Settings.load yaml d (.ofLocation root) = .ok loaded) :
    scanAt yaml d given root = .ok found ↔
      d.look (.ofLocation root) = .ok .folder ∧ ∃ rules, fileRules d root = .ok rules ∧
        found = ⟨root, sourcesBelow (rules ++ settingsRules root loaded) d root, []⟩ := by
  have hrules {rules : List IgnoreRule} (h : fileRules d root = .ok rules) :
      allRules yaml d root = .ok (rules ++ settingsRules root loaded, []) := by
    rw [allRules, h, hload]
    rfl
  constructor
  · intro h
    obtain ⟨there, -, h⟩ := bind_ok h
    cases there with
    | false => cases h
    | true =>
      obtain ⟨isFolder, hfolder, h⟩ := bind_ok h
      cases isFolder with
      | false => cases h
      | true =>
        obtain ⟨⟨rules, log⟩, hall, h⟩ := bind_ok h
        cases h
        obtain ⟨fromFile, hfile, -⟩ := bind_ok hall
        rw [hrules hfile] at hall
        cases hall
        rw [orRefused_eq_ok_iff, hasFolder_eq_true_iff] at hfolder
        exact ⟨hfolder, fromFile, hfile, rfl⟩
  · rintro ⟨hfolder, rules, hfile, rfl⟩
    have hhas : d.has (.ofLocation root) = .ok true := Disk.has_eq_ok_iff.2 (.inl ⟨rfl, _, hfolder⟩)
    simp [scanAt, hhas, hasFolder_eq_true_iff.2 hfolder, hrules hfile, orRefused, bind, Except.bind, pure,
      Except.pure]

/-! ## Places that do not depend on the disk -/

/-- Where a path leads from a current place does not depend on the disk. -/
lemma diskResolve_congr {current place : Location} (h : d.resolve current p = .ok place) :
    d'.resolve current p = .ok place := by
  unfold Disk.resolve at h ⊢
  split at h
  case isTrue => cases h
  case isFalse hnull => rwa [if_neg hnull]

/-- Nor does it where a pass starts. -/
lemma resolve_congr (h : s.resolve d path = .ok root) : s.resolve d' path = .ok root := by
  unfold Surroundings.resolve at h ⊢
  split at h
  case h_1 => exact orRefused_eq_ok_iff.2 (diskResolve_congr (orRefused_eq_ok_iff.1 h))
  case h_2 => cases h

/-- The choice of an output directory keeps the root, and it does not look at the disk. -/
lemma apply_ok (h : output.apply d root loaded = .ok settings) (d' : Disk) :
    settings.root = loaded.root ∧ output.apply d' root loaded = .ok settings := by
  cases output with
  | standard =>
    cases h
    exact ⟨rfl, rfl⟩
  | folder path =>
    rw [OutputChoice.apply] at h ⊢
    cases hplace : d.resolve root ((Path.ofLocation root).child path) with
    | error =>
      rw [hplace] at h
      cases h
    | ok place =>
      rw [hplace] at h
      cases h
      rw [diskResolve_congr hplace]
      exact ⟨rfl, rfl⟩
  | noText => cases h

/-! ## Templates -/

/-- A file of another name is found as before, unless making directories opens the way to it. -/
lemma look_file_iff {bytes : List UInt8} (hd : d.Sound) (halt : Disk.AlteredIn folder IsOutputName d d')
    (hname : IsFileName name) (hother : ¬ IsOutputName name)
    (hway : d.Reaches folder ∨ d.Straight (p.child name)) :
    d'.look (p.child name) = .ok (.file bytes) ↔ d.look (p.child name) = .ok (.file bytes) := by
  have hfile : d'.content? ((p.child name).resolve []) = some (.file bytes) ↔
      d.content? ((p.child name).resolve []) = some (.file bytes) := by
    rw [← Disk.file?_eq_some_iff, ← Disk.file?_eq_some_iff, halt.file?_eq hd]
    rw [Path.resolve_child hname]
    exact place_ne hother
  constructor
  · intro h
    rcases hway with hreach | hstraight
    · -- no directory is made, so the way was open before
      exact Disk.look_mono (fun _ => halt.folder_was hd fun _ hl => hl.2 hreach) hfile.1 h
    · obtain ⟨l, hl, hcontent⟩ := Disk.look_eq_ok_iff.1 h
      obtain ⟨hnull, hshort, hway⟩ := Disk.locate_eq_ok_iff.1 hl
      obtain rfl := Disk.eq_resolve_of_locateFrom hway
      have hwas := hfile.1 hcontent
      refine Disk.look_eq_ok_iff.2 ⟨_, Disk.locate_eq_ok_iff.2 ⟨hnull, hshort, hstraight ?_⟩, hwas⟩
      rw [hwas]
      exact Option.some_ne_none _
  · exact Disk.look_mono (fun _ => halt.folder_stays hd) hfile.2

/-- The directories that a pass makes are in nobody's way: none is made where a file of the project is looked
for, and none opens the way to a template. -/
def Clear (d : Disk) (settings : Settings) : Prop :=
  d.Reaches settings.outputDir ∨
    (∀ name ∈ [".gitignore", settingsName],
      ¬ settings.outputDir.Passes (settings.root.names ++ [name])) ∧
    ∀ t ∈ settings.templatesDir, d.Straight (t.child templateName)

/-- Paths without steps back are in nobody's way, as long as the output does not go to a file of the project
or below it. -/
lemma clear_of_forward (hd : d.Sound) (hback : ".." ∉ settings.outputDir.names)
    (hfree : ∀ name ∈ [".gitignore", settingsName],
      ¬ settings.root.names ++ [name] <+: settings.outputDir.names)
    (htemplates : ∀ t ∈ settings.templatesDir,
      ".." ∉ t.names ∧ ∀ name ∈ t.names, name.utf8ByteSize ≤ Disk.longestName) : Clear d settings := by
  refine .inr ⟨fun name hname hpasses => hfree name hname (Path.isPrefix_of_passes hback hpasses), ?_⟩
  intro t ht
  obtain ⟨hforward, hshort⟩ := htemplates t ht
  have hfile : (t.child templateName).names = t.names ++ [templateName] := by
    rw [Path.child_of_isFileName (by decide)]
  refine Disk.straight_of_notMem hd ?_ ?_
  · rw [hfile, List.mem_append, not_or]
    exact ⟨hforward, by decide⟩
  · rw [hfile, List.forall_mem_append]
    exact ⟨hshort, by decide⟩

/-- A template that no output replaces reads as before. -/
lemma templateOf_of_altered (hd : d.Sound) (hclear : Clear d settings)
    (halt : Disk.AlteredIn settings.outputDir IsOutputName d d') :
    templateOf d' settings = templateOf d settings := by
  unfold templateOf
  cases htemplates : settings.templatesDir with
  | none => rfl
  | some t =>
    have hway : d.Reaches settings.outputDir ∨ d.Straight (t.child templateName) :=
      hclear.imp id fun h => h.2 t htemplates
    have hread {bytes : List UInt8} :
        d'.read (t.child templateName) = .ok bytes ↔ d.read (t.child templateName) = .ok bytes := by
      rw [read_eq_ok_iff, read_eq_ok_iff]
      exact look_file_iff hd halt (by decide) (by decide) hway
    cases hwas : d.read (t.child templateName) with
    | ok bytes => simp only [Option.map_some, hwas, hread.2 hwas]
    | error =>
      cases his : d'.read (t.child templateName) with
      | ok bytes =>
        rw [hread.1 his] at hwas
        cases hwas
      | error => simp only [Option.map_some, hwas, his]

/-! ## A second pass -/

/-- A pass reads the same after units and manifests were written. -/
lemma PassSteps.again {written : Progress} (h : PassSteps readers d s path output false o root found loaded)
    (hd : d.Sound) (hclear : Clear d o.settings)
    (halt : Disk.AlteredIn o.settings.outputDir IsOutputName d d')
    (hwriting : writeUnits d' o.settings.outputDir o.result.units
      { fingerprint := o.result.fingerprint, prune := o.settings.pruneStale } = .ok written) :
    PassSteps readers d' s path output false { o with written } root found loaded := by
  obtain ⟨hfolder, rules, hrules, hfound⟩ := (scanAt_eq_ok_iff h.load).1 h.scan
  obtain ⟨hroot, hchoice⟩ := apply_ok h.choice d'
  rw [root_of_load hfolder h.load] at hroot
  have hstays (l : Location) : d.content? l = some .folder → d'.content? l = some .folder :=
    halt.folder_stays hd
  have hfolder' : d'.look (.ofLocation root) = .ok .folder := Disk.look_mono hstays (hstays _) hfolder
  have hreach := Disk.reaches_of_look hfolder
  obtain ⟨hplace, hreach'⟩ := hreach.ofLocation hd
  have hfree (name : String) (hmem : name ∈ [".gitignore", settingsName]) :
      d.Reaches o.settings.outputDir ∨
        ¬ o.settings.outputDir.Passes ((Path.ofLocation root).resolve [] ++ [name]) := by
    refine hclear.imp id fun hfree => ?_
    have hpasses := hfree.1 name hmem
    rwa [hroot] at hpasses
  have hload : Settings.load readers.yaml d' (.ofLocation root) = .ok loaded := by
    refine load_congr hfolder hfolder' ?_ h.load
    refine look_of_altered hd halt hreach' isFileName_settingsName (by decide) ?_
    rw [hplace]
    exact hfree settingsName (by decide)
  have hrules' : fileRules d' root = .ok rules := by
    refine fileRules_congr ?_ hrules
    exact look_of_altered hd halt hreach (by decide) (by decide) (hfree ".gitignore" (by decide))
  refine ⟨resolve_congr h.place, ?_, hload, hchoice, ?_, hwriting⟩
  · rw [scanAt_eq_ok_iff hload]
    refine ⟨hfolder', rules, hrules', ?_⟩
    rw [hfound, sourcesBelow_of_altered hd halt]
  · dsimp only
    rw [templateOf_of_altered hd hclear halt]
    exact h.generation

/-- The text of a source has no carriage return. -/
lemma return_notMem_text {f : SourceFile} {text : String} (h : f.text? = some text) :
    '\r' ∉ text.toList := by
  obtain ⟨cs, -, rfl⟩ := Option.map_eq_some_iff.1 h
  rw [String.toList_ofList]
  exact Text.return_notMem_unifyNewlines _

/-- The files of a scan are compiled as the texts that are read from them. -/
lemma ofFiles_csharpFiles (parse : CSharp.Parser) (files : List SourceFile) :
    CSharp.Compilation.ofFiles (csharpFiles parse files) =
      CSharp.Compilation.ofTexts parse (files.filterMap fun f => f.text?.map (f.path, ·)) := by
  rw [CSharp.Compilation.ofTexts, csharpFiles, List.map_filterMap]
  simp only [Option.map_map]
  rfl

/-- The units of a pass with the standard template hold no carriage returns, and their names end in the
same way. -/
lemma PassSteps.plain_units (h : PassSteps readers d s path output dryRun o root found loaded)
    (htemplate : templateOf d o.settings = .ok standardTemplate) :
    ∀ u ∈ o.result.units, '\r' ∉ u.text.toList ∧ ".g.cs".toList <:+ u.hintName.toList := by
  have hresult := h.generation
  rw [htemplate, ofFiles_csharpFiles] at hresult
  rw [← Except.ok.inj ((generate_standardTemplate ..).symm.trans hresult)]
  intro u hu
  refine ⟨return_notMem_units ?_ _ _ u hu, suffix_of_mem_units hu⟩
  intro t ht
  obtain ⟨f, -, hf⟩ := List.mem_filterMap.1 ht
  obtain ⟨text, htext, rfl⟩ := Option.map_eq_some_iff.1 hf
  exact return_notMem_text htext

/-- A second pass with the standard template finds everything as it is, if the units have different names
without slashes and no directory is made in the way of the project. -/
theorem pass_again (hd : d.Sound) (hpass : (pass readers d s path output false).result = .ok o)
    (htemplate : templateOf d o.settings = .ok standardTemplate)
    (hmanifest : ∀ m, previousUnits d o.settings.outputDir = .ok m →
      ∀ name ∈ m.map Prod.fst, IsUnitName name)
    (hnodup : (o.result.units.map SourceUnit.hintName).Nodup)
    (hslash : ∀ u ∈ o.result.units, '/' ∉ u.hintName.toList) (hclear : Clear d o.settings) :
    ∃ o', (pass readers (pass readers d s path output false).disk s path output false).result = .ok o' ∧
      o'.settings = o.settings ∧ o'.result = o.result ∧ o'.written.written = [] ∧ o'.written.removed = [] ∧
      o'.written.unchanged = o.result.units.map (o.settings.outputDir.child ·.hintName) ∧
      (pass readers (pass readers d s path output false).disk s path output false).actions = [] ∧
      (pass readers (pass readers d s path output false).disk s path output false).disk =
        (pass readers d s path output false).disk := by
  obtain ⟨root, found, loaded, hsteps⟩ := passSteps_of_result hpass
  obtain ⟨-, hdisk, -⟩ := hsteps.pass_eq
  have hplain := hsteps.plain_units htemplate
  have hunits (u : SourceUnit) (hu : u ∈ o.result.units) : IsUnitName u.hintName :=
    ⟨hslash u hu, (hplain u hu).2⟩
  obtain ⟨previous, -, -, hprevious, -⟩ := writeUnits_ok hsteps.writing
  have hnames := hmanifest previous hprevious
  have hdelivered := delivered_of_writeUnits hd rfl
    (fun u hu => ⟨(hunits u hu).isFileName, (hunits u hu).ne_manifestName⟩) hnodup hprevious
    (fun name hname => ⟨(hnames name hname).isFileName, (hnames name hname).ne_manifestName⟩)
    hsteps.writing
  have halt : Disk.AlteredIn o.settings.outputDir IsOutputName d o.written.disk := by
    refine hdelivered.altered.mono ?_
    rintro name (hunit | hstale | rfl)
    · obtain ⟨u, hu, rfl⟩ := List.mem_map.1 hunit
      exact .inl (hunits u hu)
    · exact .inl (hnames name (mem_stale hstale).1)
    · exact .inr rfl
  obtain ⟨m, hlisted, hperm⟩ := hdelivered.listed
  have hreads (u : SourceUnit) (hu : u ∈ o.result.units) :
      readText o.written.disk (o.settings.outputDir.child u.hintName) = .ok u.text.toList := by
    rw [hdelivered.reads u hu, Text.unifyNewlines_of_notMem (hplain u hu).1]
  have hagain := hsteps.again hd hclear halt (writeUnits_of_reads hlisted hperm hreads)
  obtain ⟨hresult, hdisk', hactions⟩ := hagain.pass_eq
  rw [hdisk]
  exact ⟨_, hresult, rfl, rfl, rfl, rfl, rfl, hactions, hdisk'⟩

/-- A class with a marked property. -/
def markedText : String :=
  "using Corvus.Expressions.SourceGenerator;\npartial class C \x7b [GenerateBonsai] int P => 1; \x7d\n"

/-- The manifest of an earlier pass, with a unit that is not generated any more. -/
def staleManifest : Manifest where
  fingerprint := "earlier"
  units := [("Old_GenerateBonsai.g.cs", "digest")]

/-- A project with such a class, and with the output of the earlier pass. -/
def staleProject : Disk :=
  ((((((Disk.empty.put ["p"] .folder).put ["p", "C.cs"] (.file (Text.Utf8.encodeText markedText))).put
    ["p", "obj"] .folder).put ["p", "obj", "Generated"] .folder).put ["p", "obj", "Generated", "bonsaigen"]
    .folder).put ["p", "obj", "Generated", "bonsaigen", manifestName]
    (.file (Text.Utf8.encodeText staleManifest.text))).put
    ["p", "obj", "Generated", "bonsaigen", "Old_GenerateBonsai.g.cs"] (.file [])

/-- The project is a sound disk. -/
lemma sound_staleProject : staleProject.Sound := by
  unfold staleProject
  repeat' refine Disk.Sound.put ?_ (by rfl) (by decide)
  exact Disk.sound_empty

/-- The settings that a project without a settings file has. -/
def staleSettings : Settings :=
  .standard ⟨.top, ["p"]⟩

/-- The stored manifest lists what it was made of. -/
lemma previousUnits_staleProject : previousUnits staleProject staleSettings.outputDir = .ok staleManifest.units := by
  have hread : staleProject.read (staleSettings.outputDir.child manifestName) =
      .ok (Text.Utf8.encodeText staleManifest.text) := rfl
  rw [previousUnits, hread]
  dsimp only
  rw [Manifest.unitsOfBytes_text (by decide), DigestMap.sorted, staleManifest, List.mergeSort_singleton]
  rfl

/-- What is found in the project: one source. -/
def staleScan : Scan where
  root := ["p"]
  files := sourcesBelow (settingsRules ["p"] staleSettings) staleProject ["p"]
  log := []

/-- The project is scanned from every path that leads to it. -/
lemma scanAt_staleProject (given : String) : scanAt .standard staleProject given ["p"] = .ok staleScan := by
  have hload : Settings.load .standard staleProject (.ofLocation ["p"]) = .ok staleSettings := rfl
  exact (scanAt_eq_ok_iff hload).2 ⟨rfl, [], rfl, rfl⟩

/-- The source has a text. -/
lemma texts_staleScan :
    staleScan.files.filterMap (fun f => f.text?.map (f.path, ·)) = [("C.cs", markedText)] := by
  decide +kernel

/-- The candidate of such a class. -/
def markedCandidate : Candidate where
  symbol :=
    { name := "P", isStatic := false, type := .mk "int" .struct [], owner := .inNamespace ⟨"C", "class", []⟩ "" "",
      attributes := [standardMarker], hasGetter := true }
  declaration :=
    { name := "P", attributeNames := ["GenerateBonsai"], accessors := [⟨"get", .expression, some "1"⟩],
      path := "C.cs", line := 2 }
  owner := .inNamespace ⟨"C", "class", []⟩ "" ""

/-- The source has one candidate. -/
lemma discover_markedText :
    discover standardMarker (CSharp.Compilation.ofTexts CSharp.parse [("C.cs", markedText)]).occurrences =
      [markedCandidate] := by
  decide +kernel

/-- What is generated for the project. -/
def staleResult : GenerationResult :=
  passResult true [markedCandidate]

/-- The stale unit is not among the generated ones. -/
lemma hintNames_staleResult :
    staleResult.units.map SourceUnit.hintName = ["GenerateBonsaiAttribute.g.cs", "C_GenerateBonsai.g.cs"] := by
  decide

/-- The first pass takes away a unit that is not generated any more, the second one does nothing. -/
theorem pass_again_stale :
    ∃ o o', (pass .standard staleProject ⟨[], []⟩ "/p" .standard false).result = .ok o ∧
      (pass .standard (pass .standard staleProject ⟨[], []⟩ "/p" .standard false).disk ⟨[], []⟩ "/p" .standard
        false).result = .ok o' ∧
      o.result.candidates = [markedCandidate] ∧
      o.written.removed = [staleSettings.outputDir.child "Old_GenerateBonsai.g.cs"] ∧
      o'.result = o.result ∧ o'.written.written = [] ∧ o'.written.removed = [] ∧
      (pass .standard (pass .standard staleProject ⟨[], []⟩ "/p" .standard false).disk ⟨[], []⟩ "/p" .standard
        false).disk = (pass .standard staleProject ⟨[], []⟩ "/p" .standard false).disk := by
  have hgeneration : generate
      { marker := staleSettings.marker, emitBootstrap := staleSettings.emitBootstrap,
        template := templateOf staleProject staleSettings }
      (CSharp.Compilation.ofFiles (csharpFiles CSharp.parse staleScan.files)).occurrences = .ok staleResult := by
    rw [ofFiles_csharpFiles, texts_staleScan, staleResult, ← discover_markedText]
    exact generate_standardTemplate ..
  have hwrites : ((writeUnits staleProject staleSettings.outputDir staleResult.units
      { fingerprint := staleResult.fingerprint, prune := staleSettings.pruneStale }).toOption.map (·.removed)) =
        some [staleSettings.outputDir.child "Old_GenerateBonsai.g.cs"] := by
    unfold writeUnits
    rw [previousUnits_staleProject]
    decide +kernel
  obtain ⟨written, hwriting⟩ := exists_ok_of_isSome (by simpa using Option.isSome_of_eq_some hwrites)
  rw [hwriting] at hwrites
  have hsteps : PassSteps .standard staleProject ⟨[], []⟩ "/p" .standard false ⟨staleSettings, staleResult, written⟩
      ["p"] staleScan staleSettings :=
    ⟨rfl, scanAt_staleProject _, rfl, rfl, hgeneration, hwriting⟩
  have hlisted (m : DigestMap) (hm : previousUnits staleProject staleSettings.outputDir = .ok m) (name : String)
      (hname : name ∈ m.map Prod.fst) : IsUnitName name := by
    rw [previousUnits_staleProject] at hm
    cases hm
    obtain rfl := List.mem_singleton.1 hname
    decide
  have hslash (u : SourceUnit) (hu : u ∈ staleResult.units) : '/' ∉ u.hintName.toList := by
    have hname := List.mem_map_of_mem (f := SourceUnit.hintName) hu
    rw [hintNames_staleResult] at hname
    revert hname
    generalize u.hintName = name
    revert name
    decide
  have hclear : Clear staleProject staleSettings := by
    refine clear_of_forward sound_staleProject (by decide) (by decide) ?_
    intro t ht
    cases ht
  obtain ⟨o', hagain, -, hresult, hwritten, hremoved, -, -, hdisk⟩ := pass_again sound_staleProject hsteps.pass_eq.1 rfl
    hlisted (by rw [hintNames_staleResult]; decide) hslash hclear
  exact ⟨_, o', hsteps.pass_eq.1, hagain, rfl, Option.some.inj hwrites, hresult, hwritten, hremoved, hdisk⟩

/-- A project whose output goes through the place of the ignore file and back. -/
def backtrackingProject : Disk :=
  (Disk.empty.put ["p"] .folder).put ["p", settingsName]
    (.file (Text.Utf8.encodeText "output_dir: .gitignore/../out"))

/-- The first pass makes a directory where the second one looks for the ignore file, and so the second one
fails. -/
theorem second_pass_fails :
    (∃ o, (pass .standard backtrackingProject ⟨[], []⟩ "/p" .standard false).result = .ok o) ∧
      ∀ o', (pass .standard (pass .standard backtrackingProject ⟨[], []⟩ "/p" .standard false).disk ⟨[], []⟩ "/p"
        .standard false).result ≠ .ok o' := by
  refine ⟨exists_ok_of_isSome (by decide +kernel), ?_⟩
  intro o' h
  have hnone : (pass .standard (pass .standard backtrackingProject ⟨[], []⟩ "/p" .standard false).disk ⟨[], []⟩ "/p"
      .standard false).result.toOption.isNone = true := by
    decide +kernel
  rw [h] at hnone
  cases hnone

end PropertyQuote.Project
