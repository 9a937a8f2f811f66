import PropertyQuote.Proofs.Repetition
import PropertyQuote.Proofs.Scan.Eligibility

/-!
# The rule for the output directory

A scan leaves out the output of earlier passes by one more rule, which is made of the path to the output directory.
The rule comes last, so it leaves out all files below a directory that it covers.  Which directories these are
depends on how the path reads as a pattern.  If the path has several names, and none of them holds a sign of a
pattern, then the rule covers the output directory and what is below it.  A single name is compared with every level
of a path, and so the rule covers every directory of this name.

* `Glob.accepts_iff_of_literal`: a text without signs of a pattern matches itself alone.
* `mem_sourcesBelow_concat_iff`: what a last rule for directories leaves out.
* `covers_iff_isPrefix`, `covers_iff_mem`: the directories that the rule covers.
* `output_rule_leaves_out`: the files that are scanned with the rule and without it.
-/

namespace PropertyQuote

namespace Text

/-! ## Patterns without signs -/

/-- No character is a sign of a pattern. -/
def IsLiteral (s : String) : Prop :=
  '*' ∉ s.toList ∧ '?' ∉ s.toList ∧ '[' ∉ s.toList

instance : DecidablePred IsLiteral := fun _ => inferInstanceAs (Decidable (_ ∧ _ ∧ _))

namespace Glob

/-- A pattern without wildcards is read as its own characters. -/
lemma read_of_notMem {s : List Char} (hrun : '*' ∉ s) (hany : '?' ∉ s) (hset : '[' ∉ s) :
    read s = s.map .exactly := by
  fun_induction read s with
  | case1 => rfl
  | case2 rest ih => exact absurd List.mem_cons_self hrun
  | case3 rest ih => exact absurd List.mem_cons_self hany
  | case4 => exact absurd List.mem_cons_self hset
  | case5 => exact absurd List.mem_cons_self hset
  | case6 c rest _ _ _ ih =>
    rw [List.map_cons, ih (List.not_mem_of_not_mem_cons hrun) (List.not_mem_of_not_mem_cons hany)
      (List.not_mem_of_not_mem_cons hset)]

/-- A character is matched by itself. -/
lemma matchesAll_exactly_cons (c d : Char) (parts : List Part) (t : List Char) :
    matchesAll (.exactly c :: parts) (d :: t) = (d == c && matchesAll parts t) := rfl

/-- A pattern of plain characters matches itself alone. -/
lemma matchesAll_map_exactly (s t : List Char) : matchesAll (s.map .exactly) t = true ↔ s = t := by
  induction s generalizing t with
  | nil => cases t <;> simp [matchesAll]
  | cons c s ih =>
    cases t with
    | nil =>
      constructor
      · intro h
        cases h
      · intro h
        cases h
    | cons d t =>
      rw [List.map_cons, matchesAll_exactly_cons, Bool.and_eq_true, ih, beq_iff_eq, List.cons.injEq, eq_comm (a := d)]

/-- A text without signs of a pattern matches itself alone. -/
lemma accepts_iff_of_literal {pattern text : String} (h : IsLiteral pattern) :
    accepts pattern text = true ↔ pattern = text := by
  rw [accepts_eq, read_of_notMem h.1 h.2.1 h.2.2, matchesAll_map_exactly, String.toList_inj]

end Glob

/-- Blanks are taken away in front only, if a slash stands at the end. -/
lemma trim_append_slash (s : List Char) : trim (s ++ ['/']) = trimStart s ++ ['/'] := by
  have hstart : trimStart (s ++ ['/']) = trimStart s ++ ['/'] := by
    rw [trimStart, trimStart, List.dropWhile_append]
    cases s.dropWhile isBlank with
    | nil => rfl
    | cons c rest => rfl
  rw [trim, hstart, trimEnd, List.reverse_append, List.reverse_singleton, List.singleton_append,
    List.dropWhile_cons_of_neg (by decide), List.reverse_cons, List.reverse_reverse]

end Text

namespace Project

/-- The names of the directories on the way to a file. -/
def SourceFile.folders (f : SourceFile) : List String :=
  (Text.splitOnChar '/' f.path).dropLast

variable {d : Disk} {rules : List IgnoreRule} {rule : IgnoreRule} {root : Location}
  {names folders above : List String} {file name path given : String} {f : SourceFile} {found : Scan}
  {settings : Settings} {isDirectory : Bool} {yaml : Yaml.Loader}

/-! ## A last rule for directories -/

/-- The last rule decides if it speaks of a path. -/
lemma ignored_concat : ignored (rules ++ [rule]) path isDirectory =
    if rule.covers path isDirectory then !rule.negated else ignored rules path isDirectory := by
  rw [ignored, List.foldl_concat, ← ignored]

/-- A rule for directories covers no file. -/
lemma covers_file (hrule : rule.directoryOnly = true) : rule.covers path false = false := by
  simp [IgnoreRule.covers, hrule]

/-- A last rule for directories takes away the files below a directory that it covers, and no others. -/
lemma eligible_concat_iff (hdirectory : rule.directoryOnly = true) (hnegated : rule.negated = false) :
    Eligible (rules ++ [rule]) folders file ↔
      Eligible rules folders file ∧ OnTheWay (fun above => rule.covers (slashed above) true = false) folders := by
  have hfolder (above : List String) : ignored (rules ++ [rule]) (slashed above) true = false ↔
      ignored rules (slashed above) true = false ∧ rule.covers (slashed above) true = false := by
    rw [ignored_concat, hnegated]
    cases rule.covers (slashed above) true <;> simp
  have hfile : ignored (rules ++ [rule]) (slashed (folders ++ [file])) false =
      ignored rules (slashed (folders ++ [file])) false := by
    rw [ignored_concat, covers_file hdirectory]
    rfl
  have hway : OnTheWay (fun above => ignored (rules ++ [rule]) (slashed above) true = false) folders ↔
      OnTheWay (fun above => ignored rules (slashed above) true = false) folders ∧
        OnTheWay (fun above => rule.covers (slashed above) true = false) folders := by
    rw [← onTheWay_and]
    exact forall₃_congr fun i _ _ => hfolder _
  constructor
  · intro h
    obtain ⟨hentered, huncovered⟩ := hway.1 h.entered
    exact ⟨⟨h.source, h.handwritten, h.free, hentered, hfile ▸ h.kept⟩, huncovered⟩
  · rintro ⟨h, huncovered⟩
    exact ⟨h.source, h.handwritten, h.free, hway.2 ⟨h.entered, huncovered⟩, hfile ▸ h.kept⟩

/-- The directories around a source are read off its path. -/
lemma folders_eq (hslashless : Slashless (folders ++ [file])) (hpath : f.path = slashed (folders ++ [file])) :
    f.folders = folders := by
  rw [SourceFile.folders, hpath, splitOnChar_slashed (by simp) hslashless, List.dropLast_concat]

/-- The names on the way to a file that is listed. -/
lemma exists_of_mem_sourcesBelow (htree : d.IsTree) (hf : f ∈ sourcesBelow rules d root) :
    ∃ file, f.path = slashed (f.folders ++ [file]) ∧ Slashless (f.folders ++ [file]) ∧
      d.content? (root ++ f.folders ++ [file]) = some (.file f.bytes) ∧ Eligible rules f.folders file := by
  obtain ⟨folders, file, hpath, hfile, heligible⟩ := (mem_sourcesBelow_iff htree.sound).1 hf
  have hslashless : Slashless (folders ++ [file]) := by
    intro name hname
    apply htree.slashless_of_content? hfile name
    rw [List.append_assoc]
    exact List.mem_append_right root hname
  rw [folders_eq hslashless hpath]
  exact ⟨file, hpath, hslashless, hfile, heligible⟩

/-- What is listed with a last rule for directories. -/
lemma mem_sourcesBelow_concat_iff (htree : d.IsTree) (hdirectory : rule.directoryOnly = true)
    (hnegated : rule.negated = false) :
    f ∈ sourcesBelow (rules ++ [rule]) d root ↔
      f ∈ sourcesBelow rules d root ∧
        OnTheWay (fun above => rule.covers (slashed above) true = false) f.folders := by
  constructor
  · intro hf
    obtain ⟨file, hpath, -, hfile, heligible⟩ := exists_of_mem_sourcesBelow htree hf
    obtain ⟨heligible, huncovered⟩ := (eligible_concat_iff hdirectory hnegated).1 heligible
    exact ⟨(mem_sourcesBelow_iff htree.sound).2 ⟨_, file, hpath, hfile, heligible⟩, huncovered⟩
  · rintro ⟨hf, huncovered⟩
    obtain ⟨file, hpath, -, hfile, heligible⟩ := exists_of_mem_sourcesBelow htree hf
    refine (mem_sourcesBelow_iff htree.sound).2 ⟨_, file, hpath, hfile, ?_⟩
    exact (eligible_concat_iff hdirectory hnegated).2 ⟨heligible, huncovered⟩

/-! ## The rule for the output directory -/

/-- The pattern for the output directory is its path from the root, with a slash at the end. -/
lemma outputPattern?_eq {outputDir : Path} (hplace : d.resolve root outputDir = .ok (root ++ names))
    (hproper : names ≠ []) : outputPattern? root outputDir = some (slashed names ++ "/") := by
  unfold Disk.resolve at hplace
  split at hplace
  case isTrue => cases hplace
  case isFalse hnull =>
    have hresolve := Except.ok.inj hplace
    have hbelow : (Path.ofLocation root).below? (.ofLocation (root ++ names)) = some names := by
      simp [Path.below?, Path.ofLocation]
    rw [outputPattern?, if_neg hnull, hresolve, hbelow]
    simp [Path.text, Path.Start.text, hproper, slashed]

/-- A pattern with a slash at the end is a rule for directories. -/
lemma ofPattern?_append_slash (s : String) :
    IgnoreRule.ofPattern? (s ++ "/") false =
      some (if (Text.trimStart s.toList).head? == some '/' then
        ⟨String.ofList (Text.trimStart s.toList).tail, true, true, false⟩
      else ⟨String.ofList (Text.trimStart s.toList), true, false, false⟩) := by
  have htext : Text.trim (s ++ "/").toList = Text.trimStart s.toList ++ ['/'] := by
    rw [String.toList_append]
    exact Text.trim_append_slash s.toList
  have hempty : (Text.trimStart s.toList ++ ['/']).isEmpty = false := by simp
  unfold IgnoreRule.ofPattern?
  simp only [htext, hempty, List.getLast?_concat, beq_self_eq_true, if_true, List.dropLast_concat]
  cases (Text.trimStart s.toList).head? == some '/' <;> rfl

/-- A pattern with a slash at its end is a rule for directories, and it excludes. -/
lemma isDirectoryRule_of_append_slash {s : String} (hrule : IgnoreRule.ofPattern? (s ++ "/") false = some rule) :
    rule.directoryOnly = true ∧ rule.negated = false := by
  rw [ofPattern?_append_slash, Option.some.injEq] at hrule
  rw [← hrule]
  split <;> exact ⟨rfl, rfl⟩

/-- Names that stand for themselves in a pattern: none holds a sign of a pattern, and the first one does not begin
with a blank. -/
structure SpelledOut (names : List String) : Prop where
  slashless : Slashless names
  literal : ∀ name ∈ names, Text.IsLiteral name
  start : ∃ c rest, (names.headD "").toList = c :: rest ∧ Text.isBlank c = false

/-- There is a name to spell out. -/
lemma SpelledOut.ne_nil (h : SpelledOut names) : names ≠ [] := by
  rintro rfl
  obtain ⟨c, rest, hstart, -⟩ := h.start
  cases hstart

/-- A path that is spelled out has no wildcards. -/
lemma SpelledOut.isLiteral (h : SpelledOut names) : Text.IsLiteral (slashed names) := by
  have hnot {c : Char} (hslash : c ≠ '/') (hnames : ∀ name ∈ names, c ∉ name.toList) :
      c ∉ (slashed names).toList := by
    rw [slashed, String.toList_intercalate]
    apply Text.notMem_intercalate
    · simpa using hslash
    · rw [List.forall_mem_map]
      exact hnames
  exact ⟨hnot (by decide) fun name hname => (h.literal name hname).1,
    hnot (by decide) fun name hname => (h.literal name hname).2.1,
    hnot (by decide) fun name hname => (h.literal name hname).2.2⟩

/-- The text of names starts with the first of them. -/
lemma SpelledOut.exists_start (h : SpelledOut names) :
    ∃ c rest, (slashed names).toList = c :: rest ∧ Text.isBlank c = false ∧ c ≠ '/' := by
  obtain ⟨c, rest, hstart, hblank⟩ := h.start
  obtain ⟨name, others, rfl⟩ := List.exists_cons_of_ne_nil h.ne_nil
  rw [List.headD_cons] at hstart
  have hslash : c ≠ '/' := by
    rintro rfl
    exact h.slashless name List.mem_cons_self (hstart ▸ List.mem_cons_self)
  cases others with
  | nil =>
    rw [slashed, String.intercalate_singleton]
    exact ⟨c, rest, hstart, hblank, hslash⟩
  | cons next others =>
    rw [slashed, String.intercalate_cons_cons, String.append_assoc, String.toList_append, hstart]
    exact ⟨c, _, rfl, hblank, hslash⟩

/-- The rule for names that stand for themselves. -/
def spelledRule (names : List String) : IgnoreRule :=
  ⟨slashed names, true, false, false⟩

/-- Such a path with a slash at its end is read as the rule for that directory. -/
lemma SpelledOut.ofPattern?_eq (h : SpelledOut names) :
    IgnoreRule.ofPattern? (slashed names ++ "/") false = some (spelledRule names) := by
  obtain ⟨c, rest, htext, hblank, hslash⟩ := h.exists_start
  have htrim : Text.trimStart (slashed names).toList = (slashed names).toList := by
    rw [htext, Text.trimStart, List.dropWhile_cons_of_neg (by simp [hblank])]
  rw [ofPattern?_append_slash, htrim, htext, List.head?_cons, if_neg (by simpa using hslash), ← htext,
    String.ofList_toList]
  rfl

/-! ## The directories that the rule covers -/

/-- A text goes on after some names and a slash if more names follow. -/
lemma isPrefixOf_slashed_iff (hne : names ≠ []) (hnames : Slashless names) (hne' : above ≠ [])
    (habove : Slashless above) :
    ((slashed names).toList ++ ['/']).isPrefixOf (slashed above).toList = true ↔
      ∃ rest, rest ≠ [] ∧ names ++ rest = above := by
  rw [List.isPrefixOf_iff_prefix]
  constructor
  · rintro ⟨text, htext⟩
    have heq : slashed above = slashed names ++ "/" ++ String.ofList text := by
      rw [← String.toList_inj, ← htext]
      simp
    refine ⟨Text.splitOnChar '/' (String.ofList text), ?_, ?_⟩
    · rw [Text.splitOnChar, ne_eq, List.map_eq_nil_iff]
      exact Text.splitAtEach_ne_nil _
    · rw [← splitOnChar_slashed hne' habove, heq, Text.splitOnChar_append, splitOnChar_slashed hne hnames]
  · rintro ⟨rest, hrest, rfl⟩
    rw [slashed_append hne hrest, String.toList_append, String.toList_append]
    exact List.prefix_append _ _

/-- It is not empty. -/
lemma SpelledOut.ne_empty (h : SpelledOut names) : slashed names ≠ "" := by
  obtain ⟨c, rest, htext, -⟩ := h.exists_start
  intro heq
  rw [heq] at htext
  cases htext

/-- Several names are compared with a whole path. -/
lemma covers_iff_isPrefix (h : SpelledOut names) (htwo : 2 ≤ names.length) (hne : above ≠ [])
    (habove : Slashless above) :
    (spelledRule names).covers (slashed above) true = true ↔ names <+: above := by
  have hslash : '/' ∈ (slashed names).toList := by
    match names, htwo with
    | first :: second :: rest, _ =>
      rw [slashed, String.intercalate_cons_cons, String.toList_append, String.toList_append]
      simp
  have hcovers : (spelledRule names).covers (slashed above) true = true ↔
      slashed names = slashed above ∨
        ((slashed names).toList ++ ['/']).isPrefixOf (slashed above).toList = true := by
    simp [IgnoreRule.covers, IgnoreRule.hasSlash, spelledRule, h.ne_empty, hslash,
      Text.Glob.accepts_iff_of_literal h.isLiteral]
  rw [hcovers, isPrefixOf_slashed_iff h.ne_nil h.slashless hne habove]
  constructor
  · rintro (heq | ⟨rest, -, rfl⟩)
    · rw [slashed_injective h.ne_nil hne h.slashless habove heq]
    · exact List.prefix_append _ _
  · rintro ⟨rest, rfl⟩
    by_cases hrest : rest = []
    · rw [hrest, List.append_nil]
      exact .inl rfl
    · exact .inr ⟨rest, hrest, rfl⟩

/-- A single name is compared with every level of a path. -/
lemma covers_iff_mem (h : SpelledOut [name]) (hne : above ≠ []) (habove : Slashless above) :
    (spelledRule [name]).covers (slashed above) true = true ↔ name ∈ above := by
  have hpattern : slashed [name] = name := String.intercalate_singleton
  have hslash : '/' ∉ name.toList := h.slashless name List.mem_cons_self
  have hempty := h.ne_empty
  have hliteral := h.isLiteral
  rw [hpattern] at hempty hliteral
  have hcovers : (spelledRule [name]).covers (slashed above) true = true ↔
      name ∈ Text.splitOnChar '/' (slashed above) := by
    simp [IgnoreRule.covers, IgnoreRule.hasSlash, spelledRule, hpattern, hempty, hslash,
      Text.Glob.accepts_iff_of_literal hliteral]
  rw [hcovers, splitOnChar_slashed hne habove]

/-- What holds of a directory on the way as soon as it holds of one above. -/
lemma onTheWay_not_iff {P : List String → Prop} (hnil : ¬ P [])
    (hmono : ∀ {names names' : List String}, names <+: names' → P names → P names') :
    OnTheWay (fun above => ¬ P above) folders ↔ ¬ P folders := by
  constructor
  · intro h hP
    have hne : folders ≠ [] := by
      rintro rfl
      exact hnil hP
    refine h folders.length (List.length_pos_of_ne_nil hne) (Nat.le_refl _) ?_
    rwa [List.take_length]
  · intro h i _ _ hP
    exact h (hmono (List.take_prefix i folders) hP)

/-- If the rule covers the directories of which something holds, it leaves out the files on whose way it holds. -/
lemma onTheWay_uncovered_iff {P : List String → Prop} (hfolders : Slashless folders) (hnil : ¬ P [])
    (hmono : ∀ {names names' : List String}, names <+: names' → P names → P names')
    (hcovers : ∀ {above}, above ≠ [] → Slashless above → (rule.covers (slashed above) true = true ↔ P above)) :
    OnTheWay (fun above => rule.covers (slashed above) true = false) folders ↔ ¬ P folders := by
  rw [← onTheWay_not_iff hnil hmono]
  refine forall₃_congr fun i hi hle => ?_
  dsimp only
  have hne : folders.take i ≠ [] := by
    rw [ne_eq, List.take_eq_nil_iff, not_or]
    exact ⟨Nat.ne_of_gt hi, List.ne_nil_of_length_pos (Nat.lt_of_lt_of_le hi hle)⟩
  have hslashless : Slashless (folders.take i) :=
    fun name hname => hfolders name (List.take_subset i folders hname)
  rw [← Bool.not_eq_true, hcovers hne hslashless]

/-! ## Scans with the rule and without it -/

/-- The rules of a project are those of its ignore file and, after them, those of its settings. -/
lemma allRules_eq (hload : Settings.load yaml d (.ofLocation root) = .ok settings)
    (hfile : fileRules d root = .ok rules) : allRules yaml d root = .ok (rules ++ settingsRules root settings, []) := by
  rw [allRules, hfile, hload]
  rfl

/-- The rule for the output directory comes last. -/
lemma settingsRules_eq (hpattern : outputPattern? root settings.outputDir = some path)
    (hrule : IgnoreRule.ofPattern? path false = some rule) :
    settingsRules root settings = settings.excludePaths.filterMap (IgnoreRule.ofPattern? · false) ++ [rule] := by
  rw [settingsRules, hpattern, List.filterMap_append]
  simp [hrule]

/-- The rules of a scan end with the one for the output directory. -/
lemma exists_of_scanAt (hload : Settings.load yaml d (.ofLocation root) = .ok settings)
    (hscan : scanAt yaml d given root = .ok found)
    (hplace : d.resolve root settings.outputDir = .ok (root ++ names)) (hproper : names ≠ []) :
    ∃ others rule, allRules yaml d root = .ok (others ++ [rule], []) ∧
      IgnoreRule.ofPattern? (slashed names ++ "/") false = some rule ∧
      found.files = sourcesBelow (others ++ [rule]) d root := by
  obtain ⟨-, fromFile, hfile, rfl⟩ := (scanAt_eq_ok_iff hload).1 hscan
  obtain ⟨rule, hrule⟩ : ∃ rule, IgnoreRule.ofPattern? (slashed names ++ "/") false = some rule :=
    ⟨_, ofPattern?_append_slash _⟩
  have hrules := settingsRules_eq (outputPattern?_eq hplace hproper) hrule
  refine ⟨fromFile ++ settings.excludePaths.filterMap (IgnoreRule.ofPattern? · false), rule, ?_, hrule, ?_⟩
  · rw [allRules_eq hload hfile, hrules, List.append_assoc]
  · rw [hrules, List.append_assoc]

/-- The output directory is left out by the last rule of a project, together with every other directory that this
rule covers.  Of an output directory with several names that stand for themselves, the files below it are left out
and no others.  If it has a single name, so are those below all directories of this name. -/
theorem output_rule_leaves_out (htree : d.IsTree) (hload : Settings.load yaml d (.ofLocation root) = .ok settings)
    (hscan : scanAt yaml d given root = .ok found)
    (hplace : d.resolve root settings.outputDir = .ok (root ++ names)) (hproper : names ≠ []) :
    ∃ others rule, allRules yaml d root = .ok (others ++ [rule], []) ∧
      IgnoreRule.ofPattern? (slashed names ++ "/") false = some rule ∧
      (∀ f, f ∈ found.files ↔ f ∈ sourcesBelow others d root ∧
        OnTheWay (fun above => rule.covers (slashed above) true = false) f.folders) ∧
      (SpelledOut names → 2 ≤ names.length →
        ∀ f, f ∈ found.files ↔ f ∈ sourcesBelow others d root ∧ ¬ names <+: f.folders) ∧
      (∀ name, names = [name] → SpelledOut [name] →
        ∀ f, f ∈ found.files ↔ f ∈ sourcesBelow others d root ∧ name ∉ f.folders) := by
  obtain ⟨others, rule, hall, hrule, hfiles⟩ := exists_of_scanAt hload hscan hplace hproper
  have hkind := isDirectoryRule_of_append_slash hrule
  have hmem (f : SourceFile) : f ∈ sourcesBelow (others ++ [rule]) d root ↔ f ∈ sourcesBelow others d root ∧
      OnTheWay (fun above => rule.covers (slashed above) true = false) f.folders :=
    mem_sourcesBelow_concat_iff htree hkind.1 hkind.2
  -- If the directories that the rule covers are known, so is what it leaves out.
  have hknown {P : List String → Prop} (hnil : ¬ P [])
      (hmono : ∀ {names names' : List String}, names <+: names' → P names → P names')
      (hcovers : ∀ {above}, above ≠ [] → Slashless above → (rule.covers (slashed above) true = true ↔ P above))
      (f : SourceFile) : f ∈ found.files ↔ f ∈ sourcesBelow others d root ∧ ¬ P f.folders := by
    rw [hfiles, hmem]
    refine and_congr_right fun hf => ?_
    obtain ⟨file, -, hslashless, -⟩ := exists_of_mem_sourcesBelow htree hf
    exact onTheWay_uncovered_iff (fun name hname => hslashless name (List.mem_append_left _ hname)) hnil hmono hcovers
  refine ⟨others, rule, hall, hrule, hfiles ▸ hmem, ?_, ?_⟩
  · intro hspelled htwo
    obtain rfl := Option.some.inj (hspelled.ofPattern?_eq.symm.trans hrule)
    refine hknown ?_ (fun hbelow hnames => hnames.trans hbelow) (covers_iff_isPrefix hspelled htwo)
    rwa [List.prefix_nil]
  · rintro name rfl hspelled
    obtain rfl := Option.some.inj (hspelled.ofPattern?_eq.symm.trans hrule)
    exact hknown List.not_mem_nil (fun hbelow hname => hbelow.subset hname) (covers_iff_mem hspelled)

/-- A project whose output directory has the name of a directory with a source. -/
def namesakeProject : Disk :=
  ((((Disk.empty.put ["p"] .folder).put ["p", settingsName] (.file (Text.Utf8.encodeText "output_dir: gen"))).put
    ["p", "src"] .folder).put ["p", "src", "gen"] .folder).put ["p", "src", "gen", "A.cs"] (.file [])

/-- The project is a tree. -/
lemma isTree_namesakeProject : namesakeProject.IsTree := by
  unfold namesakeProject
  repeat' refine Disk.IsTree.put ?_ (by decide +kernel) (by decide +kernel) (by decide)
  exact Disk.isTree_empty

/-- The source is not below the output directory, and it is left out. -/
theorem output_rule_leaves_out_namesake :
    ∃ found, scanAt .standard namesakeProject "/p" ["p"] = .ok found ∧
      ⟨"src/gen/A.cs", []⟩ ∈ sourcesBelow [] namesakeProject ["p"] ∧
      ¬ ["gen"] <+: (SourceFile.mk "src/gen/A.cs" []).folders ∧
      ∃ rule, allRules .standard namesakeProject ["p"] = .ok ([] ++ [rule], []) ∧ ⟨"src/gen/A.cs", []⟩ ∉ found.files := by
  obtain ⟨settings, hload⟩ := exists_ok_of_isSome
    (show (Settings.load .standard namesakeProject (.ofLocation ["p"])).toOption.isSome by decide +kernel)
  obtain ⟨found, hscan⟩ := exists_ok_of_isSome
    (show (scanAt .standard namesakeProject "/p" ["p"]).toOption.isSome by decide +kernel)
  have hplace : namesakeProject.resolve ["p"] settings.outputDir = .ok (["p"] ++ ["gen"]) := by
    have h : (Settings.load .standard namesakeProject (.ofLocation ["p"])).toOption.map (·.outputDir) =
        some (.ofLocation ["p", "gen"]) := by
      decide +kernel
    rw [hload] at h
    have houtput : settings.outputDir = .ofLocation ["p", "gen"] := Option.some.inj h
    rw [houtput]
    rfl
  obtain ⟨others, rule, hall, -, -, -, hsingle⟩ :=
    output_rule_leaves_out isTree_namesakeProject hload hscan hplace (by decide)
  have hlength : (allRules .standard namesakeProject ["p"]).toOption.map (·.1.length) = some 1 := by
    decide +kernel
  have hothers : others = [] := by
    rw [hall] at hlength
    have hsucc : (others ++ [rule]).length = 1 := Option.some.inj hlength
    rw [List.length_append] at hsucc
    exact List.length_eq_zero_iff.1 (Nat.succ.inj hsucc)
  subst hothers
  refine ⟨found, hscan, by decide +kernel, by decide, rule, hall, ?_⟩
  rw [hsingle "gen" rfl ⟨by decide, by decide, 'g', ['e', 'n'], rfl, by decide⟩]
  rintro ⟨-, hnot⟩
  exact hnot (by decide)

end Project

end PropertyQuote
