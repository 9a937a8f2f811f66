import PropertyQuote.Proofs.Repetition
import PropertyQuote.Service

/-!
# Sources on a disk and sources in a request

A pass over a project and the service compile their sources alike, but they come by the texts in different ways.
The service takes a text as it was sent.  A pass reads it from a file, and then every line end is a line feed.
An expression that goes over several lines keeps its line ends in its unit and in the fingerprint, so the two agree
for sources without carriage returns, and otherwise the pass agrees with the service for other texts.

* `SourceFile.Holds`: the bytes of a file are a text without a byte order mark.
* `ServedAlike`: the service answers with what a pass produces.
* `pass_served_alike`: for which texts it does.
-/

namespace PropertyQuote

namespace Text

/-- A text whose line ends are line feeds. -/
def unified (s : String) : String :=
  String.ofList (unifyNewlines s.toList)

/-- Line ends are unified already exactly if there is no carriage return. -/
lemma unified_eq_self_iff {s : String} : unified s = s ↔ '\r' ∉ s.toList := by
  constructor
  · intro h
    rw [← h, unified, String.toList_ofList]
    exact return_notMem_unifyNewlines _
  · intro h
    rw [unified, unifyNewlines_of_notMem h, String.ofList_toList]

end Text

namespace Project

variable {readers : Readers} {d : Disk} {s : Surroundings} {path : String} {output : OutputChoice} {dryRun : Bool}
  {o : PassOutcome} {root : Location} {found : Scan} {loaded : Settings} {f : SourceFile}
  {files : List SourceFile} {t : String × String} {texts : List (String × String)}

/-! ## Texts of files -/

/-- A file holds a text with its path: its bytes are the text in UTF-8, without a byte order mark. -/
structure SourceFile.Holds (f : SourceFile) (t : String × String) : Prop where
  path : f.path = t.1
  decoded : Text.Utf8.decodeText? f.bytes = some t.2
  unmarked : t.2.toList.head? ≠ some '\ufeff'

/-- Texts with their paths, in which the line ends are line feeds. -/
def unifiedTexts (texts : List (String × String)) : List (String × String) :=
  texts.map fun t => (t.1, Text.unified t.2)

/-- The text of a file is that of its bytes with line ends unified. -/
lemma SourceFile.Holds.text?_eq (h : f.Holds t) : f.text? = some (Text.unified t.2) := by
  obtain ⟨cs, hcs, htext⟩ := Option.map_eq_some_iff.1 h.decoded
  have hmark := h.unmarked
  rw [← htext, String.toList_ofList] at hmark
  rw [SourceFile.text?, hcs, Option.map_some, ← htext, Text.unified, String.toList_ofList]
  split
  · exact absurd rfl hmark
  · rfl

/-- What is read from files is what they hold, with unified line ends. -/
lemma filterMap_text?_of_holds (h : List.Forall₂ SourceFile.Holds files texts) :
    files.filterMap (fun f => f.text?.map (f.path, ·)) = unifiedTexts texts := by
  induction h with
  | nil => rfl
  | cons hf _ ih =>
    rw [List.filterMap_cons_some (by rw [hf.text?_eq, hf.path, Option.map_some]), ih]
    rfl

/-- A pass reads the program of the unified texts. -/
lemma program_of_holds (parse : CSharp.Parser) (h : List.Forall₂ SourceFile.Holds files texts) :
    CSharp.Compilation.ofFiles (csharpFiles parse files) = .ofTexts parse (unifiedTexts texts) := by
  rw [ofFiles_csharpFiles, filterMap_text?_of_holds h]

/-- Texts are unified already exactly if none has a carriage return. -/
lemma unifiedTexts_eq_self_iff : unifiedTexts texts = texts ↔ ∀ t ∈ texts, '\r' ∉ t.2.toList := by
  induction texts with
  | nil => exact iff_of_true rfl fun _ ht => absurd ht List.not_mem_nil
  | cons t texts ih =>
    rw [List.forall_mem_cons, ← ih, ← Text.unified_eq_self_iff, unifiedTexts, List.map_cons, List.cons.injEq,
      Prod.ext_iff]
    simp only [true_and]
    rfl

/-! ## Results -/

/-- The order for the pass over some texts that a project's settings ask for. -/
def Settings.order (settings : Settings) (texts : List (String × String)) : Service.Order where
  sources := texts
  marker := settings.marker
  emitBootstrap := settings.emitBootstrap

/-- Every order is carried out. -/
lemma run_order (parse : CSharp.Parser) (settings : Settings) (texts : List (String × String)) :
    (settings.order texts).run parse = .generated (passResult settings.emitBootstrap
      (discover settings.marker (CSharp.Compilation.ofTexts parse texts).occurrences)) := by
  dsimp only [Service.Order.run]
  rw [generate_standardTemplate]
  rfl

/-- Whatever the template is, a pass finds its candidates in the program and takes the fingerprint of them. -/
lemma candidates_of_generate {options : PassOptions} {program : List Occurrence} {r : GenerationResult}
    (h : generate options program = .ok r) :
    r.candidates = discover options.marker program ∧
      r.fingerprint = fingerprint (discover options.marker program) := by
  obtain ⟨emitted, -, h⟩ := bind_ok h
  cases h
  exact ⟨rfl, rfl⟩

/-- A pass scans the project as a scan of its own does: the path that was asked for is only shown in errors. -/
lemma PassSteps.scan_eq (h : PassSteps readers d s path output dryRun o root found loaded) :
    Project.scan readers.yaml d s path = .ok found := by
  rw [Project.scan, h.place]
  exact (scanAt_eq_ok_iff h.load).2 ((scanAt_eq_ok_iff h.load).1 h.scan)

/-- For some texts the service answers with the candidates and the fingerprint of every pass over a project, and
with the whole result of the pass if the project has no template of its own. -/
def ServedAlike (readers : Readers) (d : Disk) (s : Surroundings) (path : String)
    (texts : List (String × String)) : Prop :=
  ∀ output dryRun o, (pass readers d s path output dryRun).result = .ok o →
    ∃ r, (o.settings.order texts).run readers.csharp = .generated r ∧ r.candidates = o.result.candidates ∧
      r.fingerprint = o.result.fingerprint ∧
      (templateOf d o.settings = .ok standardTemplate → r = o.result)

/-- A service that is given the texts of the program generates what the pass does. -/
lemma servedAlike_of_program (hscan : scan readers.yaml d s path = .ok found)
    (hprogram : CSharp.Compilation.ofFiles (csharpFiles readers.csharp found.files) = .ofTexts readers.csharp texts) :
    ServedAlike readers d s path texts := by
  intro output dryRun o hpass
  obtain ⟨root, found', loaded, hsteps⟩ := passSteps_of_result hpass
  cases hsteps.scan_eq.symm.trans hscan
  have hresult := hsteps.generation
  rw [hprogram] at hresult
  obtain ⟨hcandidates, hfingerprint⟩ := candidates_of_generate hresult
  refine ⟨_, run_order .., hcandidates.symm, hfingerprint.symm, fun htemplate => ?_⟩
  rw [htemplate] at hresult
  exact Except.ok.inj ((generate_standardTemplate ..).symm.trans hresult)

/-- A project whose files hold some texts is compiled as these texts with line feeds as line ends, and for those the
service does what a pass does.  They are the texts themselves if and only if no carriage return is in them.  How
settings and sources are read does not matter, as long as the pass and the service read sources alike. -/
theorem pass_served_alike (hscan : scan readers.yaml d s path = .ok found)
    (hholds : List.Forall₂ SourceFile.Holds found.files texts) :
    CSharp.Compilation.ofFiles (csharpFiles readers.csharp found.files) =
        .ofTexts readers.csharp (unifiedTexts texts) ∧
      ServedAlike readers d s path (unifiedTexts texts) ∧
      (unifiedTexts texts = texts ↔ ∀ t ∈ texts, '\r' ∉ t.2.toList) ∧
      ((∀ t ∈ texts, '\r' ∉ t.2.toList) →
        CSharp.Compilation.ofFiles (csharpFiles readers.csharp found.files) = .ofTexts readers.csharp texts ∧
          ServedAlike readers d s path texts) := by
  have hprogram := program_of_holds readers.csharp hholds
  refine ⟨hprogram, servedAlike_of_program hscan hprogram, unifiedTexts_eq_self_iff, fun hplain => ?_⟩
  rw [unifiedTexts_eq_self_iff.2 hplain] at hprogram
  exact ⟨hprogram, servedAlike_of_program hscan hprogram⟩

/-! ## An expression on two lines -/

/-- A property whose expression goes over two lines, with the given line end. -/
def foldedChars (lineEnd : Char) : List Char :=
  "using Corvus.Expressions.SourceGenerator;\npartial class C \x7b [GenerateBonsai] int P => 1".toList ++
    lineEnd :: "+ 2; \x7d\n".toList

/-- A class with a marked property whose expression goes over two lines. -/
def foldedText (lineEnd : Char) : String :=
  String.ofList (foldedChars lineEnd)

/-- The candidate of such a class. -/
def foldedCandidate (lineEnd : Char) : Candidate :=
  { markedCandidate with
    declaration := { markedCandidate.declaration with
      accessors := [⟨"get", .expression, some (String.ofList ['1', lineEnd, '+', ' ', '2'])⟩] } }

/-- The text has one candidate, with the line end in its expression. -/
lemma discover_foldedText {lineEnd : Char} (h : lineEnd = '\r' ∨ lineEnd = '\n') :
    discover standardMarker (CSharp.Compilation.ofTexts CSharp.parse [("C.cs", foldedText lineEnd)]).occurrences =
      [foldedCandidate lineEnd] := by
  rcases h with rfl | rfl <;> decide +kernel

/-- A project with such a class, whose line end is a carriage return. -/
def foldedProject : Disk :=
  (Disk.empty.put ["p"] .folder).put ["p", "C.cs"] (.file (Text.Utf8.encodeText (foldedText '\r')))

/-- The settings that a project without a settings file has. -/
def foldedSettings : Settings :=
  .standard ⟨.top, ["p"]⟩

/-- What is found in the project: one source. -/
def foldedScan : Scan where
  root := ["p"]
  files := [⟨"C.cs", Text.Utf8.encodeText (foldedText '\r')⟩]
  log := []

/-- The project is scanned from every path that leads to it. -/
lemma scanAt_foldedProject (given : String) : scanAt .standard foldedProject given ["p"] = .ok foldedScan := by
  have hload : Settings.load .standard foldedProject (.ofLocation ["p"]) = .ok foldedSettings := rfl
  refine (scanAt_eq_ok_iff hload).2 ⟨rfl, [], rfl, ?_⟩
  have hfiles : sourcesBelow ([] ++ settingsRules ["p"] foldedSettings) foldedProject ["p"] = foldedScan.files := by
    decide +kernel
  rw [hfiles]
  rfl

/-- The source holds the text with the carriage return. -/
lemma holds_foldedScan : List.Forall₂ SourceFile.Holds foldedScan.files [("C.cs", foldedText '\r')] := by
  have hdecoded : Text.Utf8.decodeText? (Text.Utf8.encodeText (foldedText '\r')) = some (foldedText '\r') := by
    rw [Text.Utf8.decodeText?, Text.Utf8.encodeText, Text.Utf8.decode?_encode, Option.map_some, String.ofList_toList]
  exact .cons ⟨rfl, hdecoded, by decide⟩ .nil

/-- A pass reads a line feed instead. -/
lemma unifiedTexts_foldedText : unifiedTexts [("C.cs", foldedText '\r')] = [("C.cs", foldedText '\n')] := by
  have hchars : Text.unifyNewlines (foldedChars '\r') = foldedChars '\n' := by
    decide
  have hunified : Text.unified (foldedText '\r') = foldedText '\n' := by
    rw [Text.unified, foldedText, String.toList_ofList, hchars]
    rfl
  rw [unifiedTexts, List.map_singleton, hunified]

/-- The line end shows in the units and in the fingerprint. -/
lemma passResult_folded_ne :
    (passResult true [foldedCandidate '\r']).units ≠ (passResult true [foldedCandidate '\n']).units ∧
      (passResult true [foldedCandidate '\r']).fingerprint ≠ (passResult true [foldedCandidate '\n']).fingerprint := by
  decide +kernel

/-- A pass reads the carriage return in the expression as a line feed.  The service does the same for the text with a
line feed, and with the text as it is in the file it generates another unit with another fingerprint. -/
theorem pass_served_alike_folded :
    scan .standard foldedProject ⟨[], []⟩ "/p" = .ok foldedScan ∧
      List.Forall₂ SourceFile.Holds foldedScan.files [("C.cs", foldedText '\r')] ∧
      ∃ o r, (pass .standard foldedProject ⟨[], []⟩ "/p" .standard true).result = .ok o ∧
        (o.settings.order [("C.cs", foldedText '\n')]).run CSharp.parse = .generated o.result ∧
        (o.settings.order [("C.cs", foldedText '\r')]).run CSharp.parse = .generated r ∧
        r.units ≠ o.result.units ∧ r.fingerprint ≠ o.result.fingerprint := by
  have hscan : scan Readers.standard.yaml foldedProject ⟨[], []⟩ "/p" = .ok foldedScan := scanAt_foldedProject "/p"
  obtain ⟨-, hserved, -, -⟩ := pass_served_alike hscan holds_foldedScan
  rw [unifiedTexts_foldedText] at hserved
  have hgeneration : generate
      { marker := foldedSettings.marker, emitBootstrap := foldedSettings.emitBootstrap,
        template := templateOf foldedProject foldedSettings }
      (CSharp.Compilation.ofFiles (csharpFiles CSharp.parse foldedScan.files)).occurrences =
        .ok (passResult true [foldedCandidate '\n']) := by
    rw [program_of_holds CSharp.parse holds_foldedScan, unifiedTexts_foldedText, ← discover_foldedText (.inr rfl)]
    exact generate_standardTemplate ..
  obtain ⟨written, hwriting⟩ := exists_ok_of_isSome
    (x := writeUnits foldedProject foldedSettings.outputDir (passResult true [foldedCandidate '\n']).units
      { fingerprint := (passResult true [foldedCandidate '\n']).fingerprint, prune := foldedSettings.pruneStale,
        dryRun := true })
    (by decide +kernel)
  have hsteps : PassSteps .standard foldedProject ⟨[], []⟩ "/p" .standard true
      ⟨foldedSettings, passResult true [foldedCandidate '\n'], written⟩ ["p"] foldedScan foldedSettings :=
    ⟨rfl, scanAt_foldedProject _, rfl, rfl, hgeneration, hwriting⟩
  obtain ⟨r, hrun, -, -, hsame⟩ := hserved _ _ _ hsteps.pass_eq.1
  rw [hsame rfl] at hrun
  have hother : (foldedSettings.order [("C.cs", foldedText '\r')]).run CSharp.parse =
      .generated (passResult true [foldedCandidate '\r']) := by
    rw [run_order, ← discover_foldedText (.inl rfl)]
    rfl
  exact ⟨hscan, holds_foldedScan, _, _, hsteps.pass_eq.1, hrun, hother, passResult_folded_ne⟩

end Project

end PropertyQuote
