import PropertyQuote.Project.Settings
import PropertyQuote.Proofs.Output.Steps
import PropertyQuote.Proofs.Yaml.Composition

/-!
# What becomes of a settings file

A settings file that is there states settings, or is reported as being at fault, or stops the pass in another way.
Which of them happens depends on the bytes of the file, and on the loader that gives a text its value: the faults that
it reports as its own are faults of the settings, the others are not.

* `FailsIff`, `failsIff_ofMapping`: a mapping states settings unless a number in it has too many digits.
* `load_of_file`: settings are read from the text in the bytes of their file.
* `Yaml.Loader.LoadsOnly`: what is asked of a loader.
* `load_iff_of_file`: when settings are stated, when they are reported, and what else may happen.
-/

namespace PropertyQuote.Project

variable {α β : Type} {d : Disk} {p : Path} {l : Location} {bytes : List UInt8} {text : List Char}

/-! ## Numbers with too many digits -/

/-- The fault of a number that has too many digits for a text. -/
def overlongFault : Yaml.Error :=
  .impossible Yaml.writeLimitMessage

/-- A whole number that has too many digits for a text. -/
def IsOverlong (v : Yaml.Value) : Prop :=
  ∃ n : Int, v = .int n ∧ Nat.pow 10 Decimal.mostDigits ≤ n.natAbs

/-- A list with such a number. -/
def ListsOverlong (v : Yaml.Value) : Prop :=
  ∃ items, v = .seq items ∧ ∃ w ∈ items, IsOverlong w

/-- A mapping with such a number where a text is wanted. -/
def HasOverlong (mapping : Yaml.Value) : Prop :=
  (∃ name ∈ ["output_dir", "templates_dir", "marker"], ∃ v, mapping.get? name = some v ∧ IsOverlong v) ∨
    ∃ v, mapping.get? "exclude_paths" = some v ∧ ListsOverlong v

/-- A step that fails if and only if a number is too long. -/
structure FailsIff (overlong : Prop) (x : Except Yaml.Error α) : Prop where
  fails : overlong → x = .error overlongFault
  succeeds : ¬ overlong → ∃ a, x = .ok a

namespace FailsIff

variable {overlong overlong' : Prop} {x : Except Yaml.Error α}

/-- The numbers may be described in another way. -/
lemma congr (h : FailsIff overlong x) (hiff : overlong' ↔ overlong) : FailsIff overlong' x where
  fails h' := h.fails (hiff.1 h')
  succeeds h' := h.succeeds (mt hiff.2 h')

/-- A step that succeeds meets no number that is too long. -/
lemma ok {a : α} (h : ¬ overlong) : FailsIff overlong (.ok a : Except Yaml.Error α) where
  fails h' := absurd h' h
  succeeds _ := ⟨a, rfl⟩

/-- What is made of an answer does not decide about it. -/
lemma map (h : FailsIff overlong x) (f : α → β) : FailsIff overlong (x.map f) where
  fails h' := by
    rw [h.fails h']
    rfl
  succeeds h' := by
    obtain ⟨a, ha⟩ := h.succeeds h'
    exact ⟨f a, by rw [ha]; rfl⟩

/-- The first step that fails counts, but all of them fail alike. -/
lemma bind {f : α → Except Yaml.Error β} (hx : FailsIff overlong x) (hf : ∀ a, FailsIff overlong' (f a)) :
    FailsIff (overlong ∨ overlong') (x >>= f) where
  fails h := by
    by_cases hfirst : overlong
    · rw [hx.fails hfirst]
      rfl
    · obtain ⟨a, ha⟩ := hx.succeeds hfirst
      rw [ha]
      exact (hf a).fails (h.resolve_left hfirst)
  succeeds h := by
    obtain ⟨a, ha⟩ := hx.succeeds fun h' => h (.inl h')
    rw [ha]
    exact (hf a).succeeds fun h' => h (.inr h')

end FailsIff

/-- A value is taken for a text unless it is a number that is too long. -/
lemma failsIff_asText? (v : Yaml.Value) : FailsIff (IsOverlong v) (asText? v) := by
  cases v with
  | int n =>
    rw [asText?]
    refine .map ?_ some
    rw [numberText]
    split
    case isTrue hn => exact ⟨fun _ => rfl, fun h => absurd ⟨n, rfl, hn⟩ h⟩
    case isFalse hn =>
      refine .ok ?_
      rintro ⟨m, hm, hle⟩
      cases hm
      exact hn hle
  | _ =>
    refine .ok ?_
    rintro ⟨n, hn, -⟩
    cases hn

/-- So is an item of a list. -/
lemma failsIff_itemText? (v : Yaml.Value) : FailsIff (IsOverlong v) (itemText? v) := by
  cases v with
  | bool b =>
    refine .ok ?_
    rintro ⟨n, hn, -⟩
    cases hn
  | _ => exact failsIff_asText? _

/-- Items are taken one after the other, and the first that is too long fails. -/
lemma failsIff_mapM (items : List Yaml.Value) : FailsIff (∃ w ∈ items, IsOverlong w) (items.mapM itemText?) := by
  induction items with
  | nil =>
    refine .ok ?_
    rintro ⟨w, hw, -⟩
    exact List.not_mem_nil hw
  | cons v items ih =>
    rw [List.mapM_cons]
    have hstep := (failsIff_itemText? v).bind fun text => ih.map (text :: ·)
    exact hstep.congr (List.exists_mem_cons_iff ..)

/-- A value is taken for a list of texts unless it lists a number that is too long. -/
lemma failsIff_asTexts (v : Yaml.Value) : FailsIff (ListsOverlong v) (asTexts v) := by
  cases v with
  | seq items =>
    rw [asTexts]
    refine ((failsIff_mapM items).map _).congr ?_
    constructor
    · rintro ⟨items', heq, h⟩
      cases heq
      exact h
    · exact fun h => ⟨items, rfl, h⟩
  | _ =>
    refine .ok ?_
    rintro ⟨items, heq, -⟩
    cases heq

/-- A mapping states settings unless it has a number that is too long where a text is wanted. -/
lemma failsIff_ofMapping (root : Path) (mapping : Yaml.Value) :
    FailsIff (HasOverlong mapping) (Settings.ofMapping root mapping) := by
  have htext (name : String) : FailsIff (∃ v, mapping.get? name = some v ∧ IsOverlong v)
      ((asText? ((mapping.get? name).getD .null)).map Settings.filled?) := by
    refine ((failsIff_asText? _).map _).congr ?_
    cases mapping.get? name with
    | none => simp [IsOverlong]
    | some v => simp
  have htexts : FailsIff (∃ v, mapping.get? "exclude_paths" = some v ∧ ListsOverlong v)
      (asTexts ((mapping.get? "exclude_paths").getD .null)) := by
    refine (failsIff_asTexts _).congr ?_
    cases mapping.get? "exclude_paths" with
    | none => simp [ListsOverlong]
    | some v => simp
  rw [Settings.ofMapping]
  refine FailsIff.congr (.bind (htext "output_dir") fun outputDir => .bind (htext "templates_dir") fun templatesDir =>
    .bind (htext "marker") fun marker => .bind htexts fun excludePaths => .ok not_false) ?_
  simp [HasOverlong, or_assoc]

/-! ## Texts -/

/-- A mapping, with any entries. -/
def IsMapping (v : Yaml.Value) : Prop :=
  ∃ entries, v = .map entries

/-- A value that states settings: one that counts as none at all, or a mapping without a number that is too long. -/
def StatesSettings (v : Yaml.Value) : Prop :=
  isVacant v = true ∨ IsMapping v ∧ ¬ HasOverlong v

variable {yaml : Yaml.Loader} {root : Path} {v : Yaml.Value} {e : Yaml.Error} {failure : Failure} {settings : Settings}

/-- What counts as no settings at all has no such number. -/
lemma not_hasOverlong_of_isVacant (h : isVacant v = true) : ¬ HasOverlong v := by
  cases v with
  | map entries =>
    rw [isVacant, List.isEmpty_iff] at h
    subst h
    simp [HasOverlong, Yaml.Value.get?]
  | _ => simp [HasOverlong, Yaml.Value.get?]

/-- A mapping is at fault or states settings. -/
lemma ofValue_map (root : Path) (entries : List (Yaml.Value × Yaml.Value)) :
    HasOverlong (.map entries) ∧ Settings.ofValue root (.map entries) = .error (.value overlongFault) ∨
      ¬ HasOverlong (.map entries) ∧ ∃ settings, Settings.ofValue root (.map entries) = .ok settings := by
  have hmapping := failsIff_ofMapping root (.map entries)
  by_cases h : HasOverlong (.map entries)
  · refine .inl ⟨h, ?_⟩
    rw [Settings.ofValue, hmapping.fails h]
    rfl
  · obtain ⟨settings, hsettings⟩ := hmapping.succeeds h
    refine .inr ⟨h, settings, ?_⟩
    rw [Settings.ofValue, hsettings]
    rfl

/-- A value with a number that is too long is at fault. -/
lemma ofValue_of_hasOverlong (h : HasOverlong v) : Settings.ofValue root v = .error (.value overlongFault) := by
  cases v with
  | map entries =>
    rcases ofValue_map root entries with ⟨-, heq⟩ | ⟨hnot, -⟩
    · exact heq
    · exact absurd h hnot
  | _ => simp [HasOverlong, Yaml.Value.get?] at h

/-- A value of another kind counts as no settings at all, or it is reported. -/
lemma ofValue_of_not_isMapping (root : Path) (h : ¬ IsMapping v) :
    Settings.ofValue root v =
      if isVacant v then .ok (Settings.standard root) else .error (.settings .noMapping) := by
  cases v with
  | map entries => exact absurd ⟨entries, rfl⟩ h
  | _ => rfl

/-- Exactly the values that state settings give some. -/
lemma ofValue_eq_ok_iff : (∃ settings, Settings.ofValue root v = .ok settings) ↔ StatesSettings v := by
  by_cases h : IsMapping v
  · have hstates : StatesSettings v ↔ ¬ HasOverlong v :=
      ⟨fun hv => hv.elim not_hasOverlong_of_isVacant And.right, fun hv => .inr ⟨h, hv⟩⟩
    rw [hstates]
    obtain ⟨entries, rfl⟩ := h
    rcases ofValue_map root entries with ⟨hover, heq⟩ | ⟨hover, hok⟩
    · simp [heq, hover]
    · exact iff_of_true hok hover
  · rw [ofValue_of_not_isMapping root h, StatesSettings]
    cases isVacant v <;> simp [h]

/-- Exactly the values of another kind that count as something are reported as no mapping. -/
lemma ofValue_eq_noMapping_iff :
    Settings.ofValue root v = .error (.settings .noMapping) ↔ isVacant v = false ∧ ¬ IsMapping v := by
  by_cases h : IsMapping v
  · refine iff_of_false ?_ fun hv => hv.2 h
    obtain ⟨entries, rfl⟩ := h
    rcases ofValue_map root entries with ⟨-, heq⟩ | ⟨-, settings, heq⟩
    · simp [heq]
    · simp [heq]
  · rw [ofValue_of_not_isMapping root h]
    cases isVacant v <;> simp [h]

/-- A value has no other faults than these two. -/
lemma of_ofValue_eq_error (h : Settings.ofValue root v = .error failure) :
    failure = .settings .noMapping ∨ HasOverlong v ∧ failure = .value overlongFault := by
  by_cases hv : IsMapping v
  · obtain ⟨entries, rfl⟩ := hv
    rcases ofValue_map root entries with ⟨hover, heq⟩ | ⟨-, settings, heq⟩
    · rw [heq] at h
      cases h
      exact .inr ⟨hover, rfl⟩
    · rw [heq] at h
      cases h
  · rw [ofValue_of_not_isMapping root hv] at h
    split at h
    · cases h
    · cases h
      exact .inl rfl

/-- A fault of the loader is reported as malformed, or it is a fault of a value. -/
lemma ofText_of_load_error (hblank : text.all Text.isBlank = false) (h : yaml.load text = .error e) :
    Settings.ofText yaml root text = .error (if yaml.reports e then .settings .malformed else .value e) := by
  rw [Settings.ofText, hblank, h]
  rfl

/-- A text with a value stands for this value. -/
lemma ofText_of_load_ok (hblank : text.all Text.isBlank = false) (h : yaml.load text = .ok v) :
    Settings.ofText yaml root text = Settings.ofValue root v := by
  rw [Settings.ofText, hblank, h]
  rfl

/-- A blank text stands for no settings at all. -/
lemma ofText_of_blank (hblank : text.all Text.isBlank = true) :
    Settings.ofText yaml root text = .ok (Settings.standard root) := by
  rw [Settings.ofText, hblank]
  rfl

/-- A text states settings if it is blank or its value does. -/
lemma ofText_eq_ok_iff :
    (∃ settings, Settings.ofText yaml root text = .ok settings) ↔
      text.all Text.isBlank = true ∨ ∃ v, yaml.load text = .ok v ∧ StatesSettings v := by
  cases hblank : text.all Text.isBlank with
  | true => exact iff_of_true ⟨_, ofText_of_blank hblank⟩ (.inl rfl)
  | false =>
    cases hload : yaml.load text with
    | error e => simp [ofText_of_load_error hblank hload]
    | ok v => simp [ofText_of_load_ok hblank hload, ofValue_eq_ok_iff]

/-- A text is malformed if the loader reports a fault of its own. -/
lemma ofText_eq_malformed_iff :
    Settings.ofText yaml root text = .error (.settings .malformed) ↔
      text.all Text.isBlank = false ∧ ∃ e, yaml.load text = .error e ∧ yaml.reports e = true := by
  cases hblank : text.all Text.isBlank with
  | true => simp [ofText_of_blank hblank]
  | false =>
    cases hload : yaml.load text with
    | error e => cases hreports : yaml.reports e <;> simp [ofText_of_load_error hblank hload, hreports]
    | ok v =>
      rw [ofText_of_load_ok hblank hload]
      refine iff_of_false (fun h => ?_) (by simp)
      rcases of_ofValue_eq_error h with hfault | ⟨-, hfault⟩
      · cases hfault
      · cases hfault

/-- A text is reported as no mapping if its value is. -/
lemma ofText_eq_noMapping_iff :
    Settings.ofText yaml root text = .error (.settings .noMapping) ↔
      text.all Text.isBlank = false ∧ ∃ v, yaml.load text = .ok v ∧ isVacant v = false ∧ ¬ IsMapping v := by
  cases hblank : text.all Text.isBlank with
  | true => simp [ofText_of_blank hblank]
  | false =>
    cases hload : yaml.load text with
    | error e => cases hreports : yaml.reports e <;> simp [ofText_of_load_error hblank hload, hreports]
    | ok v => simp [ofText_of_load_ok hblank hload, ofValue_eq_noMapping_iff]

/-- A value is at fault if the loader has a fault that it does not report, or if a number is too long. -/
lemma ofText_eq_value_iff :
    Settings.ofText yaml root text = .error (.value e) ↔
      text.all Text.isBlank = false ∧ (yaml.load text = .error e ∧ yaml.reports e = false ∨
        ∃ v, yaml.load text = .ok v ∧ HasOverlong v ∧ e = overlongFault) := by
  cases hblank : text.all Text.isBlank with
  | true => simp [ofText_of_blank hblank]
  | false =>
    cases hload : yaml.load text with
    | error e' =>
      cases hreports : yaml.reports e' with
      | true =>
        refine iff_of_false (by simp [ofText_of_load_error hblank hload, hreports]) ?_
        rintro ⟨-, ⟨heq, hnot⟩ | ⟨v, heq, -⟩⟩
        · cases heq
          rw [hreports] at hnot
          cases hnot
        · cases heq
      | false =>
        rw [ofText_of_load_error hblank hload, hreports, if_neg Bool.false_ne_true]
        constructor
        · intro h
          cases h
          exact ⟨rfl, .inl ⟨rfl, hreports⟩⟩
        · rintro ⟨-, ⟨heq, -⟩ | ⟨v, heq, -⟩⟩
          · cases heq
            rfl
          · cases heq
    | ok v =>
      rw [ofText_of_load_ok hblank hload]
      constructor
      · intro h
        rcases of_ofValue_eq_error h with hfault | ⟨hover, hfault⟩
        · cases hfault
        · cases hfault
          exact ⟨rfl, .inr ⟨v, rfl, hover, rfl⟩⟩
      · rintro ⟨-, ⟨heq, -⟩ | ⟨v', heq, hover, rfl⟩⟩
        · cases heq
        · cases heq
          exact ofValue_of_hasOverlong hover

/-- A text that does not state settings is at fault as a whole, or one of its values is. -/
lemma of_ofText_eq_error (h : Settings.ofText yaml root text = .error failure) :
    (∃ fault, failure = .settings fault) ∨ ∃ e, failure = .value e := by
  cases hblank : text.all Text.isBlank with
  | true =>
    rw [ofText_of_blank hblank] at h
    cases h
  | false =>
    cases hload : yaml.load text with
    | error e =>
      rw [ofText_of_load_error hblank hload] at h
      cases h
      cases yaml.reports e with
      | true => exact .inl ⟨.malformed, rfl⟩
      | false => exact .inr ⟨e, rfl⟩
    | ok v =>
      rw [ofText_of_load_ok hblank hload] at h
      rcases of_ofValue_eq_error h with rfl | ⟨-, rfl⟩
      · exact .inl ⟨.noMapping, rfl⟩
      · exact .inr ⟨overlongFault, rfl⟩

/-! ## Files -/

/-- The text in the bytes of a file, with every line end as a line feed. -/
def fileText? (bytes : List UInt8) : Option (List Char) :=
  (Text.Utf8.decode? bytes).map Text.unifyNewlines

/-- A file that is seen is read as the text in its bytes, or its encoding is at fault. -/
lemma readText_of_file (hfile : d.look p = .ok (.file bytes)) :
    readText d p = (fileText? bytes).elim (.error .encoding) .ok := by
  cases hdecode : Text.Utf8.decode? bytes with
  | none =>
    rw [fileText?, hdecode, readText, read_eq_ok_iff.2 hfile]
    dsimp only [orRefused, bind, Except.bind]
    rw [hdecode]
    rfl
  | some text =>
    rw [fileText?, hdecode]
    exact readText_eq_ok_iff.2 ⟨bytes, text, hfile, hdecode, rfl⟩

/-- Settings are read from the text in their file. -/
lemma load_of_file (hplace : Settings.place d p = .ok l) (hfile : d.look (.ofLocation l) = .ok (.file bytes)) :
    Settings.load yaml d p =
      (fileText? bytes).elim (.error .encoding) (Settings.ofText yaml (Path.ofLocation l).parent) := by
  have hhas : d.has (.ofLocation l) = .ok true := Disk.has_eq_ok_iff.2 (.inl ⟨rfl, _, hfile⟩)
  rw [Settings.load, hplace]
  change (orRefused (d.has (Path.ofLocation l)) >>= _) = _
  rw [hhas]
  change (readText d (Path.ofLocation l) >>= _) = _
  rw [readText_of_file hfile]
  cases fileText? bytes with
  | none => rfl
  | some text => rfl

/-- What becomes of a settings file that is there, with any loader that loads single documents only.  Settings are
stated by a blank text, and by a single document that counts as no settings at all or is a mapping without a number
that is too long.  A text that the loader reports as faulty and a document of another kind are reported as faults of
the settings.  Bytes that are no text, other faults of the loader and numbers that are too long are not. -/
theorem load_iff_of_file {single : List Char → Prop} (hsingle : yaml.LoadsOnly single)
    (hplace : Settings.place d p = .ok l) (hfile : d.look (.ofLocation l) = .ok (.file bytes)) :
    ((∃ settings, Settings.load yaml d p = .ok settings) ↔ ∃ text, fileText? bytes = some text ∧
      (text.all Text.isBlank = true ∨ ∃ v, yaml.load text = .ok v ∧ single text ∧ StatesSettings v)) ∧
    (Settings.load yaml d p = .error (.settings .malformed) ↔ ∃ text, fileText? bytes = some text ∧
      text.all Text.isBlank = false ∧ ∃ e, yaml.load text = .error e ∧ yaml.reports e = true) ∧
    (Settings.load yaml d p = .error (.settings .noMapping) ↔ ∃ text, fileText? bytes = some text ∧
      text.all Text.isBlank = false ∧ ∃ v, yaml.load text = .ok v ∧ isVacant v = false ∧ ¬ IsMapping v) ∧
    (Settings.load yaml d p = .error .encoding ↔ fileText? bytes = none) ∧
    (∀ e, Settings.load yaml d p = .error (.value e) ↔ ∃ text, fileText? bytes = some text ∧
      text.all Text.isBlank = false ∧ (yaml.load text = .error e ∧ yaml.reports e = false ∨
        ∃ v, yaml.load text = .ok v ∧ HasOverlong v ∧ e = overlongFault)) ∧
    ∀ failure, Settings.load yaml d p = .error failure →
      (∃ fault, failure = .settings fault) ∨ failure = .encoding ∨ ∃ e, failure = .value e := by
  rw [load_of_file hplace hfile]
  cases fileText? bytes with
  | none => simp
  | some text =>
    have hdocument : (∃ v, yaml.load text = .ok v ∧ StatesSettings v) ↔
        ∃ v, yaml.load text = .ok v ∧ single text ∧ StatesSettings v :=
      exists_congr fun v => and_congr_right fun hload => (and_iff_right (hsingle text v hload)).symm
    simp only [Option.elim_some, Option.some.injEq, exists_eq_left']
    refine ⟨?_, ofText_eq_malformed_iff, ofText_eq_noMapping_iff, ?_, fun e => ofText_eq_value_iff, ?_⟩
    · rw [ofText_eq_ok_iff, hdocument]
    · refine iff_of_false (fun h => ?_) fun h => by cases h
      rcases of_ofText_eq_error h with ⟨fault, hfault⟩ | ⟨e, hfault⟩
      · cases hfault
      · cases hfault
    · intro failure h
      exact (of_ofText_eq_error h).imp id .inr

/-- A disk with nothing but a settings file. -/
def settingsAlone (bytes : List UInt8) : Disk :=
  Disk.empty.put [settingsName] (.file bytes)

/-- A text without carriage returns is read from its own bytes. -/
lemma fileText?_encodeText {s : String} (h : '\r' ∉ s.toList) :
    fileText? (Text.Utf8.encodeText s) = some s.toList := by
  rw [fileText?, Text.Utf8.encodeText, Text.Utf8.decode?_encode, Option.map_some, Text.unifyNewlines_of_notMem h]

/-- A text with a date that does not exist. -/
def dateText : String := "output_dir: 2024-13-45\n"

/-- The standard loader finds no such month. -/
lemma load_dateText : Yaml.load dateText.toList = .error (.impossible "month must be in 1..12") := by
  have hfault : (Yaml.load dateText.toList).map (fun _ => ()) = .error (.impossible "month must be in 1..12") := by
    decide +kernel
  cases hload : Yaml.load dateText.toList with
  | error e =>
    rw [hload] at hfault
    cases hfault
    rfl
  | ok v =>
    rw [hload] at hfault
    cases hfault

/-- An empty list counts as no settings at all.  A file that is no text and a date that does not exist are not reported
as faults of the settings. -/
theorem load_iff_of_file_unreported :
    (∃ settings, Settings.load .standard (settingsAlone (Text.Utf8.encodeText "[]")) (.ofLocation []) = .ok settings) ∧
    Settings.load .standard (settingsAlone [0xff]) (.ofLocation []) = .error .encoding ∧
    Settings.load .standard (settingsAlone (Text.Utf8.encodeText dateText)) (.ofLocation []) =
      .error (.value (.impossible "month must be in 1..12")) := by
  have hnone : fileText? [0xff] = none := by
    rw [fileText?, Text.Utf8.decode?]
    rfl
  have hlist := fileText?_encodeText (s := "[]") (by decide)
  have hdate := fileText?_encodeText (s := dateText) (by decide)
  have hload : Yaml.load "[]".toList = .ok (.seq []) := rfl
  have hiff (bytes : List UInt8) :=
    load_iff_of_file (d := settingsAlone bytes) (p := .ofLocation []) (l := [settingsName]) Yaml.loadsOnly_standard rfl rfl
  refine ⟨(hiff _).1.2 ⟨_, hlist, .inr ⟨_, hload, Yaml.loadsOnly_standard _ _ hload, .inl rfl⟩⟩,
    (hiff _).2.2.2.1.2 hnone, ((hiff _).2.2.2.2.1 _).2 ⟨_, hdate, by decide, .inl ⟨load_dateText, rfl⟩⟩⟩

end PropertyQuote.Project
