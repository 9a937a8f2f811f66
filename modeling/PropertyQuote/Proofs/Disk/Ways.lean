import PropertyQuote.Proofs.Disk.Places
import PropertyQuote.Proofs.Text

/-!
# Ways on a disk

Where paths lead.  A path reaches a directory if every step on the way is one; then its children are found by
their places alone.  For the operations that follow a path it is said once what they do to the places of the
disk: saving a file makes the directories on the way and alters that file, taking it away alters nothing else.

* `Disk.Reaches`: a path leads to a directory.
* `Disk.AlteredIn`: only files of some names in a directory are altered.
* `look_of_save`, `alteredIn_save`, `remove_child`: what the operations do.
* `Disk.Straight`: a path leads to the place that it names if there is anything.
* `look_mono`: what a path leads to is found as long as it stays.
-/

namespace PropertyQuote

/-! ## Names and paths -/

/-- A name that a file in a directory can have. -/
def IsFileName (name : String) : Prop :=
  name ≠ "" ∧ name ≠ "." ∧ name ≠ ".." ∧ '/' ∉ name.toList

instance : DecidablePred IsFileName := fun _ => inferInstanceAs (Decidable (_ ∧ _))

namespace Path

variable {p : Path} {name : String} {l : Location}

/-- The name of a file is read as a path of one step. -/
lemma ofText_of_isFileName (h : IsFileName name) : ofText name = ⟨.here, [name]⟩ := by
  obtain ⟨hempty, hdot, -, hslash⟩ := h
  have hsplit : Text.splitOnChar '/' name = [name] := Text.splitOnChar_of_notMem hslash
  have hstart : (name.toList.takeWhile (· == '/')).length = 0 := by
    cases hlist : name.toList with
    | nil => rfl
    | cons c cs =>
      have hc : c ≠ '/' := by
        rintro rfl
        exact hslash (hlist ▸ List.mem_cons_self)
      rw [List.takeWhile_cons_of_neg (by simpa using hc)]
      rfl
  simp [ofText, hsplit, hstart, hempty, hdot]

/-- The child of that name is one step further. -/
lemma child_of_isFileName (h : IsFileName name) : p.child name = ⟨p.start, p.names ++ [name]⟩ := by
  simp [child, ofText_of_isFileName h, join]

/-- The parent of a child is the path itself. -/
lemma parent_child (h : IsFileName name) : (p.child name).parent = p := by
  simp [child_of_isFileName h, parent]

/-- From the root a path resolves to the place where its steps end. -/
lemma resolve_nil (p : Path) : p.resolve [] = p.names.foldl step [] := by
  simp [resolve]

/-- A step by any other name than two dots goes down. -/
lemma step_of_ne (h : name ≠ "..") : step l name = l ++ [name] := by
  simp [step, h]

/-- Without two dots among them, the steps lead to the place that they spell. -/
lemma foldl_step_of_notMem {names : List String} (h : ".." ∉ names) :
    names.foldl step l = l ++ names := by
  induction names generalizing l with
  | nil => exact (List.append_nil l).symm
  | cons name names ih =>
    rw [List.mem_cons, not_or] at h
    rw [List.foldl_cons, step_of_ne (Ne.symm h.1), ih h.2, List.append_assoc]
    rfl

/-- A child resolves to a place right below that of its path. -/
lemma resolve_child (h : IsFileName name) : (p.child name).resolve [] = p.resolve [] ++ [name] := by
  rw [resolve_nil, resolve_nil, child_of_isFileName h, List.foldl_append]
  exact step_of_ne h.2.2.1

/-- The place is on the way along the path, or at its end. -/
def Passes (p : Path) (l : Location) : Prop :=
  ∃ names, names <+: p.names ∧ l = names.foldl step []

/-- A path without steps back passes only what is above it. -/
lemma isPrefix_of_passes (hback : ".." ∉ p.names) (h : p.Passes l) : l <+: p.names := by
  obtain ⟨names, hnames, rfl⟩ := h
  rwa [foldl_step_of_notMem fun hmem => hback (hnames.subset hmem), List.nil_append]

end Path

namespace Disk

variable {d d' d'' : Disk} {p : Path} {name : String} {names : List String} {here l : Location}
  {c : Content} {bytes : List UInt8}

/-! ## Following a path -/

/-- From a directory one step is taken, unless its name is too long. -/
lemma locateFrom_cons_of_folder (h : d.content? here = some .folder) :
    d.locateFrom here (name :: names) =
      if longestName < name.utf8ByteSize then .error .tooLong
      else d.locateFrom (Path.step here name) names := by
  rw [locateFrom, h]

/-- A path is followed one part after the other. -/
lemma locateFrom_append (names rest : List String) :
    d.locateFrom here (names ++ rest) = (d.locateFrom here names).bind (d.locateFrom · rest) := by
  induction names generalizing here with
  | nil => rfl
  | cons name names ih =>
    rw [List.cons_append, locateFrom, locateFrom]
    split
    · split
      · rfl
      · exact ih
    · rfl
    · rfl

/-- A place that is reached is the one where the steps end. -/
lemma eq_foldl_of_locateFrom (h : d.locateFrom here names = .ok l) : l = names.foldl Path.step here := by
  induction names generalizing here with
  | nil =>
    cases h
    rfl
  | cons name names ih =>
    rw [locateFrom] at h
    split at h
    · split at h
      · cases h
      · exact ih h
    · cases h
    · cases h

/-- From the root, it is the place to which the path resolves. -/
lemma eq_resolve_of_locateFrom (h : d.locateFrom [] p.names = .ok l) : l = p.resolve [] := by
  rw [Path.resolve_nil]
  exact eq_foldl_of_locateFrom h

/-- A way stays open as long as directories stay. -/
lemma locateFrom_mono (hstays : ∀ l, d.content? l = some .folder → d'.content? l = some .folder)
    (h : d.locateFrom here names = .ok l) : d'.locateFrom here names = .ok l := by
  induction names generalizing here with
  | nil => exact h
  | cons name names ih =>
    rw [locateFrom] at h
    split at h
    case h_1 hfolder =>
      rw [locateFrom_cons_of_folder (hstays _ hfolder)]
      split at h
      case isTrue => cases h
      case isFalse hshort =>
        rw [if_neg hshort]
        exact ih h
    case h_2 => cases h
    case h_3 => cases h

/-- The last step of a path that can be followed starts in a directory. -/
lemma locateFrom_concat (h : d.locateFrom here (names ++ [name]) = .ok l) :
    ∃ l', d.locateFrom here names = .ok l' ∧ d.content? l' = some .folder ∧
      name.utf8ByteSize ≤ longestName ∧ l = Path.step l' name := by
  rw [locateFrom_append] at h
  cases hnames : d.locateFrom here names with
  | error cause =>
    rw [hnames] at h
    cases h
  | ok l' =>
    rw [hnames] at h
    change d.locateFrom l' [name] = .ok l at h
    rw [locateFrom] at h
    split at h
    case h_1 hfolder =>
      split at h
      case isTrue => cases h
      case isFalse hshort =>
        cases h
        exact ⟨l', rfl, hfolder, Nat.not_lt.1 hshort, rfl⟩
    case h_2 => cases h
    case h_3 => cases h

/-- The path leads to a directory. -/
def Reaches (d : Disk) (p : Path) : Prop :=
  d.locateFrom [] p.names = .ok (p.resolve []) ∧ d.content? (p.resolve []) = some .folder

/-- A path still leads to a directory as long as all directories stay. -/
lemma Reaches.mono (h : d.Reaches p)
    (hstays : ∀ l, d.content? l = some .folder → d'.content? l = some .folder) : d'.Reaches p :=
  ⟨locateFrom_mono hstays h.1, hstays _ h.2⟩

/-- Whether a path leads to a directory depends on the contents of places alone. -/
lemma Reaches.congr (h : d.Reaches p) (hsame : ∀ l, d'.content? l = d.content? l) : d'.Reaches p :=
  h.mono fun l hl => (hsame l).trans hl

/-- A path leads to a place if it is well-formed and all steps on the way can be taken. -/
lemma locate_eq_ok_iff :
    d.locate p = .ok l ↔
      p.hasNull = false ∧ p.text.utf8ByteSize ≤ longestPath ∧ d.locateFrom [] p.names = .ok l := by
  unfold locate
  split
  · next h => simp [h]
  · next h =>
    split
    · next hlong => simp [Nat.not_le.2 hlong]
    · next hshort => simp [h, Nat.not_lt.1 hshort]

/-- Looking along a path finds what is at the place to which it leads. -/
lemma look_eq_ok_iff : d.look p = .ok c ↔ ∃ l, d.locate p = .ok l ∧ d.content? l = some c := by
  unfold look
  split
  · next l h =>
    cases hc : d.content? l <;> simp [h, hc]
  · next cause h => simp [h]

/-- A path along which a directory is seen leads to one. -/
lemma reaches_of_look (h : d.look p = .ok .folder) : d.Reaches p := by
  obtain ⟨l, hl, hc⟩ := look_eq_ok_iff.1 h
  obtain ⟨-, -, hway⟩ := locate_eq_ok_iff.1 hl
  obtain rfl := eq_resolve_of_locateFrom hway
  exact ⟨hway, hc⟩

/-- No name on a way that can be followed is too long. -/
lemma short_of_locateFrom (h : d.locateFrom here names = .ok l) :
    ∀ name ∈ names, name.utf8ByteSize ≤ longestName := by
  induction names generalizing here with
  | nil => exact fun _ => nofun
  | cons name names ih =>
    rw [locateFrom] at h
    split at h
    case h_1 =>
      split at h
      case isTrue => cases h
      case isFalse hshort => exact List.forall_mem_cons.2 ⟨Nat.not_lt.1 hshort, ih h⟩
    case h_2 => cases h
    case h_3 => cases h

/-- Names of an allowed length never make a path too long on the way. -/
lemma locateFrom_ne_tooLong (h : ∀ name ∈ names, name.utf8ByteSize ≤ longestName) :
    d.locateFrom here names ≠ .error .tooLong := by
  induction names generalizing here with
  | nil => exact nofun
  | cons name names ih =>
    obtain ⟨hname, hnames⟩ := List.forall_mem_cons.1 h
    rw [locateFrom]
    split
    · rw [if_neg (Nat.not_lt.2 hname)]
      exact ih hnames
    · exact nofun
    · exact nofun

/-- If a path can be followed on some disk, then it is too long for none. -/
lemma look_ne_tooLong (h : d'.look p = .ok c) : d.look p ≠ .error .tooLong := by
  obtain ⟨l, hl, -⟩ := look_eq_ok_iff.1 h
  obtain ⟨hnull, hshort, hway⟩ := locate_eq_ok_iff.1 hl
  have hlocate : d.locate p = d.locateFrom [] p.names := by
    rw [locate, hnull, if_neg Bool.false_ne_true, if_neg (Nat.not_lt.2 hshort)]
  have hne : d.locateFrom [] p.names ≠ .error .tooLong := locateFrom_ne_tooLong (short_of_locateFrom hway)
  rw [look, hlocate]
  cases hcause : d.locateFrom [] p.names with
  | ok l => cases hcontent : d.content? l <;> simp [hcontent]
  | error cause =>
    rw [hcause] at hne
    simpa using hne

/-! ## Children of a directory -/

/-- A path to a child can be followed only if the directory is reached. -/
lemma locate_child_ok (hname : IsFileName name) (h : d.locate (p.child name) = .ok l) :
    d.Reaches p ∧ l = p.resolve [] ++ [name] := by
  obtain ⟨-, -, hway⟩ := locate_eq_ok_iff.1 h
  rw [Path.child_of_isFileName hname] at hway
  obtain ⟨l', hl', hfolder, -, rfl⟩ := locateFrom_concat hway
  obtain rfl := eq_resolve_of_locateFrom hl'
  exact ⟨⟨hl', hfolder⟩, Path.step_of_ne hname.2.2.1⟩

/-- What is seen as a child is right below the directory, and the path does lead to a directory. -/
lemma look_child_ok (hname : IsFileName name) (h : d.look (p.child name) = .ok c) :
    d.Reaches p ∧ d.content? (p.resolve [] ++ [name]) = some c := by
  obtain ⟨l, hl, hc⟩ := look_eq_ok_iff.1 h
  obtain ⟨hreach, rfl⟩ := locate_child_ok hname hl
  exact ⟨hreach, hc⟩

/-- Disks that reach a directory follow the paths to its children in the same way. -/
lemma locate_child_congr (hname : IsFileName name) (h : d.Reaches p) (h' : d'.Reaches p) :
    d'.locate (p.child name) = d.locate (p.child name) := by
  have hway {d : Disk} (h : d.Reaches p) : d.locateFrom [] (p.child name).names =
      if longestName < name.utf8ByteSize then .error .tooLong else .ok (p.resolve [] ++ [name]) := by
    rw [Path.child_of_isFileName hname, locateFrom_append, h.1]
    change d.locateFrom (p.resolve []) [name] = _
    rw [locateFrom_cons_of_folder h.2, locateFrom, Path.step_of_ne hname.2.2.1]
  rw [locate, locate, hway h, hway h']

/-- What a path to a child leads to depends on the place of the child alone. -/
lemma look_child_congr (hname : IsFileName name) (h : d.Reaches p) (h' : d'.Reaches p)
    (hc : d'.content? (p.resolve [] ++ [name]) = d.content? (p.resolve [] ++ [name])) :
    d'.look (p.child name) = d.look (p.child name) := by
  rw [look, look, locate_child_congr hname h h']
  cases hl : d.locate (p.child name) with
  | error => rfl
  | ok l =>
    obtain ⟨-, rfl⟩ := locate_child_ok hname hl
    dsimp only
    rw [hc]

/-- What is right below a directory is seen as its child, unless the path is ill-formed, which no disk decides. -/
lemma look_child_of_locate (hname : IsFileName name) (hl : d.locate (p.child name) = .ok l)
    (h' : d'.Reaches p) (hc : d'.content? (p.resolve [] ++ [name]) = some c) :
    d'.look (p.child name) = .ok c := by
  obtain ⟨hreach, rfl⟩ := locate_child_ok hname hl
  rw [look_eq_ok_iff]
  exact ⟨_, (locate_child_congr hname hreach h').trans hl, hc⟩

/-- Whether something exists is answered yes if it is seen, and no if looking fails for any cause but the length. -/
lemma has_eq_ok_iff {b : Bool} :
    d.has p = .ok b ↔ (b = true ∧ ∃ c, d.look p = .ok c) ∨
      (b = false ∧ ∃ cause, cause ≠ .tooLong ∧ d.look p = .error cause) := by
  unfold has leadsTo
  cases d.look p with
  | ok c => simp [eq_comm]
  | error cause => cases cause <;> simp [eq_comm]

/-- What is missing is not found, if its path can be followed on some disk. -/
lemma has_of_missing (hname : IsFileName name) (hlook : d.look (p.child name) = .ok c)
    (hreach : d'.Reaches p) (hnone : d'.content? (p.resolve [] ++ [name]) = none) :
    d'.has (p.child name) = .ok false := by
  obtain ⟨l, hl, -⟩ := look_eq_ok_iff.1 hlook
  obtain ⟨hreachd, rfl⟩ := locate_child_ok hname hl
  have hl' : d'.locate (p.child name) = .ok (p.resolve [] ++ [name]) :=
    (locate_child_congr hname hreachd hreach).trans hl
  refine has_eq_ok_iff.2 (.inr ⟨rfl, .notFound, by simp, ?_⟩)
  rw [look, hl']
  dsimp only
  rw [hnone]
  rfl

/-! ## Making directories -/

/-- A directory that could be made was not there before, and is all that is new. -/
lemma makeFolder_ok (h : d.makeFolder p = .ok d') :
    d.locate p = .ok (p.resolve []) ∧ d.content? (p.resolve []) = none ∧
      d' = d.put (p.resolve []) .folder := by
  unfold makeFolder at h
  split at h
  case h_1 l hl =>
    obtain ⟨-, -, hway⟩ := locate_eq_ok_iff.1 hl
    obtain rfl := eq_resolve_of_locateFrom hway
    split at h
    case isTrue => cases h
    case isFalse hnone =>
      cases h
      exact ⟨hl, by simpa using hnone, rfl⟩
  case h_2 => cases h

/-- A directory is there already, or it is made in one that is there. -/
lemma ensureFolder_ok (hd : d.Sound) (h : d.ensureFolder p = .ok d') :
    d.Altered (fun _ => False) (· = p.resolve []) d' ∧ d'.Reaches p := by
  unfold ensureFolder at h
  split at h
  case h_1 made hmade =>
    cases h
    obtain ⟨hl, hnone, rfl⟩ := makeFolder_ok hmade
    obtain ⟨-, -, hway⟩ := locate_eq_ok_iff.1 hl
    have hne : p.resolve [] ≠ [] := by
      intro heq
      rw [heq] at hnone
      cases hnone
    -- the step before the last one ends in the directory that holds the new one
    have hparent : d.content? (p.resolve []).dropLast = some .folder := by
      obtain ⟨start, names⟩ := p
      induction names using List.reverseRecOn with
      | nil =>
        rw [Path.resolve_nil] at hne
        exact absurd rfl hne
      | append_singleton names name _ =>
        obtain ⟨l, -, hfolder, -, hplace⟩ := locateFrom_concat hway
        rw [hplace] at hnone ⊢
        by_cases hname : name = ".."
        · -- one step back there is a directory already
          rw [Path.step, if_pos (by simpa using hname)] at hnone
          by_cases hl : l = []
          · rw [hl] at hnone
            cases hnone
          · rw [hd.parent hl (by simp [hfolder])] at hnone
            cases hnone
        · rw [Path.step_of_ne hname, List.dropLast_concat]
          exact hfolder
    have halt : d.Altered (fun _ => False) (· = p.resolve []) (d.put (p.resolve []) .folder) :=
      .makeFolder .refl rfl hnone hparent
    refine ⟨halt, ?_⟩
    exact ⟨locateFrom_mono (fun _ => halt.folder_stays hd) hway, content?_put_self hne⟩
  case h_2 => cases h
  case h_3 =>
    split at h
    case isTrue hlook =>
      cases h
      refine ⟨.refl, reaches_of_look ?_⟩
      cases hd : d.look p <;> simp_all [Except.toOption]
    case isFalse => cases h

/-- A path passes all places that its beginnings pass. -/
lemma passes_of_isPrefix {p q : Path} (h : q.names <+: p.names) (hl : q.Passes l) : p.Passes l := by
  obtain ⟨names, hnames, rfl⟩ := hl
  exact ⟨names, hnames.trans h, rfl⟩

/-- A path passes the place at its end. -/
lemma passes_resolve (p : Path) : p.Passes (p.resolve []) :=
  ⟨p.names, List.prefix_rfl, p.resolve_nil⟩

/-- Making the directories on the way alters no file and leads to the last of them. -/
lemma ensureFoldersFrom_ok {start : Path.Start} (hd : d.Sound)
    (h : d.ensureFoldersFrom start names = .ok d') :
    d.Altered (fun _ => False) (Path.Passes ⟨start, names.reverse⟩) d' ∧
      d'.Reaches ⟨start, names.reverse⟩ := by
  induction names generalizing d' with
  | nil =>
    cases h
    rw [List.reverse_nil, Reaches, Path.resolve_nil]
    exact ⟨.refl, rfl, rfl⟩
  | cons name above ih =>
    have hlast (l : Location) (hl : l = (Path.mk start (name :: above).reverse).resolve []) :
        (Path.mk start (name :: above).reverse).Passes l := hl ▸ passes_resolve _
    rw [ensureFoldersFrom] at h
    split at h
    case h_1 made hmade =>
      cases h
      obtain ⟨halt, hreach⟩ := ensureFolder_ok hd hmade
      exact ⟨halt.mono (fun _ => id) hlast, hreach⟩
    case h_2 =>
      split at h
      case h_1 made hmade =>
        obtain ⟨halt, -⟩ := ih hmade
        split at h
        case h_1 made' hmade' =>
          cases h
          obtain ⟨halt', hreach⟩ := ensureFolder_ok (halt.sound hd) hmade'
          have habove : above.reverse <+: (name :: above).reverse := by
            rw [List.reverse_cons]
            exact List.prefix_append _ _
          refine ⟨?_, hreach⟩
          exact (halt.mono (fun _ => id) fun _ => passes_of_isPrefix habove).trans
            (halt'.mono (fun _ => id) hlast)
        case h_2 => cases h
      case h_2 => cases h
    case h_3 => cases h

/-- A directory can only be ensured at a place that the path leads to. -/
lemma locate_of_ensureFolder (h : d.ensureFolder p = .ok d') : ∃ l, d.locate p = .ok l := by
  unfold ensureFolder at h
  split at h
  case h_1 made hmade => exact ⟨_, (makeFolder_ok hmade).1⟩
  case h_2 => cases h
  case h_3 =>
    split at h
    case isTrue hlook =>
      cases hl : d.locate p with
      | ok l => exact ⟨l, rfl⟩
      | error cause => simp [look, hl, Except.toOption] at hlook
    case isFalse => cases h

/-- A directory that is reached is there already, if its path can be followed at all. -/
lemma Reaches.ensureFolder (h : d'.Reaches p) (hl : d.locate p = .ok l) : d'.ensureFolder p = .ok d' := by
  obtain ⟨hnull, hshort, -⟩ := locate_eq_ok_iff.1 hl
  have hl' : d'.locate p = .ok (p.resolve []) := locate_eq_ok_iff.2 ⟨hnull, hshort, h.1⟩
  simp [Disk.ensureFolder, makeFolder, look, hl', h.2, Except.toOption]

/-- Where the way to a directory can be made, nothing has to be made once the directory is reached. -/
lemma ensureFolders_again {made : Disk} (h : d.ensureFolders p = .ok made) (hreach : d'.Reaches p) :
    d'.ensureFolders p = .ok d' := by
  obtain ⟨start, names⟩ := p
  unfold ensureFolders at h ⊢
  induction names using List.reverseRecOn with
  | nil => rfl
  | append_singleton names name _ =>
    rw [List.reverse_concat, ensureFoldersFrom, ← List.reverse_concat, List.reverse_reverse] at h ⊢
    -- some disk on the way could follow the whole path
    have hfollowed : ∃ disk l, Disk.locate disk ⟨start, names ++ [name]⟩ = .ok l := by
      split at h
      case h_1 hmade => exact ⟨d, locate_of_ensureFolder hmade⟩
      case h_2 =>
        split at h
        case h_1 above _ =>
          split at h
          case h_1 hmade => exact ⟨above, locate_of_ensureFolder hmade⟩
          case h_2 => cases h
        case h_2 => cases h
      case h_3 => cases h
    obtain ⟨disk, l, hl⟩ := hfollowed
    rw [hreach.ensureFolder hl]

/-- Nothing is made on the way to a directory that is reached. -/
lemma ensureFolders_of_reaches (hreach : d.Reaches p) (h : d.ensureFolders p = .ok d') : d' = d :=
  Except.ok.inj (h.symm.trans (ensureFolders_again h hreach))

/-- What making directories does: if the last one is reached already, nothing. -/
lemma ensureFolders_ok (hd : d.Sound) (h : d.ensureFolders p = .ok d') :
    d.Altered (fun _ => False) (fun l => p.Passes l ∧ ¬ d.Reaches p) d' ∧ d'.Reaches p := by
  by_cases hreach : d.Reaches p
  · obtain rfl := ensureFolders_of_reaches hreach h
    exact ⟨.refl, hreach⟩
  · obtain ⟨halt, hreach'⟩ := ensureFoldersFrom_ok hd h
    rw [List.reverse_reverse] at halt hreach'
    exact ⟨halt.mono (fun _ => id) fun _ hl => ⟨hl, hreach⟩, hreach'⟩

/-! ## Altering the files of a directory -/

/-- Only files of the given names in a directory are altered.  The directories on the way to it are made if it
is not reached. -/
def AlteredIn (p : Path) (names : String → Prop) (d d' : Disk) : Prop :=
  d.Altered (fun l => ∃ name, names name ∧ l = p.resolve [] ++ [name])
    (fun l => p.Passes l ∧ ¬ d.Reaches p) d'

namespace AlteredIn

variable {only only' : String → Prop}

/-- A disk is altered in nothing if it stays. -/
lemma refl : AlteredIn p only d d := Altered.refl

/-- The directory is still there when files in it are altered. -/
lemma reaches (h : AlteredIn p only d d') (hd : d.Sound) (hreach : d.Reaches p) : d'.Reaches p :=
  hreach.mono fun _ => h.folder_stays hd

/-- More names may be allowed. -/
lemma mono (h : AlteredIn p only d d') (hmono : ∀ name, only name → only' name) :
    AlteredIn p only' d d' := by
  refine Altered.mono h ?_ fun _ => id
  rintro l ⟨name, hname, rfl⟩
  exact ⟨name, hmono name hname, rfl⟩

/-- Two alterations are one. -/
lemma trans (h : AlteredIn p only d d') (hd : d.Sound) (h' : AlteredIn p only d' d'') :
    AlteredIn p only d d'' := by
  refine Altered.trans h (Altered.mono h' (fun _ => id) ?_)
  rintro l ⟨hpass, hnot⟩
  exact ⟨hpass, fun hreach => hnot (h.reaches hd hreach)⟩

/-- All other places stay as they were, if the directory is reached. -/
lemma content?_elsewhere (h : AlteredIn p only d d') (hd : d.Sound) (hreach : d.Reaches p)
    (hl : ∀ name, only name → l ≠ p.resolve [] ++ [name]) : d'.content? l = d.content? l := by
  refine Altered.content?_eq h hd ?_ ?_
  · rintro ⟨name, hname, heq⟩
    exact hl name hname heq
  · exact fun hmade => hmade.2 hreach

/-- Other places of the directory stay as they were. -/
lemma content?_child (h : AlteredIn p only d d') (hd : d.Sound) (hreach : d.Reaches p)
    (hnot : ¬ only name) :
    d'.content? (p.resolve [] ++ [name]) = d.content? (p.resolve [] ++ [name]) := by
  apply h.content?_elsewhere hd hreach
  intro name' hname' heq
  obtain rfl : name = name' := by simpa using heq
  exact hnot hname'

/-- A child of another name is seen as before. -/
lemma look_child (h : AlteredIn p only d d') (hd : d.Sound) (hreach : d.Reaches p)
    (hname : IsFileName name) (hnot : ¬ only name) : d'.look (p.child name) = d.look (p.child name) :=
  look_child_congr hname hreach (h.reaches hd hreach) (h.content?_child hd hreach hnot)

/-- Files elsewhere stay as they were. -/
lemma file?_eq (h : AlteredIn p only d d') (hd : d.Sound)
    (hl : ∀ name, only name → l ≠ p.resolve [] ++ [name]) : d'.file? l = d.file? l := by
  refine Altered.file?_eq h hd ?_
  rintro ⟨name, hname, heq⟩
  exact hl name hname heq

end AlteredIn

/-! ## Writing and erasing files -/

/-- What can be written as a child is a file or nothing before, right below an existing directory, and it is all that
is altered. -/
lemma write_child (hname : IsFileName name) (h : d.write (p.child name) bytes = .ok d') :
    d.locate (p.child name) = .ok (p.resolve [] ++ [name]) ∧ d.Reaches p ∧
      d.content? (p.resolve [] ++ [name]) ≠ some .folder ∧
      d' = d.put (p.resolve [] ++ [name]) (.file bytes) := by
  unfold write at h
  split at h
  case h_1 l hl =>
    obtain ⟨hreach, rfl⟩ := locate_child_ok hname hl
    split at h
    case isTrue => cases h
    case isFalse hne =>
      cases h
      exact ⟨hl, hreach, by simpa using hne, rfl⟩
  case h_2 => cases h

/-- A file that is written in a directory is there. -/
lemma look_of_write (hname : IsFileName name) (h : d.write (p.child name) bytes = .ok d') :
    d'.Reaches p ∧ d'.look (p.child name) = .ok (.file bytes) := by
  obtain ⟨hl, hreach, hne, rfl⟩ := write_child hname h
  have hreach' : (d.put (p.resolve [] ++ [name]) (.file bytes)).Reaches p := by
    refine hreach.mono fun place hplace => ?_
    rw [content?_put_of_ne, hplace]
    rintro rfl
    exact hne hplace
  exact ⟨hreach', look_child_of_locate hname hl hreach' (content?_put_self (by simp))⟩

/-- To save a file is to make the directories on the way and to write it. -/
lemma save_child_ok (hname : IsFileName name) (h : d.save (p.child name) bytes = .ok d') :
    ∃ made, d.ensureFolders p = .ok made ∧ made.write (p.child name) bytes = .ok d' := by
  rw [save, Path.parent_child hname] at h
  cases hmade : d.ensureFolders p with
  | error =>
    rw [hmade] at h
    cases h
  | ok made =>
    rw [hmade] at h
    exact ⟨made, rfl, h⟩

/-- A file that is saved in a directory is there. -/
lemma look_of_save (hname : IsFileName name) (h : d.save (p.child name) bytes = .ok d') :
    d'.Reaches p ∧ d'.look (p.child name) = .ok (.file bytes) := by
  obtain ⟨made, -, hwrite⟩ := save_child_ok hname h
  exact look_of_write hname hwrite

/-- A saved file is at its place. -/
lemma content?_of_save (hname : IsFileName name) (h : d.save (p.child name) bytes = .ok d') :
    d'.content? (p.resolve [] ++ [name]) = some (.file bytes) :=
  (look_child_ok hname (look_of_save hname h).2).2

/-- Where a file can be saved, it can be saved again once the directory is reached. -/
lemma save_again {bytes' : List UInt8} (hname : IsFileName name)
    (h : d.save (p.child name) bytes = .ok d'') (hreach : d'.Reaches p)
    (hne : d'.content? (p.resolve [] ++ [name]) ≠ some .folder) :
    d'.save (p.child name) bytes' = .ok (d'.put (p.resolve [] ++ [name]) (.file bytes')) := by
  obtain ⟨made, hmade, hwrite⟩ := save_child_ok hname h
  obtain ⟨hl, hreach', -, -⟩ := write_child hname hwrite
  have hl' : d'.locate (p.child name) = .ok (p.resolve [] ++ [name]) := by
    rw [locate_child_congr hname hreach' hreach, hl]
  have hsave : d'.save (p.child name) bytes' = d'.write (p.child name) bytes' := by
    rw [save, Path.parent_child hname, ensureFolders_again hmade hreach]
    rfl
  rw [hsave, write, hl']
  exact if_neg (by simpa using hne)

/-- No file is saved in the place of a directory. -/
lemma ne_folder_of_save (hname : IsFileName name) (h : d.save (p.child name) bytes = .ok d')
    (hreach : d.Reaches p) : d.content? (p.resolve [] ++ [name]) ≠ some .folder := by
  obtain ⟨made, hmade, hwrite⟩ := save_child_ok hname h
  obtain rfl := ensureFolders_of_reaches hreach hmade
  exact (write_child hname hwrite).2.2.1

/-- Saving a file in a directory alters nothing else. -/
lemma alteredIn_save (hd : d.Sound) (hname : IsFileName name)
    (h : d.save (p.child name) bytes = .ok d') : AlteredIn p (· = name) d d' := by
  obtain ⟨made, hmade, hwrite⟩ := save_child_ok hname h
  obtain ⟨halt, -⟩ := ensureFolders_ok hd hmade
  obtain ⟨-, hreach, hne, rfl⟩ := write_child hname hwrite
  refine .writeFile bytes (halt.mono (fun _ => False.elim) fun _ => id) ⟨name, rfl, rfl⟩ hne ?_
  rw [List.dropLast_concat]
  exact hreach.2

/-- What taking a file away from a directory does. -/
lemma remove_child (hname : IsFileName name) (h : d.remove (p.child name) = .ok d') :
    AlteredIn p (· = name) d d' ∧ d'.content? (p.resolve [] ++ [name]) = none := by
  unfold remove at h
  split at h
  case h_1 l b hl hlook =>
    cases h
    obtain ⟨-, rfl⟩ := locate_child_ok hname hl
    obtain ⟨-, hfile⟩ := look_child_ok hname hlook
    exact ⟨.eraseFile .refl ⟨name, rfl, rfl⟩ hfile,
      content?_erase_of_isPrefix (by simp) List.prefix_rfl⟩
  all_goals cases h

/-- Only files are taken away. -/
lemma look_of_remove (h : d.remove p = .ok d') : ∃ bytes, d.look p = .ok (.file bytes) := by
  unfold remove at h
  split at h
  case h_1 hlook => exact ⟨_, hlook⟩
  all_goals cases h

/-- A file that is seen can be removed. -/
lemma remove_of_look (h : d.look p = .ok (.file bytes)) : ∃ d', d.remove p = .ok d' := by
  obtain ⟨l, hl, -⟩ := look_eq_ok_iff.1 h
  refine ⟨d.erase l, ?_⟩
  unfold remove
  rw [hl, h]

/-! ## Straight paths -/

/-- The path leads to the place that it names if there is anything. -/
def Straight (d : Disk) (p : Path) : Prop :=
  d.content? (p.resolve []) ≠ none → d.locateFrom [] p.names = .ok (p.resolve [])

/-- Only a step back can make a path miss something that is there. -/
lemma straight_of_notMem (hd : d.Sound) (hback : ".." ∉ p.names)
    (hshort : ∀ name ∈ p.names, name.utf8ByteSize ≤ longestName) : d.Straight p := by
  intro hc
  rw [Path.resolve_nil, Path.foldl_step_of_notMem hback, List.nil_append] at hc ⊢
  -- the places on the way are the beginnings of the path, and all of them are directories
  have hway (names rest : List String) (h : names ++ rest = p.names) :
      d.locateFrom [] names = .ok names := by
    induction names using List.reverseRecOn generalizing rest with
    | nil => rfl
    | append_singleton names name ih =>
      rw [List.append_assoc] at h
      have hmem : name ∈ p.names := h ▸ List.mem_append_right names List.mem_cons_self
      have hfolder : d.content? names = some .folder := by
        refine hd.folder_of_isPrefix ⟨[name] ++ rest, h⟩ ?_ hc
        intro heq
        simp [heq] at h
      rw [locateFrom_append, ih _ h]
      change d.locateFrom names [name] = _
      rw [locateFrom_cons_of_folder hfolder, if_neg (Nat.not_lt.2 (hshort name hmem)), locateFrom,
        Path.step_of_ne]
      rintro rfl
      exact hback hmem
  exact hway p.names [] (List.append_nil _)

/-- Without steps back, nothing lies in a directory that is not reached. -/
lemma content?_child_of_not_reaches (hd : d.Sound) (hnot : ¬ d.Reaches p) (hback : ".." ∉ p.names)
    (hshort : ∀ name ∈ p.names, name.utf8ByteSize ≤ longestName) :
    d.content? (p.resolve [] ++ [name]) = none := by
  by_contra hc
  have hfolder : d.content? (p.resolve []) = some .folder := hd _ name hc
  apply hnot
  refine ⟨straight_of_notMem hd hback hshort ?_, hfolder⟩
  rw [hfolder]
  exact Option.some_ne_none _

/-- A place that a path names is made of names of the path, without steps back. -/
lemma foldl_step_subset (hhere : ".." ∉ here) :
    (∀ name ∈ names.foldl Path.step here, name ∈ here ∨ name ∈ names) ∧
      ".." ∉ names.foldl Path.step here := by
  induction names generalizing here with
  | nil => exact ⟨fun _ => .inl, hhere⟩
  | cons name names ih =>
    rw [List.foldl_cons]
    by_cases hback : name = ".."
    · have hstep : Path.step here name = here.dropLast := by
        rw [Path.step, if_pos (by simpa using hback)]
      rw [hstep]
      obtain ⟨hmem, hnot⟩ := ih fun h => hhere (List.dropLast_subset here h)
      refine ⟨?_, hnot⟩
      intro other hother
      rcases hmem other hother with h | h
      · exact .inl (List.dropLast_subset here h)
      · exact .inr (List.mem_cons_of_mem _ h)
    · rw [Path.step_of_ne hback]
      have hhere' : ".." ∉ here ++ [name] := by simp [hhere, Ne.symm hback]
      obtain ⟨hmem, hnot⟩ := ih hhere'
      refine ⟨?_, hnot⟩
      intro other hother
      rcases hmem other hother with h | h
      · rcases List.mem_append.1 h with h | h
        · exact .inl h
        · exact .inr (List.mem_singleton.1 h ▸ List.mem_cons_self)
      · exact .inr (List.mem_cons_of_mem _ h)

/-- A directory that is reached is also reached by the path to its place. -/
lemma Reaches.ofLocation (hd : d.Sound) (h : d.Reaches p) :
    (Path.ofLocation (p.resolve [])).resolve [] = p.resolve [] ∧
      d.Reaches (Path.ofLocation (p.resolve [])) := by
  obtain ⟨hmem, hback⟩ : (∀ name ∈ p.names.foldl Path.step [], name ∈ [] ∨ name ∈ p.names) ∧
      ".." ∉ p.names.foldl Path.step [] := foldl_step_subset List.not_mem_nil
  rw [← Path.resolve_nil] at hmem hback
  have hresolve : (Path.ofLocation (p.resolve [])).resolve [] = p.resolve [] := by
    rw [Path.resolve_nil]
    exact Path.foldl_step_of_notMem hback
  refine ⟨hresolve, ?_⟩
  have hfolder : d.content? ((Path.ofLocation (p.resolve [])).resolve []) = some .folder := by
    rw [hresolve]
    exact h.2
  refine ⟨straight_of_notMem hd hback ?_ (by simp [hfolder]), hfolder⟩
  intro name hname
  exact short_of_locateFrom h.1 name ((hmem name hname).resolve_left List.not_mem_nil)

/-- What a path leads to is found as long as it stays, and directories stay. -/
lemma look_mono (hstays : ∀ l, d.content? l = some .folder → d'.content? l = some .folder)
    (hc : d.content? (p.resolve []) = some c → d'.content? (p.resolve []) = some c)
    (h : d.look p = .ok c) : d'.look p = .ok c := by
  obtain ⟨l, hl, hcontent⟩ := look_eq_ok_iff.1 h
  obtain ⟨hnull, hshort, hway⟩ := locate_eq_ok_iff.1 hl
  obtain rfl := eq_resolve_of_locateFrom hway
  refine look_eq_ok_iff.2 ⟨_, ?_, hc hcontent⟩
  exact locate_eq_ok_iff.2 ⟨hnull, hshort, locateFrom_mono hstays hway⟩

end Disk

end PropertyQuote
