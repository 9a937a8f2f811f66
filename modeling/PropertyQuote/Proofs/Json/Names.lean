import PropertyQuote.Proofs.Json

/-!
# Names in objects that are read

Of two fields of one name the last one counts, so no name stands twice in an object that is read.  The machine
keeps this for everything that is open and for everything that it has put in its place.

* `Machine.Tidy.step`: one token.
* `Machine.Tidy.run`: a text.
* `tidy_read`: the value of a text.
-/

namespace PropertyQuote.Json

/-- No name stands twice in an object. -/
inductive Tidy : Json → Prop where
  | null : Tidy .null
  | bool (b : Bool) : Tidy (.bool b)
  | int (n : Int) : Tidy (.int n)
  | float (x : Float) : Tidy (.float x)
  | str (s : String) : Tidy (.str s)
  | arr {items : List Json} : (∀ v ∈ items, Tidy v) → Tidy (.arr items)
  | obj {fields : List (String × Json)} :
    (fields.map Prod.fst).Nodup →
    (∀ f ∈ fields, Tidy f.2) →
    Tidy (.obj fields)

/-- The same for what is not closed yet. -/
def Frame.Tidy : Frame → Prop
  | .array items => ∀ v ∈ items, v.Tidy
  | .object fields _ => (fields.map Prod.fst).Nodup ∧ ∀ f ∈ fields, f.2.Tidy

/-- The same for all that a machine holds. -/
structure Machine.Tidy (m : Machine) : Prop where
  stack : ∀ frame ∈ m.stack, frame.Tidy
  result : m.result.Tidy

variable {m m' : Machine} {v : Json} {name : String} {fields : List (String × Json)}

/-! ## Setting a field -/

/-- A field is an old one, or it has the new value. -/
lemma mem_setField {f : String × Json} (h : f ∈ setField name v fields) : f ∈ fields ∨ f.2 = v := by
  induction fields with
  | nil =>
    rw [setField, List.mem_singleton] at h
    exact .inr (congrArg Prod.snd h)
  | cons g fields ih =>
    obtain ⟨n, w⟩ := g
    rw [setField] at h
    split at h
    · rcases List.mem_cons.1 h with rfl | h
      · exact .inr rfl
      · exact .inl (List.mem_cons_of_mem _ h)
    · rcases List.mem_cons.1 h with rfl | h
      · exact .inl List.mem_cons_self
      · exact (ih h).imp_left (List.mem_cons_of_mem _)

/-- A name that is there already keeps its place. -/
lemma map_fst_setField_of_mem (h : name ∈ fields.map Prod.fst) :
    (setField name v fields).map Prod.fst = fields.map Prod.fst := by
  induction fields with
  | nil => cases h
  | cons g fields ih =>
    obtain ⟨n, w⟩ := g
    rw [setField]
    split
    · rfl
    · next hne =>
      have htail : name ∈ fields.map Prod.fst := by
        rcases List.mem_cons.1 h with rfl | h
        · simp at hne
        · exact h
      rw [List.map_cons, ih htail, List.map_cons]

/-- Setting a field keeps the names distinct. -/
lemma nodup_setField (h : (fields.map Prod.fst).Nodup) :
    ((setField name v fields).map Prod.fst).Nodup := by
  by_cases hmem : name ∈ fields.map Prod.fst
  · rwa [map_fst_setField_of_mem hmem]
  · rw [setField_of_notMem hmem, List.map_append, List.map_singleton, List.nodup_append]
    refine ⟨h, List.pairwise_singleton _ _, ?_⟩
    rintro a ha b hb rfl
    obtain rfl := List.mem_singleton.1 hb
    exact hmem ha

/-! ## Words -/

/-- A number has no fields. -/
lemma tidy_magnitude {negative : Bool} {s : List Char} (h : magnitude negative s = .ok v) : v.Tidy := by
  have hreal {whole rest : List Char} (h : orInvalid (real? negative whole rest) = .ok v) : v.Tidy := by
    unfold real? at h
    dsimp only at h
    repeat' split at h
    all_goals first
      | cases h
        exact .float _
      | cases h
  have hint {whole : List Char} (h : orInvalid ((natural? whole).map fun n =>
      Json.int (if negative then -(n : Int) else n)) = .ok v) : v.Tidy := by
    cases hn : natural? whole with
    | none =>
      rw [hn] at h
      cases h
    | some n =>
      rw [hn] at h
      cases h
      exact .int _
  unfold magnitude at h
  dsimp only at h
  split at h
  · cases h
  · split at h
    · exact hreal h
    · split at h
      · cases h
      · split at h
        · cases h
        · exact hint h

/-- Nor has a word. -/
lemma tidy_word {s : List Char} (h : word s = .ok v) : v.Tidy := by
  unfold word at h
  split at h
  case h_1 => cases h; exact .null
  case h_2 => cases h; exact .bool _
  case h_3 => cases h; exact .bool _
  case h_4 => cases h; exact .float _
  case h_5 => cases h; exact .float _
  case h_6 => cases h; exact .float _
  case h_7 =>
    split at h
    · exact tidy_magnitude h
    · exact tidy_magnitude h

/-! ## The machine -/

/-- A tidy value may be placed where the reader is. -/
lemma Machine.Tidy.place (h : m.Tidy) (hv : v.Tidy) : (m.place v).Tidy := by
  obtain ⟨stack, expect, result⟩ := m
  obtain ⟨hstack, hresult⟩ := h
  cases stack with
  | nil => exact ⟨fun _ => nofun, hv⟩
  | cons frame below =>
    obtain ⟨hframe, hbelow⟩ := List.forall_mem_cons.1 hstack
    cases frame with
    | array items =>
      refine ⟨List.forall_mem_cons.2 ⟨?_, hbelow⟩, hresult⟩
      exact List.forall_mem_cons.2 ⟨hv, hframe⟩
    | object fields name =>
      refine ⟨List.forall_mem_cons.2 ⟨⟨nodup_setField hframe.1, ?_⟩, hbelow⟩, hresult⟩
      intro f hf
      rcases mem_setField hf with hf | hf
      · exact hframe.2 f hf
      · exact hf ▸ hv

/-- The end of an array keeps what was read tidy. -/
lemma Machine.Tidy.closeArray? (h : m.Tidy) (hm : m.closeArray? = some m') : m'.Tidy := by
  obtain ⟨stack, expect, result⟩ := m
  unfold Machine.closeArray? at hm
  split at hm
  case h_1 items below heq =>
    cases hm
    dsimp only at heq
    subst heq
    obtain ⟨hframe, hbelow⟩ := List.forall_mem_cons.1 h.stack
    have hopen : Machine.Tidy ⟨below, expect, result⟩ := ⟨hbelow, h.result⟩
    refine hopen.place (.arr fun v hv => ?_)
    exact hframe v (List.mem_reverse.1 hv)
  case h_2 => cases hm

/-- So does the end of an object. -/
lemma Machine.Tidy.closeObject? (h : m.Tidy) (hm : m.closeObject? = some m') : m'.Tidy := by
  obtain ⟨stack, expect, result⟩ := m
  unfold Machine.closeObject? at hm
  split at hm
  case h_1 fields name below heq =>
    cases hm
    dsimp only at heq
    subst heq
    obtain ⟨hframe, hbelow⟩ := List.forall_mem_cons.1 h.stack
    have hopen : Machine.Tidy ⟨below, expect, result⟩ := ⟨hbelow, h.result⟩
    exact hopen.place (.obj hframe.1 hframe.2)
  case h_2 => cases hm

/-- So does a name of a field. -/
lemma Machine.Tidy.name? {t : Token} (h : m.Tidy) (hm : m.name? t = some m') : m'.Tidy := by
  unfold Machine.name? at hm
  split at hm
  case h_1 s =>
    split at hm
    case h_1 fields name below heq =>
      cases hm
      have hstack := h.stack
      rw [heq] at hstack
      obtain ⟨hframe, hbelow⟩ := List.forall_mem_cons.1 hstack
      exact ⟨List.forall_mem_cons.2 ⟨hframe, hbelow⟩, h.result⟩
    case h_2 => cases hm
  case h_2 => cases hm

/-- So does the start of an array or an object. -/
lemma Machine.Tidy.deepen {isArray : Bool} (h : m.Tidy) (hm : m.deepen isArray = .ok m') : m'.Tidy := by
  unfold Machine.deepen at hm
  split at hm
  · cases hm
  · split at hm
    · cases hm
      exact ⟨List.forall_mem_cons.2 ⟨fun _ => nofun, h.stack⟩, h.result⟩
    · cases hm
      exact ⟨List.forall_mem_cons.2 ⟨⟨List.nodup_nil, fun _ => nofun⟩, h.stack⟩, h.result⟩

/-- So does the start of a value. -/
lemma Machine.Tidy.startValue {t : Token} (h : m.Tidy) (hm : m.startValue t = .ok m') : m'.Tidy := by
  unfold Machine.startValue at hm
  split at hm
  case h_1 => exact h.deepen hm
  case h_2 => exact h.deepen hm
  case h_3 => cases hm
  case h_4 s =>
    cases hm
    exact h.place (.str s)
  case h_5 s =>
    cases hw : word s with
    | error =>
      rw [hw] at hm
      cases hm
    | ok v =>
      rw [hw] at hm
      cases hm
      exact h.place (tidy_word hw)

/-- Something that is not invalid was found. -/
lemma eq_of_orInvalid {α : Type} {found : Option α} {a : α} (h : orInvalid found = .ok a) :
    found = some a := by
  cases found with
  | none => cases h
  | some b =>
    cases h
    rfl

/-- Every token keeps names apart. -/
lemma Machine.Tidy.step {t : Token} (h : m.Tidy) (hm : m.step t = .ok m') : m'.Tidy := by
  have hexpect {expect : Expect} : Machine.Tidy { m with expect } := ⟨h.stack, h.result⟩
  unfold Machine.step at hm
  split at hm
  case h_1 => exact h.startValue hm
  case h_2 => exact h.closeArray? (eq_of_orInvalid hm)
  case h_3 => exact h.startValue hm
  case h_4 => exact h.name? (eq_of_orInvalid hm)
  case h_5 => exact h.closeObject? (eq_of_orInvalid hm)
  case h_6 => exact h.name? (eq_of_orInvalid hm)
  case h_7 =>
    cases hm
    exact hexpect
  case h_8 =>
    have hcomma := eq_of_orInvalid hm
    unfold Machine.afterComma? at hcomma
    split at hcomma
    · cases hcomma
      exact hexpect
    · cases hcomma
      exact hexpect
    · cases hcomma
  case h_9 => exact h.closeArray? (eq_of_orInvalid hm)
  case h_10 => exact h.closeObject? (eq_of_orInvalid hm)
  case h_11 => cases hm

/-- What comes after a token keeps names apart if it does so for every machine. -/
lemma tidy_of_bind {t : Token} {next : Machine → Except Fault Machine} (h : m.Tidy)
    (hnext : ∀ {m₁ : Machine}, m₁.Tidy → next m₁ = .ok m' → m'.Tidy)
    (hm : (m.step t).bind next = .ok m') : m'.Tidy := by
  cases hstep : m.step t with
  | error =>
    rw [hstep] at hm
    cases hm
  | ok m₁ =>
    rw [hstep] at hm
    exact hnext (h.step hstep) hm

/-- Every text keeps names apart. -/
lemma Machine.Tidy.run {mode : Mode} {s : List Char} (h : m.Tidy) (hm : m.run mode s = .ok m') :
    m'.Tidy := by
  induction s generalizing m mode with
  | nil =>
    cases mode with
    | between =>
      cases hm
      exact h
    | word acc => exact h.step hm
    | string acc => cases hm
    | escape acc => cases hm
    | number acc value left => cases hm
  | cons c rest ih =>
    cases mode with
    | between =>
      rw [run_between] at hm
      split at hm
      · exact ih h hm
      · split at hm
        · exact tidy_of_bind h ih hm
        · exact ih h hm
    | word acc =>
      by_cases hend : (isGap c || isPunctuation c || c == '"') = true
      · rw [run_pastWord m rest hend] at hm
        refine tidy_of_bind h (fun {m₁} h₁ hm => ?_) hm
        split at hm
        · exact tidy_of_bind h₁ ih hm
        · exact ih h₁ hm
      · rw [run_inWord m rest hend] at hm
        exact ih h hm
    | string acc =>
      rw [run_inString] at hm
      split at hm
      · exact tidy_of_bind h ih hm
      · split at hm
        · exact ih h hm
        · split at hm
          · cases hm
          · exact ih h hm
    | escape acc =>
      rw [run_inEscape] at hm
      split at hm
      · exact ih h hm
      · split at hm
        · exact ih h hm
        · cases hm
    | number acc value left =>
      cases hdigit : Text.hexValue? c with
      | none =>
        rw [Machine.run, hdigit] at hm
        cases hm
      | some digit =>
        rw [run_inNumber m rest hdigit] at hm
        exact ih h hm

/-- No name stands twice in an object of a value that is read. -/
lemma tidy_read {s : List Char} (h : read s = .ok v) : v.Tidy := by
  unfold read at h
  split at h
  case h_1 => cases h
  case h_2 m hm =>
    have hstart : Machine.Tidy {} := ⟨fun _ => nofun, .null⟩
    split at h
    · cases h
      exact (hstart.run hm).result
    · cases h

end PropertyQuote.Json
