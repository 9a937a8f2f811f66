import PropertyQuote.Json.Reader
import PropertyQuote.Json.Writer
import PropertyQuote.Proofs.Text

/-!
# Written JSON reads back

The reader gives back every value without numbers that is written, in either style, if no name stands twice
in an object and not too much is nested.  So written texts are told apart by their values.

* `run_between`, `run_inString` and the lemmas after them: what the machine does with one character.
* `run_string`: strings read back.
* `readsBack`: a value reads back, whatever follows it.
* `read_chars`: a text reads back.
* `render_injective`: different values have different texts.
-/

namespace PropertyQuote.Json

/-! ## Strings -/

/-- The numbers that are read for a character: those of its halves if it is written in two. -/
def units (ascii : Bool) (c : Char) : List Nat :=
  if ascii && 0x10000 ≤ c.toNat then
    [0xd800 + (c.toNat - 0x10000) / 0x400, 0xdc00 + (c.toNat - 0x10000) % 0x400]
  else [c.toNat]

/-- A number that is not the first half of a character stands for itself. -/
lemma joinHalves_cons {n : Nat} (h : Text.isLeading n = false) (ns : List Nat) :
    Text.joinHalves (n :: ns) = Text.charOf n :: Text.joinHalves ns := by
  cases ns with
  | nil => rfl
  | cons m ns => rw [Text.joinHalves, h, Bool.false_and, if_neg Bool.false_ne_true]

/-- The number of a character is no half of one. -/
lemma charOf_toNat (c : Char) : Text.isLeading c.toNat = false ∧ Text.charOf c.toNat = c := by
  have hvalid : c.toNat < 0xd800 ∨ 0xdfff < c.toNat := by
    rcases c.valid with h | h
    · exact .inl h
    · exact .inr h.1
  have hleading : Text.isLeading c.toNat = false := by
    simp only [Text.isLeading, Bool.and_eq_false_iff, decide_eq_false_iff_not]
    omega
  have htrailing : Text.isTrailing c.toNat = false := by
    simp only [Text.isTrailing, Bool.and_eq_false_iff, decide_eq_false_iff_not]
    omega
  refine ⟨hleading, ?_⟩
  rw [Text.charOf, hleading, htrailing]
  exact Char.ofNat_toNat c

/-- The halves of the characters of a text are joined to the text. -/
lemma joinHalves_units (ascii : Bool) (s : List Char) :
    Text.joinHalves (s.flatMap (units ascii)) = s := by
  induction s with
  | nil => rfl
  | cons c s ih =>
    rw [List.flatMap_cons, units]
    split
    case isTrue h =>
      -- two halves, which are joined to the character again
      simp only [Bool.and_eq_true, decide_eq_true_eq] at h
      have hbound := Text.toNat_lt c
      have hhalves : (Text.isLeading (0xd800 + (c.toNat - 0x10000) / 0x400) &&
          Text.isTrailing (0xdc00 + (c.toNat - 0x10000) % 0x400)) = true := by
        simp only [Text.isLeading, Text.isTrailing, Bool.and_eq_true, decide_eq_true_eq]
        omega
      have hjoined : 0x10000 + (0xd800 + (c.toNat - 0x10000) / 0x400 - 0xd800) * 0x400 +
          (0xdc00 + (c.toNat - 0x10000) % 0x400 - 0xdc00) = c.toNat := by omega
      rw [List.cons_append, List.singleton_append, Text.joinHalves, if_pos hhalves, hjoined, ih,
        Char.ofNat_toNat]
    case isFalse =>
      obtain ⟨hleading, hchar⟩ := charOf_toNat c
      rw [List.singleton_append, joinHalves_cons hleading, hchar, ih]

/-- Punctuation is no blank. -/
lemma isGap_of_isPunctuation {c : Char} (h : isPunctuation c = true) : isGap c = false := by
  simp only [isPunctuation, Bool.or_eq_true, beq_iff_eq] at h
  rcases h with ((((rfl | rfl) | rfl) | rfl) | rfl) | rfl <;> rfl

section Machine
variable (m : Machine) (rest : List Char)

/-- A run goes on after a token that fits. -/
lemma match_eq_bind (stepped : Except Fault Machine) (mode : Mode) :
    (match stepped with
      | .ok m => m.run mode rest
      | .error fault => .error fault) = stepped.bind (·.run mode rest) := by
  cases stepped <;> rfl

/-- The first character between two tokens. -/
lemma run_between (c : Char) :
    m.run .between (c :: rest) =
      if isGap c then m.run .between rest
      else if isPunctuation c then (m.step (.punctuation c)).bind (·.run .between rest)
      else m.run (if c == '"' then .string [] else .word [c]) rest := by
  rw [← match_eq_bind]
  rfl

/-- The next character of a string. -/
lemma run_inString (c : Char) (acc : List Nat) :
    m.run (.string acc) (c :: rest) =
      if c == '"' then
        (m.step (.string (String.ofList (Text.joinHalves acc.reverse)))).bind (·.run .between rest)
      else if c == '\\' then m.run (.escape acc) rest
      else if c.toNat < 0x20 then .error .invalid
      else m.run (.string (c.toNat :: acc)) rest := by
  rw [← match_eq_bind]
  rfl

/-- The character after a backslash. -/
lemma run_inEscape (c : Char) (acc : List Nat) :
    m.run (.escape acc) (c :: rest) =
      if c == 'u' then m.run (.number acc 0 4) rest
      else
        match unescape? c with
        | some n => m.run (.string (n :: acc)) rest
        | none => .error .invalid :=
  rfl

/-- A digit of a numbered character. -/
lemma run_inNumber {c : Char} {digit : Nat} (h : Text.hexValue? c = some digit) (acc : List Nat)
    (value left : Nat) :
    m.run (.number acc value left) (c :: rest) =
      m.run (if left ≤ 1 then .string ((value * 16 + digit) :: acc)
        else .number acc (value * 16 + digit) (left - 1)) rest := by
  rw [Machine.run, h]

/-- The next character of a word that goes on. -/
lemma run_inWord {c : Char} (h : ¬ (isGap c || isPunctuation c || c == '"') = true)
    (acc : List Char) : m.run (.word acc) (c :: rest) = m.run (.word (c :: acc)) rest :=
  if_neg h

/-- The first character after a word. -/
lemma run_pastWord {c : Char} (h : (isGap c || isPunctuation c || c == '"') = true)
    (acc : List Char) :
    m.run (.word acc) (c :: rest) = (m.step (.word acc.reverse)).bind fun m =>
      if isPunctuation c then (m.step (.punctuation c)).bind (·.run .between rest)
      else m.run (if c == '"' then .string [] else .between) rest := by
  refine (if_pos h).trans ?_
  cases m.step (.word acc.reverse) with
  | error => rfl
  | ok m' => exact if_congr Iff.rfl (match_eq_bind rest (m'.step (.punctuation c)) .between) rfl

/-- A numbered character is read as its number. -/
lemma run_numbered {n : Nat} (h : n < 0x10000) (acc : List Nat) :
    m.run (.string acc) ('\\' :: 'u' :: Text.hex 4 n ++ rest) = m.run (.string (n :: acc)) rest := by
  have hdigit (k : Nat) : Text.hexValue? (Text.hexDigit (k % 16)) = some (k % 16) :=
    Text.hexValue?_hexDigit (Nat.mod_lt _ (by omega))
  have hvalue : ((n / 4096 % 16 * 16 + n / 256 % 16) * 16 + n / 16 % 16) * 16 + n % 16 = n := by omega
  rw [Text.hex_four]
  simp [run_inString, run_inEscape, run_inNumber, hdigit, hvalue]

/-- A letter after a backslash is read as what it stands for. -/
lemma run_letter {letter : Char} {n : Nat} (hu : letter ≠ 'u') (h : unescape? letter = some n)
    (acc : List Nat) :
    m.run (.string acc) ('\\' :: letter :: rest) = m.run (.string (n :: acc)) rest := by
  simp [run_inString, run_inEscape, hu, h]

/-- A character that is written as it is. -/
lemma run_plain {c : Char} (hquote : c ≠ '"') (hback : c ≠ '\\') (hc : 0x20 ≤ c.toNat)
    (acc : List Nat) : m.run (.string acc) (c :: rest) = m.run (.string (c.toNat :: acc)) rest := by
  simp [run_inString, hquote, hback, Nat.not_lt.2 hc]

/-- A character below U+10000 is read as one number. -/
lemma units_of_lt (ascii : Bool) {c : Char} (h : c.toNat < 0x10000) : units ascii c = [c.toNat] := by
  simp [units, Nat.not_le.2 h]

/-- A written character is read as its numbers. -/
lemma run_escape (ascii : Bool) (c : Char) (acc : List Nat) :
    m.run (.string acc) (escape ascii c ++ rest) =
      m.run (.string ((units ascii c).reverse ++ acc)) rest := by
  unfold escape
  split
  case h_8 hquote hback _ _ _ _ _ =>
    split
    case isTrue hnumbered =>
      unfold numbered
      split
      case isTrue hlow =>
        rw [units_of_lt ascii hlow]
        exact run_numbered m rest hlow acc
      case isFalse hhigh =>
        simp only [Bool.or_eq_true, decide_eq_true_eq, Bool.and_eq_true] at hnumbered
        have hascii : ascii = true := (hnumbered.resolve_left (by omega)).1
        have hbound := Text.toNat_lt c
        rw [units, if_pos (by simp [hascii, Nat.not_lt.1 hhigh]), List.append_assoc,
          run_numbered m _ (by omega), run_numbered m _ (by omega)]
        rfl
    case isFalse hplain =>
      simp only [Bool.or_eq_true, decide_eq_true_eq, Bool.and_eq_true, not_or, not_and,
        Nat.not_lt] at hplain
      have hunits : units ascii c = [c.toNat] := by
        cases ascii with
        | false => simp [units]
        | true => exact units_of_lt true (Nat.lt_of_le_of_lt (hplain.2 rfl) (by omega))
      rw [hunits]
      exact run_plain m rest hquote hback hplain.1 acc
  all_goals
    rw [units_of_lt ascii (by decide)]
    exact run_letter m rest (by decide) rfl acc

/-- The characters of a string are read as their numbers, and the quote after them ends the string. -/
lemma run_string (ascii : Bool) (s : List Char) (acc : List Nat) :
    m.run (.string acc) (s.flatMap (escape ascii) ++ '"' :: rest) =
      (m.step (.string (String.ofList
        (Text.joinHalves (acc.reverse ++ s.flatMap (units ascii)))))).bind (·.run .between rest) := by
  induction s generalizing acc with
  | nil =>
    rw [List.flatMap_nil, List.flatMap_nil, List.append_nil, List.nil_append, run_inString]
    rfl
  | cons c s ih =>
    rw [List.flatMap_cons, List.append_assoc, run_escape, ih, List.flatMap_cons, List.reverse_append,
      List.reverse_reverse, List.append_assoc]

/-- A string in quotes is one token. -/
lemma run_quoted (ascii : Bool) (s : String) :
    m.run .between (quoted ascii s ++ rest) = (m.step (.string s)).bind (·.run .between rest) := by
  have hstart : m.run .between (quoted ascii s ++ rest) =
      m.run (.string []) (s.toList.flatMap (escape ascii) ++ '"' :: rest) := by
    rw [quoted, List.cons_append, List.cons_append, List.append_assoc, List.singleton_append]
    rfl
  rw [hstart, run_string, List.reverse_nil, List.nil_append, joinHalves_units, String.ofList_toList]

/-! ## Words and punctuation -/

/-- Blanks between tokens do not count. -/
lemma run_gaps {gaps : List Char} (h : ∀ c ∈ gaps, isGap c = true) :
    m.run .between (gaps ++ rest) = m.run .between rest := by
  induction gaps with
  | nil => rfl
  | cons c gaps ih =>
    obtain ⟨hc, hgaps⟩ := List.forall_mem_cons.1 h
    rw [List.cons_append, run_between, if_pos hc, ih hgaps]

/-- A character that is a token by itself. -/
lemma run_punctuation {c : Char} (h : isPunctuation c = true) :
    m.run .between (c :: rest) = (m.step (.punctuation c)).bind (·.run .between rest) := by
  rw [run_between, if_neg (by simp [isGap_of_isPunctuation h]), if_pos h]

/-- What can follow a word: nothing, a blank, or punctuation. -/
def Delimited (rest : List Char) : Prop :=
  ∀ c ∈ rest.head?, isGap c = true ∨ isPunctuation c = true

/-- Whether a character can stand in a word. -/
def isWordPart (c : Char) : Bool :=
  !isGap c && !isPunctuation c && c != '"'

/-- What follows a word ends it. -/
lemma run_afterWord (hrest : Delimited rest) (acc : List Char) :
    m.run (.word acc) rest = (m.step (.word acc.reverse)).bind (·.run .between rest) := by
  cases rest with
  | nil => exact (bind_pure (m.step (.word acc.reverse))).symm
  | cons c rest =>
    have hend : (isGap c || isPunctuation c || c == '"') = true := by
      rcases hrest c rfl with h | h <;> simp [h]
    rw [run_pastWord m rest hend]
    refine congrArg (Except.bind _) (funext fun m' => ?_)
    cases hp : isPunctuation c with
    | true => rw [if_pos rfl, run_punctuation m' rest hp]
    | false =>
      have hgap : isGap c = true := (hrest c rfl).resolve_right (by simp [hp])
      have hquote : (c == '"') = false := by
        rw [beq_eq_false_iff_ne]
        rintro rfl
        cases hgap
      rw [run_between, if_pos hgap, hquote]
      rfl

/-- The rest of a word, up to what follows it. -/
lemma run_wordEnd {w : List Char} (hw : ∀ c ∈ w, isWordPart c = true) (hrest : Delimited rest)
    (acc : List Char) :
    m.run (.word acc) (w ++ rest) =
      (m.step (.word (acc.reverse ++ w))).bind (·.run .between rest) := by
  induction w generalizing acc with
  | nil => rw [List.nil_append, List.append_nil, run_afterWord m rest hrest]
  | cons c w ih =>
    obtain ⟨hc, hw⟩ := List.forall_mem_cons.1 hw
    have hinside : ¬ (isGap c || isPunctuation c || c == '"') = true := by
      simpa [isWordPart, and_assoc] using hc
    rw [List.cons_append, run_inWord _ _ hinside, ih hw, List.reverse_cons, List.append_assoc]
    rfl

/-- A word is one token. -/
lemma run_word {w : List Char} (hne : w ≠ []) (hw : ∀ c ∈ w, isWordPart c = true)
    (hrest : Delimited rest) :
    m.run .between (w ++ rest) = (m.step (.word w)).bind (·.run .between rest) := by
  cases w with
  | nil => exact absurd rfl hne
  | cons c w =>
    obtain ⟨hc, hw⟩ := List.forall_mem_cons.1 hw
    simp only [isWordPart, Bool.and_eq_true, Bool.not_eq_true', bne_iff_ne] at hc
    obtain ⟨⟨hgap, hpunctuation⟩, hquote⟩ := hc
    have hstart : m.run .between (c :: (w ++ rest)) = m.run (.word [c]) (w ++ rest) := by
      simp [run_between, hgap, hpunctuation, hquote]
    rw [List.cons_append, hstart, run_wordEnd m rest hw hrest]
    rfl

end Machine

/-! ## Values -/

/-- The values without numbers that read back if `k` more arrays and objects may be opened: no name stands
twice in an object. -/
inductive Readable : Nat → Json → Prop
  | null {k : Nat} : Readable k .null
  | bool {k : Nat} (b : Bool) : Readable k (.bool b)
  | str {k : Nat} (s : String) : Readable k (.str s)
  | arr {k : Nat} {items : List Json} : (∀ v ∈ items, Readable k v) → Readable (k + 1) (.arr items)
  | obj {k : Nat} {fields : List (String × Json)} : (fields.map Prod.fst).Nodup →
      (∀ f ∈ fields, Readable k f.2) → Readable (k + 1) (.obj fields)

/-- The machine waits for a value. -/
def Machine.Awaits (m : Machine) : Prop :=
  m.expect = .value ∨ m.expect = .valueOrEnd

/-- A value reads back, whatever follows it: the machine that waits for it puts it in its place. -/
def ReadsBack (k : Nat) (v : Json) : Prop :=
  ∀ (style : Style) (depth : Nat) (m : Machine) (rest : List Char), m.Awaits →
    m.stack.length + k ≤ mostOpen → Delimited rest →
    m.run .between (chars style depth v ++ rest) = (m.place v).run .between rest

/-- The machine that waits for a value starts one with every token but the end of an array. -/
lemma step_of_awaits {m : Machine} (h : m.Awaits) {t : Token} (ht : t ≠ .punctuation ']') :
    m.step t = m.startValue t := by
  rcases h with h | h
  · simp only [Machine.step, h]
  · simp only [Machine.step, h]

/-- A word in the place of a value is read as the value that it names. -/
lemma run_word_value {m : Machine} {rest w : List Char} {v : Json} (hm : m.Awaits)
    (hrest : Delimited rest) (hne : w ≠ []) (hw : ∀ c ∈ w, isWordPart c = true)
    (hv : word w = .ok v) :
    m.run .between (w ++ rest) = (m.place v).run .between rest := by
  rw [run_word m rest hne hw hrest, step_of_awaits hm (by simp), Machine.startValue, hv]
  rfl

/-- The blanks in front of an item. -/
lemma run_lead (style : Style) (depth : Nat) (m : Machine) (rest : List Char) :
    m.run .between (style.lead depth ++ rest) = m.run .between rest := by
  refine run_gaps m rest ?_
  unfold Style.lead
  split
  · simp [isGap]
  · simp

/-- What stands between two items is a comma and perhaps a blank. -/
lemma comma_eq (style : Style) : ∃ gaps, style.comma = ',' :: gaps ∧ ∀ c ∈ gaps, isGap c = true := by
  unfold Style.comma
  split
  · exact ⟨[], rfl, by simp⟩
  · exact ⟨[' '], rfl, by simp [isGap]⟩

/-- The machine goes on after what stands between two items. -/
lemma run_comma (style : Style) {m m' : Machine} (rest : List Char) (hm : m.expect = .commaOrEnd)
    (hm' : m.afterComma? = some m') :
    m.run .between (style.comma ++ rest) = m'.run .between rest := by
  obtain ⟨gaps, hcomma, hgaps⟩ := comma_eq style
  have hstep : m.step (.punctuation ',') = .ok m' := by
    simp [Machine.step, hm, hm', orInvalid]
  rw [hcomma, List.cons_append, run_punctuation m _ rfl, hstep]
  exact run_gaps m' rest hgaps

/-- What stands between two items ends the first. -/
lemma delimited_comma (style : Style) (rest : List Char) : Delimited (style.comma ++ rest) := by
  obtain ⟨gaps, hcomma, -⟩ := comma_eq style
  rw [hcomma]
  rintro c ⟨⟩
  exact .inr rfl

/-- Written items of an array read back. -/
lemma run_items (style : Style) (depth : Nat) {k : Nat} {items : List Json}
    (hitems : ∀ v ∈ items, ReadsBack k v) (hne : items ≠ []) {acc : List Json} {below : List Frame}
    {expect : Expect} {result : Json} {rest : List Char}
    (hm : (⟨.array acc :: below, expect, result⟩ : Machine).Awaits)
    (hdepth : below.length + 1 + k ≤ mostOpen) (hrest : Delimited rest) :
    (⟨.array acc :: below, expect, result⟩ : Machine).run .between
        (style.comma.intercalate (items.map fun v => style.lead depth ++ chars style depth v) ++ rest) =
      (⟨.array (items.reverse ++ acc) :: below, .commaOrEnd, result⟩ : Machine).run .between rest := by
  induction items generalizing acc expect with
  | nil => exact absurd rfl hne
  | cons v items ih =>
    obtain ⟨hv, hitems⟩ := List.forall_mem_cons.1 hitems
    cases items with
    | nil =>
      rw [List.map_singleton, List.intercalate_singleton, List.append_assoc, run_lead,
        hv style depth _ rest hm hdepth hrest]
      rfl
    | cons w items =>
      rw [List.map_cons, List.intercalate_cons_of_ne_nil (by simp), List.append_assoc,
        List.append_assoc, List.append_assoc, run_lead,
        hv style depth _ _ hm hdepth (delimited_comma style _), run_comma style _ rfl rfl]
      refine (ih hitems (List.cons_ne_nil _ _) (.inl rfl)).trans ?_
      rw [List.reverse_cons (a := v), List.append_assoc]
      rfl

/-- A new name is set behind the others. -/
lemma setField_of_notMem {name : String} {fields : List (String × Json)}
    (h : name ∉ fields.map Prod.fst) (v : Json) : setField name v fields = fields ++ [(name, v)] := by
  induction fields with
  | nil => rfl
  | cons f fields ih =>
    rw [List.map_cons, List.mem_cons, not_or] at h
    obtain ⟨n, w⟩ := f
    rw [setField, if_neg fun hn => h.1 (beq_iff_eq.1 hn).symm, ih h.2]
    rfl

/-- The text of a field. -/
def fieldText (style : Style) (depth : Nat) (f : String × Json) : List Char :=
  style.lead depth ++ (quoted style.ascii f.1 ++ ':' :: ' ' :: chars style depth f.2)

/-- The machine waits for the name of a field. -/
def Machine.AwaitsName (m : Machine) : Prop :=
  m.expect = .name ∨ m.expect = .nameOrEnd

/-- A written field reads back. -/
lemma run_field (style : Style) (depth : Nat) {k : Nat} {name pending : String} {v : Json}
    (hv : ReadsBack k v) {fields : List (String × Json)} {below : List Frame} {expect : Expect}
    {result : Json} {rest : List Char} (hname : name ∉ fields.map Prod.fst)
    (hm : (⟨.object fields pending :: below, expect, result⟩ : Machine).AwaitsName)
    (hdepth : below.length + 1 + k ≤ mostOpen) (hrest : Delimited rest) :
    (⟨.object fields pending :: below, expect, result⟩ : Machine).run .between
        (fieldText style depth (name, v) ++ rest) =
      (⟨.object (fields ++ [(name, v)]) name :: below, .commaOrEnd, result⟩ : Machine).run
        .between rest := by
  have hstep : (⟨.object fields pending :: below, expect, result⟩ : Machine).step (.string name) =
      .ok ⟨.object fields name :: below, .colon, result⟩ := by
    rcases hm with hm | hm <;> simp only at hm <;> subst hm <;> rfl
  have hcolon : (⟨.object fields name :: below, .colon, result⟩ : Machine).run .between
      (':' :: ' ' :: (chars style depth v ++ rest)) =
      (⟨.object fields name :: below, .value, result⟩ : Machine).run .between
        (chars style depth v ++ rest) := rfl
  rw [fieldText, List.append_assoc, run_lead, List.append_assoc, run_quoted, hstep]
  refine hcolon.trans ?_
  rw [hv style depth ⟨.object fields name :: below, .value, result⟩ rest (.inl rfl) hdepth hrest,
    Machine.place]
  dsimp only
  rw [setField_of_notMem hname]

/-- Written fields of an object read back. -/
lemma run_fields (style : Style) (depth : Nat) {k : Nat} {fields : List (String × Json)}
    (hfields : ∀ f ∈ fields, ReadsBack k f.2) (hne : fields ≠ []) {acc : List (String × Json)}
    (hnames : ((acc ++ fields).map Prod.fst).Nodup) {below : List Frame} {expect : Expect}
    {pending : String} {result : Json} {rest : List Char}
    (hm : (⟨.object acc pending :: below, expect, result⟩ : Machine).AwaitsName)
    (hdepth : below.length + 1 + k ≤ mostOpen) (hrest : Delimited rest) :
    ∃ name, (⟨.object acc pending :: below, expect, result⟩ : Machine).run .between
        (style.comma.intercalate (fields.map (fieldText style depth)) ++ rest) =
      (⟨.object (acc ++ fields) name :: below, .commaOrEnd, result⟩ : Machine).run .between rest := by
  induction fields generalizing acc expect pending with
  | nil => exact absurd rfl hne
  | cons f fields ih =>
    obtain ⟨name, v⟩ := f
    obtain ⟨hv, hfields⟩ := List.forall_mem_cons.1 hfields
    -- a name that stood there already would be set in its old place
    have hfresh : name ∉ acc.map Prod.fst := by
      intro hmem
      rw [List.map_append, List.nodup_append] at hnames
      exact hnames.2.2 name hmem name List.mem_cons_self rfl
    cases fields with
    | nil =>
      refine ⟨name, ?_⟩
      rw [List.map_singleton, List.intercalate_singleton,
        run_field style depth hv hfresh hm hdepth hrest]
    | cons g fields =>
      rw [← List.singleton_append, ← List.append_assoc] at hnames
      have hnext : (⟨.object (acc ++ [(name, v)]) name :: below, .name, result⟩ : Machine).AwaitsName :=
        .inl rfl
      obtain ⟨last, hlast⟩ := ih hfields (List.cons_ne_nil _ _) hnames hnext
      refine ⟨last, ?_⟩
      rw [List.map_cons, List.intercalate_cons_of_ne_nil (by simp), List.append_assoc,
        List.append_assoc, run_field style depth hv hfresh hm hdepth (delimited_comma style _),
        run_comma style _ rfl rfl]
      refine hlast.trans ?_
      rw [List.append_assoc]
      rfl

/-- The items of a list are written one by one. -/
lemma itemChars_eq (style : Style) (depth : Nat) (items : List Json) :
    itemChars style depth items = items.map (chars style depth) := by
  induction items with
  | nil => rw [itemChars, List.map_nil]
  | cons v items ih => rw [itemChars, ih, List.map_cons]

/-- The fields of an object are written one by one. -/
lemma fieldChars_eq (style : Style) (depth : Nat) (fields : List (String × Json)) :
    fieldChars style depth fields =
      fields.map fun f => quoted style.ascii f.1 ++ ':' :: ' ' :: chars style depth f.2 := by
  induction fields with
  | nil => rw [fieldChars, List.map_nil]
  | cons f fields ih => rw [fieldChars, ih, List.map_cons]

/-- Opening an array or an object. -/
lemma run_opening {m : Machine} (hm : m.Awaits) (hdepth : m.stack.length < mostOpen)
    (rest : List Char) :
    m.run .between ('[' :: rest) =
        (⟨.array [] :: m.stack, .valueOrEnd, m.result⟩ : Machine).run .between rest ∧
      m.run .between ('\x7b' :: rest) =
        (⟨.object [] "" :: m.stack, .nameOrEnd, m.result⟩ : Machine).run .between rest := by
  have hopen : ¬ mostOpen ≤ m.stack.length := Nat.not_le.2 hdepth
  constructor
  · rw [run_punctuation m rest rfl, step_of_awaits hm (by simp)]
    simp [Machine.startValue, Machine.deepen, hopen, Except.bind]
  · rw [run_punctuation m rest rfl, step_of_awaits hm (by simp)]
    simp [Machine.startValue, Machine.deepen, hopen, Except.bind]

/-- A value is put in the place where the machine stands, whatever it waited for. -/
lemma place_congr {m m' : Machine} (hstack : m.stack = m'.stack) (hresult : m.result = m'.result)
    (v : Json) : m.place v = m'.place v := by
  rw [Machine.place, Machine.place, hstack, hresult]

/-- Closing an array puts it in its place. -/
lemma run_closeArray (m : Machine) {expect : Expect} (rest : List Char) (items : List Json)
    (h : expect = .valueOrEnd ∨ expect = .commaOrEnd) :
    (⟨.array items :: m.stack, expect, m.result⟩ : Machine).run .between (']' :: rest) =
      (m.place (.arr items.reverse)).run .between rest := by
  rw [run_punctuation _ rest rfl]
  rcases h with rfl | rfl <;> exact congrArg (Machine.run · _ rest) (place_congr rfl rfl _)

/-- Closing an object puts it in its place. -/
lemma run_closeObject (m : Machine) {expect : Expect} (rest : List Char)
    (fields : List (String × Json)) (name : String)
    (h : expect = .nameOrEnd ∨ expect = .commaOrEnd) :
    (⟨.object fields name :: m.stack, expect, m.result⟩ : Machine).run .between ('\x7d' :: rest) =
      (m.place (.obj fields)).run .between rest := by
  rw [run_punctuation _ rest rfl]
  rcases h with rfl | rfl <;> exact congrArg (Machine.run · _ rest) (place_congr rfl rfl _)

/-- The end of an array or an object ends its last item. -/
lemma delimited_lead (style : Style) (depth : Nat) {c : Char} (hc : isPunctuation c = true)
    (rest : List Char) : Delimited (style.lead depth ++ c :: rest) := by
  unfold Style.lead
  split
  · rintro d ⟨⟩
    exact .inl rfl
  · rintro d ⟨⟩
    exact .inr hc

/-- The text of an array or an object that is not empty, and what follows it. -/
lemma enclose_append (style : Style) (depth : Nat) (opening closing : Char) {items : List (List Char)}
    (h : items ≠ []) (rest : List Char) :
    style.enclose depth opening closing items ++ rest =
      opening :: (style.comma.intercalate (items.map (style.lead (depth + 1) ++ ·)) ++
        (style.lead depth ++ closing :: rest)) := by
  simp [Style.enclose, h]

/-- An object reads back if the values of its fields do and no name stands twice. -/
lemma ReadsBack.obj {k : Nat} {fields : List (String × Json)} (hnames : (fields.map Prod.fst).Nodup)
    (hfields : ∀ f ∈ fields, ReadsBack k f.2) : ReadsBack (k + 1) (.obj fields) := by
  intro style depth m rest hm hdepth hrest
  rw [chars, fieldChars_eq]
  by_cases hne : fields = []
  · subst hne
    exact (run_opening hm (by omega) _).2.trans (run_closeObject m rest [] "" (.inl rfl))
  · rw [enclose_append style depth _ _ (by simpa using hne), (run_opening hm (by omega) _).2,
      List.map_map]
    have hfirst : (⟨.object [] "" :: m.stack, .nameOrEnd, m.result⟩ : Machine).AwaitsName := .inr rfl
    have hend := delimited_lead style depth (c := '\x7d') rfl rest
    obtain ⟨name, hrun⟩ := run_fields style (depth + 1) hfields hne (by simpa using hnames) hfirst
      (by omega) hend
    refine hrun.trans ?_
    rw [run_lead, List.nil_append, run_closeObject m rest _ name (.inr rfl)]

/-- A value that reads back does so whatever follows it. -/
lemma readsBack {k : Nat} {v : Json} (h : Readable k v) : ReadsBack k v := by
  induction h with
  | null =>
    intro style depth m rest hm _ hrest
    rw [chars]
    exact run_word_value hm hrest (by decide) (List.all_eq_true.1 (by decide)) rfl
  | bool b =>
    intro style depth m rest hm _ hrest
    rw [chars]
    cases b <;> exact run_word_value hm hrest (by decide) (List.all_eq_true.1 (by decide)) rfl
  | str s =>
    intro style depth m rest hm _ _
    rw [chars, run_quoted, step_of_awaits hm (by simp)]
    rfl
  | @arr k items _ ih =>
    intro style depth m rest hm hdepth hrest
    rw [chars, itemChars_eq]
    by_cases hne : items = []
    · subst hne
      exact (run_opening hm (by omega) _).1.trans (run_closeArray m rest [] (.inl rfl))
    · rw [enclose_append style depth _ _ (by simpa using hne), (run_opening hm (by omega) _).1,
        List.map_map]
      refine (run_items style (depth + 1) ih hne (.inr rfl) (by omega)
        (delimited_lead style depth rfl rest)).trans ?_
      rw [run_lead, List.append_nil, run_closeArray m rest _ (.inr rfl), List.reverse_reverse]
  | obj hnames _ ih => exact .obj hnames ih

/-! ## Texts -/

/-- A value that reads back whatever follows it does so alone. -/
lemma ReadsBack.read {v : Json} (h : ReadsBack mostOpen v) (style : Style) :
    read (chars style 0 v) = .ok v := by
  have hrun := h style 0 {} [] (.inl rfl) (by simp) (by simp [Delimited])
  rw [List.append_nil] at hrun
  rw [Json.read, hrun]
  rfl

/-- A written value reads back, in either style. -/
lemma read_chars (style : Style) {v : Json} (h : Readable mostOpen v) :
    read (chars style 0 v) = .ok v :=
  (readsBack h).read style

/-- Different values have different texts. -/
lemma render_injective (style : Style) {v w : Json} (hv : Readable mostOpen v)
    (hw : Readable mostOpen w) (h : render style v = render style w) : v = w := by
  have hchars := congrArg String.toList h
  rw [render, render, String.toList_ofList, String.toList_ofList] at hchars
  have hread := read_chars style hv
  rw [hchars, read_chars style hw] at hread
  exact (Except.ok.inj hread).symm

end PropertyQuote.Json
