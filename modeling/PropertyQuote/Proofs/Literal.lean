import PropertyQuote.Literal
import PropertyQuote.Proofs.Text

/-!
# Reading string literals

A reader of regular string literals, and what it reads of a written one: exactly the code points that it was
written for, and the text behind it.  So a literal ends where it was meant to end, whatever it holds, and
it stands on one line.  The reader takes code points, because the text behind a literal may hold surrogates.

* `lex?_quoteCodePoints_append`: a literal reads back, with any text behind it.
* `quote_append_inj`: two literals with texts behind them are equal only if both parts are.
* `endsLine_of_mem_quote`: no character of a literal ends a line.
-/

namespace PropertyQuote.Literal

/-! ## The reader -/

/-- The characters that end a line of source text. -/
def isNewline (c : Char) : Bool :=
  c == '\r' || c == '\n' || c == '\u0085' || c == '\u2028' || c == '\u2029'

/-- The code point of a number. -/
def CodePoint.ofNumber (n : Nat) : CodePoint :=
  ⟨n % 0x110000, Nat.mod_lt n (by decide)⟩

/-- The character with a code point.  A surrogate has none; the null character stands for it. -/
def CodePoint.char (p : CodePoint) : Char :=
  Char.ofNat p.val

/-- The code point that a letter after a backslash stands for. -/
def unescape? (letter : Char) : Option CodePoint :=
  match letter with
  | '"' => some (.ofChar '"')
  | '\\' => some (.ofChar '\\')
  | '0' => some (.ofChar '\x00')
  | 'a' => some (.ofChar '\x07')
  | 'b' => some (.ofChar '\x08')
  | 'f' => some (.ofChar '\x0c')
  | 'n' => some (.ofChar '\n')
  | 'r' => some (.ofChar '\r')
  | 't' => some (.ofChar '\t')
  | 'v' => some (.ofChar '\x0b')
  | _ => none

/-- Puts a code point before what was read. -/
def prepend (p : CodePoint) (found : Option (List CodePoint × List CodePoint)) :
    Option (List CodePoint × List CodePoint) :=
  found.map fun (ps, rest) => (p :: ps, rest)

/-- Reads up to the closing quote: a code point that is no quote, backslash or line end stands for itself,
a backslash takes a letter or `u` and four hexadecimal digits along. -/
def lexInner? : List CodePoint → Option (List CodePoint × List CodePoint)
  | [] => none
  | p :: rest =>
    if p = .ofChar '"' then some ([], rest)
    else if p = .ofChar '\\' then
      match rest with
      | [] => none
      | letter :: rest =>
        if letter = .ofChar 'u' then
          match rest with
          | a :: b :: c :: d :: rest =>
            (Text.hexNumber? a.char b.char c.char d.char).bind fun n => prepend (.ofNumber n) (lexInner? rest)
          | _ => none
        else (unescape? letter.char).bind fun q => prepend q (lexInner? rest)
    else if isNewline p.char then none
    else prepend p (lexInner? rest)

/-- Reads a regular string literal at the start of a text; gives its code points and the rest. -/
def lex? : List CodePoint → Option (List CodePoint × List CodePoint)
  | [] => none
  | p :: rest => if p = .ofChar '"' then lexInner? rest else none

/-! ## Characters and their code points -/

/-- The number of a character. -/
lemma CodePoint.val_ofChar (c : Char) : (CodePoint.ofChar c).val = c.toNat :=
  Nat.mod_eq_of_lt (Text.toNat_lt c)

/-- Characters are told apart by their numbers. -/
lemma CodePoint.ofChar_injective : Function.Injective CodePoint.ofChar := by
  intro c d h
  apply Char.toNat_inj.1
  rw [← val_ofChar, ← val_ofChar, h]

/-- A character is its own code point. -/
lemma CodePoint.char_ofChar (c : Char) : (CodePoint.ofChar c).char = c := by
  rw [char, val_ofChar, Char.ofNat_toNat]

/-- A number that is valid is the number of its character. -/
lemma toNat_ofNat {n : Nat} (h : n.isValidChar) : (Char.ofNat n).toNat = n := by
  rw [Char.ofNat, dif_pos h]
  rfl

/-! ## Escapes -/

/-- A letter escape reads back. -/
lemma unescape?_shortEscape {p : CodePoint} {letter : Char} (h : shortEscape? p.val = some letter) :
    unescape? letter = some p ∧ letter ≠ 'u' ∧ Text.endsLine letter = false := by
  unfold shortEscape? at h
  split at h
  case h_11 => cases h
  all_goals
    rename_i hp
    cases h
    exact ⟨congrArg some (Fin.ext hp.symm), by decide, rfl⟩

/-- A quotation mark ends the literal. -/
lemma lexInner?_quote (rest : List CodePoint) : lexInner? (.ofChar '"' :: rest) = some ([], rest) := by
  rw [lexInner?.eq_def]
  exact if_pos rfl

/-- A backslash with another letter than `u` stands for one character. -/
lemma lexInner?_letter {letter : Char} (h : letter ≠ 'u') (rest : List CodePoint) :
    lexInner? (.ofChar '\\' :: .ofChar letter :: rest) =
      (unescape? letter).bind fun p => prepend p (lexInner? rest) := by
  have hletter : CodePoint.ofChar letter ≠ .ofChar 'u' := fun heq => h (CodePoint.ofChar_injective heq)
  rw [lexInner?.eq_def]
  dsimp only
  rw [if_neg (by decide), if_pos rfl, if_neg hletter, CodePoint.char_ofChar]

/-- A backslash with `u` and four digits stands for the character of that number. -/
lemma lexInner?_number (a b c d : Char) (rest : List CodePoint) :
    lexInner? (.ofChar '\\' :: .ofChar 'u' :: .ofChar a :: .ofChar b :: .ofChar c :: .ofChar d :: rest) =
      (Text.hexNumber? a b c d).bind fun n => prepend (.ofNumber n) (lexInner? rest) := by
  rw [lexInner?.eq_def]
  dsimp only
  rw [if_neg (by decide), if_pos rfl, if_pos rfl]
  simp only [CodePoint.char_ofChar]

/-- Any other character stands for itself. -/
lemma lexInner?_plain {c : Char} (hquote : c ≠ '"') (hback : c ≠ '\\') (hline : isNewline c = false)
    (rest : List CodePoint) :
    lexInner? (.ofChar c :: rest) = prepend (.ofChar c) (lexInner? rest) := by
  have hquote' : CodePoint.ofChar c ≠ .ofChar '"' := fun heq => hquote (CodePoint.ofChar_injective heq)
  have hback' : CodePoint.ofChar c ≠ .ofChar '\\' := fun heq => hback (CodePoint.ofChar_injective heq)
  rw [lexInner?.eq_def]
  dsimp only
  rw [if_neg hquote', if_neg hback', CodePoint.char_ofChar, hline, if_neg Bool.false_ne_true]

/-- A code point that is written as it is: it is no surrogate, no quote, no backslash, and ends no line. -/
lemma plain_of_needsNumber {p : CodePoint} (hshort : shortEscape? p.val = none)
    (hn : needsNumber p.val = false) :
    p.val.isValidChar ∧ p.val ≠ 0x22 ∧ p.val ≠ 0x5c ∧ Text.endsLine (Char.ofNat p.val) = false := by
  have hp := p.isLt
  simp only [needsNumber, Bool.or_eq_false_iff, Bool.and_eq_false_iff, decide_eq_false_iff_not,
    beq_eq_false_iff_ne] at hn
  have hvalid : p.val.isValidChar := by
    simp only [Nat.isValidChar]
    omega
  refine ⟨hvalid, ?_, ?_, ?_⟩
  · intro h
    simp [shortEscape?, h] at hshort
  · intro h
    simp [shortEscape?, h] at hshort
  · simp only [Text.endsLine, toNat_ofNat hvalid, Bool.or_eq_false_iff, Bool.and_eq_false_iff,
      decide_eq_false_iff_not, beq_eq_false_iff_ne]
    omega

/-- What ends a line of source text ends a line. -/
lemma endsLine_of_isNewline {c : Char} (h : isNewline c = true) : Text.endsLine c = true := by
  simp only [isNewline, Bool.or_eq_true, beq_iff_eq] at h
  rcases h with (((rfl | rfl) | rfl) | rfl) | rfl <;> rfl

/-- A written code point reads back, whatever follows it. -/
lemma lexInner?_escape (p : CodePoint) (rest : List CodePoint) :
    lexInner? ((escape p).map .ofChar ++ rest) = prepend p (lexInner? rest) := by
  unfold escape
  split
  case h_1 letter hletter =>
    obtain ⟨hread, hu, _⟩ := unescape?_shortEscape hletter
    show lexInner? (.ofChar '\\' :: .ofChar letter :: rest) = _
    rw [lexInner?_letter hu, hread]
    rfl
  case h_2 hshort =>
    cases hn : needsNumber p.val with
    | true =>
      -- four digits are enough for what is written as a number
      have hlt : p.val < 0x10000 := by
        simp only [needsNumber, Bool.or_eq_true, Bool.and_eq_true, decide_eq_true_eq,
          beq_iff_eq] at hn
        omega
      rw [if_pos rfl, Text.hex_four]
      simp only [List.map_cons, List.map_nil, List.cons_append, List.nil_append]
      rw [lexInner?_number, Text.hexNumber?_hex hlt]
      exact congrArg (prepend · _) (Fin.ext (Nat.mod_eq_of_lt p.isLt))
    | false =>
      obtain ⟨hvalid, hquote, hback, hline⟩ := plain_of_needsNumber hshort hn
      have hnat := toNat_ofNat hvalid
      have hpoint : CodePoint.ofChar (Char.ofNat p.val) = p := by
        apply Fin.ext
        rw [CodePoint.val_ofChar, hnat]
      rw [if_neg Bool.false_ne_true, List.map_singleton, List.singleton_append, lexInner?_plain, hpoint]
      · intro h
        exact hquote (hnat.symm.trans (congrArg Char.toNat h))
      · intro h
        exact hback (hnat.symm.trans (congrArg Char.toNat h))
      · cases hnew : isNewline (Char.ofNat p.val) with
        | false => rfl
        | true => rw [endsLine_of_isNewline hnew] at hline; cases hline

/-- The inside of a literal reads back. -/
lemma lexInner?_escapes (ps rest : List CodePoint) :
    lexInner? ((ps.flatMap escape).map .ofChar ++ .ofChar '"' :: rest) = some (ps, rest) := by
  induction ps with
  | nil => exact lexInner?_quote rest
  | cons p ps ih =>
    rw [List.flatMap_cons, List.map_append, List.append_assoc, lexInner?_escape, ih]
    rfl

/-- The code points of a literal with a text behind it: the opening quote, the inside, the closing quote. -/
lemma map_quoteCodePoints_append (ps rest : List CodePoint) :
    (quoteCodePoints ps).map .ofChar ++ rest =
      .ofChar '"' :: ((ps.flatMap escape).map .ofChar ++ .ofChar '"' :: rest) := by
  simp [quoteCodePoints]

/-- A literal reads back as the code points that it was written for, and reading it leaves exactly the text
behind it. -/
theorem lex?_quoteCodePoints_append (ps rest : List CodePoint) :
    lex? ((quoteCodePoints ps).map .ofChar ++ rest) = some (ps, rest) := by
  rw [map_quoteCodePoints_append, lex?, if_pos rfl]
  exact lexInner?_escapes ps rest

-- a line end does not stand for itself, and `u` takes neither more nor fewer than four digits along
example : lex? ("\"\n\"".toList.map .ofChar) = none := by decide +kernel
example : lex? ("\"\\u00e\"".toList.map .ofChar) = none := by decide +kernel
example : lex? ("\"\\u00e9f\";".toList.map .ofChar) =
    some (['é', 'f'].map .ofChar, [.ofChar ';']) := by decide +kernel

/-! ## Literals of texts -/

/-- Two literals with texts behind them are equal only if both parts are. -/
lemma quote_append_inj {s s' : String} {rest rest' : List Char}
    (h : (quote s).toList ++ rest = (quote s').toList ++ rest') : s = s' ∧ rest = rest' := by
  simp only [quote, String.toList_ofList] at h
  have hpoints := congrArg (List.map CodePoint.ofChar) h
  rw [List.map_append, List.map_append, map_quoteCodePoints_append, map_quoteCodePoints_append] at hpoints
  -- both insides are read up to the first quote that closes them
  have hread := congrArg lexInner? (List.cons.inj hpoints).2
  rw [lexInner?_escapes, lexInner?_escapes, Option.some.injEq, Prod.mk.injEq] at hread
  obtain ⟨htext, hrest⟩ := hread
  exact ⟨String.toList_injective (CodePoint.ofChar_injective.list_map htext),
    CodePoint.ofChar_injective.list_map hrest⟩

/-- No character of a written code point ends a line. -/
lemma endsLine_of_mem_escape {p : CodePoint} {c : Char} (hc : c ∈ escape p) :
    Text.endsLine c = false := by
  unfold escape at hc
  split at hc
  case h_1 letter hletter =>
    rcases List.mem_pair.1 hc with rfl | rfl
    · rfl
    · exact (unescape?_shortEscape hletter).2.2
  case h_2 hshort =>
    cases hn : needsNumber p.val with
    | true =>
      rw [hn, if_pos rfl] at hc
      rcases List.mem_cons.1 hc with rfl | hc
      · rfl
      · rcases List.mem_cons.1 hc with rfl | hc
        · rfl
        · exact Text.endsLine_of_mem_hex hc
    | false =>
      rw [hn, if_neg Bool.false_ne_true, List.mem_singleton] at hc
      rw [hc]
      exact (plain_of_needsNumber hshort hn).2.2.2

/-- No character of a literal ends a line. -/
lemma endsLine_of_mem_quote {s : String} {c : Char} (hc : c ∈ (quote s).toList) :
    Text.endsLine c = false := by
  simp only [quote, String.toList_ofList, quoteCodePoints, List.cons_append, List.mem_cons,
    List.mem_append, List.mem_flatMap, List.not_mem_nil, or_false] at hc
  rcases hc with rfl | ⟨p, _, hp⟩ | rfl
  · rfl
  · exact endsLine_of_mem_escape hp
  · rfl

end PropertyQuote.Literal
