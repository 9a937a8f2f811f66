import PropertyQuote.CSharp.Reader
import PropertyQuote.Name
import PropertyQuote.Proofs.Utf8

/-!
# Words of source texts

A word token stands in the source where its range says, and the name that is read from that range is simple:
it holds no dot.  Arranging tokens in groups and cutting groups into items keeps all of that.

* `dot_notMem_normalised`: normalising a name brings in no dot unless the name holds colons.
* `simple_tokens`: the words of a text are simple names.
* `TokenTree.Simple.arrange`, `TokenTree.Simple.items`: the same for trees of tokens.
-/

namespace PropertyQuote

/-! ## Normalised names -/

/-- The dots of a dotted name were dots or colons. -/
lemma Name.mem_dotted {c : Char} {s : List Char} (h : c ∈ Name.dotted s) :
    c ∈ s ∨ (c = '.' ∧ ':' ∈ s) := by
  fun_induction Name.dotted s with
  | case1 rest ih =>
    rcases List.mem_cons.1 h with rfl | h
    · exact .inr ⟨rfl, List.mem_cons_self⟩
    · rcases ih h with h | ⟨rfl, -⟩
      · exact .inl (List.mem_cons_of_mem _ (List.mem_cons_of_mem _ h))
      · exact .inr ⟨rfl, List.mem_cons_self⟩
  | case2 c' rest _ ih =>
    rcases List.mem_cons.1 h with rfl | h
    · exact .inl List.mem_cons_self
    · rcases ih h with h | ⟨rfl, hcolon⟩
      · exact .inl (List.mem_cons_of_mem _ h)
      · exact .inr ⟨rfl, List.mem_cons_of_mem _ hcolon⟩
  | case3 => cases h

/-- Only blanks and a prefix are taken from a name before its colons are replaced. -/
lemma Name.mem_withoutGlobal {c : Char} {s : List Char} (h : c ∈ Name.withoutGlobal s) : c ∈ s := by
  unfold Name.withoutGlobal at h
  split at h
  · exact List.mem_of_mem_drop h
  · exact h

/-- Normalising brings in no dot unless the name holds colons. -/
lemma dot_notMem_normalised {s : String} (hdot : '.' ∉ s.toList) (hcolon : ':' ∉ s.toList) :
    '.' ∉ (Name.normalised s).toList := by
  intro h
  rw [Name.normalised, String.toList_ofList, Name.normalise] at h
  rcases Name.mem_dotted h with h | ⟨-, h⟩
  · exact hdot (List.mem_of_mem_filter (Name.mem_withoutGlobal h))
  · exact hcolon (List.mem_of_mem_filter (Name.mem_withoutGlobal h))

namespace CSharp

/-! ## Tokens -/

/-- The name that is read from a range of bytes holds no dot. -/
def Source.SimpleAt (source : Source) (start stop : Nat) : Prop :=
  '.' ∉ (Name.normalised (source.slice start stop)).toList

/-- A token is a simple name if it is a word. -/
def Token.Simple (source : Source) (t : Token) : Prop :=
  t.kind = .word → source.SimpleAt t.start t.stop

/-- The number of bytes of a text is the number of bytes that encode it. -/
lemma byteLength_eq (s : List Char) : byteLength s = (Text.Utf8.encode s).length := by
  have hfold : ∀ n, s.foldl (fun n c => n + c.utf8Size) n = n + (Text.Utf8.encode s).length := by
    induction s with
    | nil => intro n; rfl
    | cons c s ih =>
      intro n
      rw [List.foldl_cons, ih, Text.Utf8.encode_cons, List.length_append,
        String.length_utf8EncodeChar, Nat.add_assoc]
  rw [byteLength, hfold, Nat.zero_add]

/-- The characters of a word are no dots and no colons. -/
lemma isNamePart_ne {c : Char} (h : (c == '@' || isNamePart c) = true) : c ≠ '.' ∧ c ≠ ':' := by
  constructor <;> rintro rfl <;> exact absurd h (by decide)

/-- A word is made of the characters of names, after perhaps an at sign. -/
lemma firstToken_word {c : Char} {rest : List Char} {n : Nat} (h : firstToken c rest = (.word, n)) :
    ∀ d ∈ c :: rest.take n, (d == '@' || isNamePart d) = true := by
  unfold firstToken at h
  repeat' split at h
  all_goals cases h
  rename_i hc
  intro d hd
  rcases List.mem_cons.1 hd with rfl | hd
  · exact hc
  · rw [← List.prefix_iff_eq_take.1 (List.takeWhile_prefix _)] at hd
    rw [List.all_eq_true.1 List.all_takeWhile d hd, Bool.or_true]

/-- The bytes of a word are those of a simple name. -/
lemma simpleAt_word {before word after : List Char}
    (hword : ∀ c ∈ word, (c == '@' || isNamePart c) = true) :
    Source.SimpleAt (Text.Utf8.encode (before ++ (word ++ after))) (Text.Utf8.encode before).length
      ((Text.Utf8.encode before).length + byteLength word) := by
  have htext : Source.slice (Text.Utf8.encode (before ++ (word ++ after)))
      (Text.Utf8.encode before).length ((Text.Utf8.encode before).length + byteLength word) =
      String.ofList word := by
    rw [Source.slice, Nat.add_sub_cancel_left, byteLength_eq, Text.Utf8.take_drop_encode,
      Text.Utf8.decodeDropping_encode]
  rw [Source.SimpleAt, htext]
  refine dot_notMem_normalised ?_ ?_ <;> rw [String.toList_ofList] <;> intro h
  · exact (isNamePart_ne (hword _ h)).1 rfl
  · exact (isNamePart_ne (hword _ h)).2 rfl

/-- An empty text has no tokens. -/
lemma tokensFrom_nil (offset : Nat) : tokensFrom offset [] = [] := by
  rw [tokensFrom.eq_def]

/-- The first token of a text, unless it is a gap, and those after it. -/
lemma tokensFrom_cons {offset : Nat} {c : Char} {rest : List Char} {kind : TokenKind} {n : Nat}
    (h : firstToken c rest = (kind, n)) :
    tokensFrom offset (c :: rest) =
      let stop := offset + byteLength (c :: rest.take n)
      let tail := tokensFrom stop (rest.drop n)
      if kind == .gap then tail else ⟨kind, String.ofList (c :: rest.take n), offset, stop⟩ :: tail := by
  rw [tokensFrom.eq_def]
  simp only [h]

/-- The words of a text that starts after another one are simple names. -/
lemma simple_tokensFrom {offset : Nat} (before : List Char) : (s : List Char) →
    (hoffset : offset = (Text.Utf8.encode before).length) →
    ∀ t ∈ tokensFrom offset s, t.Simple (Text.Utf8.encode (before ++ s))
  | [], _ => by simp [tokensFrom_nil]
  | c :: rest, hoffset => by
    obtain ⟨kind, n, hfound⟩ : ∃ kind n, firstToken c rest = (kind, n) := ⟨_, _, rfl⟩
    have hcut : c :: rest = (c :: rest.take n) ++ rest.drop n := by
      rw [List.cons_append, List.take_append_drop]
    -- the tokens after the first one start where the first one ends
    have htail : ∀ t ∈ tokensFrom (offset + byteLength (c :: rest.take n)) (rest.drop n),
        t.Simple (Text.Utf8.encode (before ++ c :: rest)) := by
      have hstop : offset + byteLength (c :: rest.take n) =
          (Text.Utf8.encode (before ++ (c :: rest.take n))).length := by
        rw [hoffset, byteLength_eq, Text.Utf8.encode_append, List.length_append]
      have hsplit := simple_tokensFrom _ (rest.drop n) hstop
      rwa [List.append_assoc, ← hcut] at hsplit
    rw [tokensFrom_cons hfound]
    dsimp only
    split
    · exact htail
    · intro t ht
      rcases List.mem_cons.1 ht with rfl | ht
      · intro hword
        rw [hcut, hoffset]
        exact simpleAt_word (firstToken_word (hfound.trans (congrArg (·, n) hword)))
      · exact htail t ht
termination_by s => s.length
decreasing_by simp only [List.length_cons, List.length_drop]; omega

/-- A conditional section is no word. -/
lemma simple_conditionalToken (source : Source) (start stop : Nat) (inner : List Token) :
    (conditionalToken start stop inner).Simple source := by
  intro h
  unfold conditionalToken at h
  dsimp only at h
  split at h <;> cases h

/-- Joining conditional sections brings in no words. -/
lemma simple_joinSections {source : Source} {section? : Option OpenSection} {ts : List Token}
    (hts : ∀ t ∈ ts, t.Simple source) : ∀ t ∈ joinSections section? ts, t.Simple source := by
  induction ts generalizing section? with
  | nil => simp [joinSections]
  | cons t rest ih =>
    obtain ⟨ht, hrest⟩ := List.forall_mem_cons.1 hts
    cases section? with
    | none =>
      rw [joinSections]
      split
      · exact ih hrest
      · exact List.forall_mem_cons.2 ⟨ht, ih hrest⟩
    | some o =>
      rw [joinSections]
      split
      · exact ih hrest
      · split
        · split
          · exact List.forall_mem_cons.2 ⟨simple_conditionalToken source _ _ _, ih hrest⟩
          · exact ih hrest
        · split <;> exact ih hrest

/-- The words of a text are simple names. -/
lemma simple_tokens (s : List Char) : ∀ t ∈ tokens s, t.Simple (Text.Utf8.encode s) :=
  simple_joinSections (simple_tokensFrom [] s rfl)

/-! ## Trees of tokens -/

/-- All words of a tree are simple names. -/
inductive TokenTree.Simple (source : Source) : TokenTree → Prop
  | leaf {t : Token} : t.Simple source → Simple source (.leaf t)
  | group {opening : Char} {start stop : Nat} {items : List TokenTree} :
      (∀ t ∈ items, Simple source t) → Simple source (.group opening start stop items)

/-- A tree that is a word is a simple name. -/
lemma TokenTree.Simple.simpleAt {source : Source} {t : TokenTree} (h : t.Simple source)
    (hword : t.word?.isSome) : source.SimpleAt t.start t.stop := by
  cases h with
  | @leaf t ht =>
    refine ht ?_
    by_contra hkind
    simp [TokenTree.word?, hkind] at hword
  | group => cases hword

/-- Closing a group brings in no words. -/
lemma TokenTree.Simple.close {source : Source} {g : OpenGroup} {acc : List TokenTree} {stop : Nat}
    (hbefore : ∀ t ∈ g.before, t.Simple source) (hacc : ∀ t ∈ acc, t.Simple source) :
    ∀ t ∈ TokenTree.group g.bracket g.start stop acc.reverse :: g.before, t.Simple source :=
  List.forall_mem_cons.2 ⟨.group fun t ht => hacc t (List.mem_reverse.1 ht), hbefore⟩

/-- Closing all groups brings in no words. -/
lemma TokenTree.Simple.closeAll {source : Source} {groups : List OpenGroup} {acc : List TokenTree}
    (hgroups : ∀ g ∈ groups, ∀ t ∈ g.before, t.Simple source) (hacc : ∀ t ∈ acc, t.Simple source) :
    ∀ t ∈ CSharp.closeAll groups acc, t.Simple source := by
  induction groups generalizing acc with
  | nil => simpa [CSharp.closeAll] using hacc
  | cons g outer ih =>
    obtain ⟨hg, houter⟩ := List.forall_mem_cons.1 hgroups
    exact ih houter (close hg hacc)

/-- Arranging tokens in groups brings in no words. -/
lemma TokenTree.Simple.arrange {source : Source} {groups : List OpenGroup} {acc : List TokenTree}
    {ts : List Token} (hgroups : ∀ g ∈ groups, ∀ t ∈ g.before, t.Simple source)
    (hacc : ∀ t ∈ acc, t.Simple source) (hts : ∀ t ∈ ts, t.Simple source) :
    ∀ t ∈ CSharp.arrange groups acc ts, t.Simple source := by
  fun_induction CSharp.arrange groups acc ts with
  | case1 groups acc => exact closeAll hgroups hacc
  | case2 groups acc t rest _ ih =>
    -- a bracket that opens a group
    exact ih (List.forall_mem_cons.2 ⟨hacc, hgroups⟩) (by simp) (List.forall_mem_cons.1 hts).2
  | case3 acc t rest _ _ g outer ih =>
    -- a bracket that closes one
    obtain ⟨hg, houter⟩ := List.forall_mem_cons.1 hgroups
    exact ih houter (close hg hacc) (List.forall_mem_cons.1 hts).2
  | case4 acc t rest _ _ ih => exact ih hgroups hacc (List.forall_mem_cons.1 hts).2
  | case5 groups acc t rest _ _ ih =>
    obtain ⟨ht, hrest⟩ := List.forall_mem_cons.1 hts
    exact ih hgroups (List.forall_mem_cons.2 ⟨.leaf ht, hacc⟩) hrest

/-- The trees of an item are among the trees that are cut into items. -/
lemma mem_of_mem_itemsFrom {acc ts item : List TokenTree} {assigned : Bool} {t : TokenTree}
    (hitem : item ∈ itemsFrom acc assigned ts) (ht : t ∈ item) : t ∈ acc ∨ t ∈ ts := by
  induction ts generalizing acc assigned with
  | nil =>
    rw [itemsFrom] at hitem
    split at hitem
    · cases hitem
    · rw [List.mem_singleton.1 hitem, List.mem_reverse] at ht
      exact .inl ht
  | cons u rest ih =>
    have hfresh {assigned : Bool} (h : item ∈ itemsFrom [] assigned rest) : t ∈ acc ∨ t ∈ u :: rest :=
      .inr (List.mem_cons_of_mem _ ((ih h).resolve_left List.not_mem_nil))
    have hclosed {assigned : Bool} (h : item ∈ (u :: acc).reverse :: itemsFrom [] assigned rest) :
        t ∈ acc ∨ t ∈ u :: rest := by
      rcases List.mem_cons.1 h with rfl | h
      · rcases List.mem_cons.1 (List.mem_reverse.1 ht) with rfl | ht
        · exact .inr List.mem_cons_self
        · exact .inl ht
      · exact hfresh h
    rw [itemsFrom] at hitem
    split at hitem
    · exact hfresh hitem
    · split at hitem
      · exact hclosed hitem
      · split at hitem
        · exact hclosed hitem
        · rcases ih hitem with h | h
          · rcases List.mem_cons.1 h with rfl | h
            · exact .inr List.mem_cons_self
            · exact .inl h
          · exact .inr (List.mem_cons_of_mem _ h)

/-- Cutting trees into items brings in no words. -/
lemma TokenTree.Simple.items {source : Source} {ts : List TokenTree}
    (hts : ∀ t ∈ ts, t.Simple source) : ∀ item ∈ CSharp.items ts, ∀ t ∈ item, t.Simple source :=
  fun _ hitem t ht => hts t ((mem_of_mem_itemsFrom hitem ht).resolve_left List.not_mem_nil)

end CSharp

end PropertyQuote
