import PropertyQuote.CSharp.Syntax
import PropertyQuote.Proofs.Utf8

/-!
# The text of a range of bytes

A node is known by a range of bytes, which may cut characters at either end, run past the end of the source or be
reversed.  Its text is made of the characters that have all of their bytes in the range: what is left of a character
that is cut at the start continues nothing, and a character that is cut at the end is never completed.

* `charsWithin`: the characters that have all of their bytes in a range.
* `decodeDropping_continuations`, `decodeDropping_take_encodeChar`: what is read from characters that are cut.
* `decodeDropping_range`: what is read from a range of bytes.
* `text_of_range`: the text of a node.
-/

namespace PropertyQuote

namespace Text.Utf8

variable {c : Char} {b : UInt8} {s : List Char} {start stop i j k : Nat}

/-! ## Characters that are cut -/

/-- A character has at least one byte. -/
lemma length_encodeChar_pos (c : Char) : 0 < (String.utf8EncodeChar c).length := by
  rw [String.length_utf8EncodeChar]
  exact c.utf8Size_pos

/-- All bytes of a character but the first one continue it. -/
lemma isContinuation_of_mem_tail (h : b ∈ (String.utf8EncodeChar c).tail) : isContinuation b = true := by
  unfold String.utf8EncodeChar at h
  dsimp only at h
  -- one case per number of bytes
  split at h
  case isTrue => cases h
  case isFalse =>
  split at h
  case isTrue =>
    rw [List.tail_cons, List.mem_singleton] at h
    rw [h]
    exact isContinuation_tail _
  case isFalse =>
  split at h
  case isTrue =>
    simp only [List.tail_cons, List.mem_cons, List.not_mem_nil, or_false] at h
    rcases h with rfl | rfl
    all_goals exact isContinuation_tail _
  case isFalse =>
    simp only [List.tail_cons, List.mem_cons, List.not_mem_nil, or_false] at h
    rcases h with rfl | rfl | rfl
    all_goals exact isContinuation_tail _

/-- No character starts with a byte that continues one. -/
lemma decodeHead?_continuation (h : isContinuation b = true) (rest : List UInt8) : decodeHead? (b :: rest) = none := by
  rw [isContinuation, Bool.and_eq_true, decide_eq_true_iff, decide_eq_true_iff] at h
  unfold decodeHead?
  dsimp only
  rw [if_neg (UInt8.not_lt.2 h.1), if_pos h.2]

/-- A byte that starts no character is dropped. -/
lemma decodeDropping_of_head_none {rest : List UInt8} (h : decodeHead? (b :: rest) = none) :
    decodeDropping (b :: rest) = decodeDropping rest := by
  rw [decodeDropping]
  split
  case h_1 => rfl
  case h_2 hsome =>
    rw [h] at hsome
    cases hsome

/-- Bytes that continue nothing are left out. -/
lemma decodeDropping_continuations {bs : List UInt8} (h : ∀ b ∈ bs, isContinuation b = true) (rest : List UInt8) :
    decodeDropping (bs ++ rest) = decodeDropping rest := by
  induction bs with
  | nil => rfl
  | cons b bs ih =>
    obtain ⟨hb, hbs⟩ := List.forall_mem_cons.1 h
    rw [List.cons_append, decodeDropping_of_head_none (decodeHead?_continuation hb _), ih hbs]

/-- No character is read from the first bytes of another one. -/
lemma decodeHead?_take_encodeChar (hk : k < (String.utf8EncodeChar c).length) :
    decodeHead? ((String.utf8EncodeChar c).take k) = none := by
  rw [Option.eq_none_iff_forall_ne_some]
  rintro ⟨c', rest⟩ hsome
  -- the bytes that are missing would follow the character that is read
  have hbytes : String.utf8EncodeChar c' ++ (rest ++ (String.utf8EncodeChar c).drop k) =
      String.utf8EncodeChar c ++ [] := by
    rw [← List.append_assoc, encodeChar_append_of_decodeHead? hsome, List.take_append_drop, List.append_nil]
  have hhead := congrArg decodeHead? hbytes
  rw [decodeHead?_encodeChar, decodeHead?_encodeChar] at hhead
  have hrest := congrArg Prod.snd (Option.some.inj hhead)
  have hdrop := (List.append_eq_nil_iff.1 hrest).2
  exact Nat.not_le.2 hk (List.drop_eq_nil_iff.1 hdrop)

/-- A character that is cut at its end is left out. -/
lemma decodeDropping_take_encodeChar (hk : k < (String.utf8EncodeChar c).length) :
    decodeDropping ((String.utf8EncodeChar c).take k) = [] := by
  have hhead := decodeHead?_take_encodeChar hk
  cases hbytes : (String.utf8EncodeChar c).take k with
  | nil => rw [decodeDropping]
  | cons b bs =>
    rw [hbytes] at hhead
    have htail : ∀ b ∈ bs, isContinuation b = true := by
      intro b' hb'
      refine isContinuation_of_mem_tail (c := c) ((List.take_sublist k _).tail.subset ?_)
      rw [hbytes]
      exact hb'
    have hnone := decodeDropping_continuations htail []
    rw [List.append_nil] at hnone
    rw [decodeDropping_of_head_none hhead, hnone, decodeDropping]

/-! ## Characters in a range -/

/-- The byte at which the character of the given index starts. -/
def offset (s : List Char) (i : Nat) : Nat :=
  (encode (s.take i)).length

/-- The character of the given index has all of its bytes in a range. -/
def isWithin (s : List Char) (start stop i : Nat) : Bool :=
  decide (start ≤ offset s i) && decide (offset s (i + 1) ≤ stop)

/-- The characters of a text that have all of their bytes in a range, in order. -/
def charsWithin (s : List Char) (start stop : Nat) : List Char :=
  (s.zipIdx.filter fun e => isWithin s start stop e.2).map Prod.fst

/-- A text starts at its first byte. -/
lemma offset_zero : offset s 0 = 0 := rfl

/-- A character starts after the bytes of those before it. -/
lemma offset_cons_succ : offset (c :: s) (i + 1) = (String.utf8EncodeChar c).length + offset s i := by
  rw [offset, List.take_succ_cons, encode_cons, List.length_append, offset]

/-- The first character is in a range that starts with the text and does not end within the character. -/
lemma isWithin_cons_zero : isWithin (c :: s) start stop 0 = true ↔
    start = 0 ∧ (String.utf8EncodeChar c).length ≤ stop := by
  rw [isWithin, offset_cons_succ, offset_zero, offset_zero, Bool.and_eq_true, decide_eq_true_iff, decide_eq_true_iff,
    Nat.le_zero, Nat.add_zero]

/-- A later character is in a range exactly if it is so without the first one, whose bytes are not counted then. -/
lemma isWithin_cons_succ (hs : s ≠ []) : isWithin (c :: s) start stop (i + 1) =
    isWithin s (start - (String.utf8EncodeChar c).length) (stop - (String.utf8EncodeChar c).length) i := by
  obtain ⟨c₁, s, rfl⟩ := List.exists_cons_of_ne_nil hs
  have hpos := length_encodeChar_pos c₁
  rw [isWithin, isWithin, ← Bool.decide_and, ← Bool.decide_and, decide_eq_decide, offset_cons_succ, offset_cons_succ,
    offset_cons_succ]
  omega

/-- The characters in a range of a text, one character at a time. -/
lemma charsWithin_cons : charsWithin (c :: s) start stop =
    (if start = 0 ∧ (String.utf8EncodeChar c).length ≤ stop then [c] else []) ++
      charsWithin s (start - (String.utf8EncodeChar c).length) (stop - (String.utf8EncodeChar c).length) := by
  have hlater : (((c :: s).zipIdx.tail.filter fun e => isWithin (c :: s) start stop e.2).map Prod.fst) =
      charsWithin s (start - (String.utf8EncodeChar c).length) (stop - (String.utf8EncodeChar c).length) := by
    rw [List.zipIdx_cons, List.tail_cons, List.zipIdx_succ, List.filter_map, List.map_map, charsWithin]
    refine congrArg (List.map Prod.fst) (List.filter_congr fun e he => isWithin_cons_succ ?_)
    rintro rfl
    cases he
  rw [← hlater, charsWithin, List.zipIdx_cons, List.tail_cons, List.filter_cons]
  by_cases hfirst : start = 0 ∧ (String.utf8EncodeChar c).length ≤ stop
  · rw [if_pos (isWithin_cons_zero.2 hfirst), if_pos hfirst]
    rfl
  · rw [if_neg (fun h => hfirst (isWithin_cons_zero.1 h)), if_neg hfirst]
    rfl

/-- The bytes of a range that belong to the first character are all of its bytes, only the last ones, or only the
first ones. -/
lemma decodeDropping_cut (rest : List UInt8)
    (hrest : stop < (String.utf8EncodeChar c).length → rest = []) :
    decodeDropping (((String.utf8EncodeChar c).drop start).take (stop - start) ++ rest) =
      (if start = 0 ∧ (String.utf8EncodeChar c).length ≤ stop then [c] else []) ++ decodeDropping rest := by
  by_cases hstart : start = 0
  · subst hstart
    rw [List.drop_zero, Nat.sub_zero]
    by_cases hwhole : (String.utf8EncodeChar c).length ≤ stop
    · rw [if_pos ⟨rfl, hwhole⟩, List.take_of_length_le hwhole, decodeDropping_of_head (decodeHead?_encodeChar c rest)]
      rfl
    · have hcut := Nat.not_le.1 hwhole
      rw [if_neg (fun h => hwhole h.2), hrest hcut, List.append_nil, decodeDropping_take_encodeChar hcut,
        decodeDropping]
      rfl
  · rw [if_neg (fun h => hstart h.1), List.nil_append]
    refine decodeDropping_continuations ?_ rest
    intro b hb
    obtain ⟨n, rfl⟩ := Nat.exists_eq_succ_of_ne_zero hstart
    have hdrop := List.mem_of_mem_take hb
    rw [← List.drop_tail] at hdrop
    exact isContinuation_of_mem_tail (List.mem_of_mem_drop hdrop)

/-- What is read from a range of the bytes of a text are the characters that have all of their bytes in it. -/
lemma decodeDropping_range (s : List Char) (start stop : Nat) :
    decodeDropping (((encode s).drop start).take (stop - start)) = charsWithin s start stop := by
  induction s generalizing start stop with
  | nil =>
    rw [encode, List.flatMap_nil, List.drop_nil, List.take_nil, decodeDropping]
    rfl
  | cons c s ih =>
    have hlength : stop - start - ((String.utf8EncodeChar c).drop start).length =
        stop - (String.utf8EncodeChar c).length - (start - (String.utf8EncodeChar c).length) := by
      rw [List.length_drop]
      omega
    rw [encode_cons, List.drop_append, List.take_append, hlength, decodeDropping_cut, ih, charsWithin_cons]
    intro hcut
    rw [Nat.sub_eq_zero_of_le (Nat.le_of_lt hcut), Nat.zero_sub, List.take_zero]

/-- The range cuts the second character, and it ends behind the last one. -/
example : charsWithin ['a', 'é', '€'] 2 7 = ['€'] := by decide

/-! ## Ranges of whole characters -/

/-- The bytes of a part of a text go from the offset of its first character to that of its end. -/
lemma length_encode_drop_take (hle : i ≤ j) :
    offset s i + (encode ((s.take j).drop i)).length = offset s j := by
  have hsplit : s.take i ++ (s.take j).drop i = s.take j := by
    have hjoined := List.take_append_drop i (s.take j)
    rwa [List.take_take, Nat.min_eq_left hle] at hjoined
  rw [offset, offset, ← List.length_append, ← encode_append, hsplit]

/-- A range from the start of one character to the start of another holds the text between them. -/
lemma range_of_offsets (s : List Char) (i j : Nat) :
    ((encode s).drop (offset s i)).take (offset s j - offset s i) = encode ((s.take j).drop i) := by
  have hdrop : (encode s).drop (offset s i) = encode (s.drop i) := by
    have happend := encode_append (s.take i) (s.drop i)
    rw [List.take_append_drop] at happend
    rw [happend, offset, List.drop_left]
  rw [hdrop]
  by_cases hle : i ≤ j
  · have hlength := length_encode_drop_take (s := s) hle
    have hsplit : s.drop i = (s.take j).drop i ++ s.drop j := by
      rw [← List.take_append_drop (j - i) (s.drop i), List.drop_take, List.drop_drop, Nat.add_sub_cancel' hle]
    rw [hsplit, encode_append, ← hlength, Nat.add_sub_cancel_left, List.take_left]
  · have hge := Nat.le_of_lt (Nat.not_le.1 hle)
    have hlength := length_encode_drop_take (s := s) hge
    have hempty : (s.take j).drop i = [] := List.drop_eq_nil_of_le (Nat.le_trans (List.length_take_le j s) hge)
    rw [hempty, Nat.sub_eq_zero_of_le (by omega), List.take_zero]
    rfl

end Text.Utf8

open Text.Utf8

/-- The text of a node is made of the characters that have all of their bytes in its range, whatever the range is.
Where it starts and ends with whole characters, it is the part of the text between them. -/
theorem CSharp.text_of_range (s : String) (n : Node) :
    (Source.text (encodeText s) n).toList = charsWithin s.toList n.start n.stop ∧
    ∀ i j, n.start = offset s.toList i → n.stop = offset s.toList j →
      (Source.text (encodeText s) n).toList = (s.toList.take j).drop i := by
  rw [Source.text, Source.slice, String.toList_ofList, encodeText]
  refine ⟨decodeDropping_range _ _ _, ?_⟩
  intro i j hstart hstop
  rw [hstart, hstop, range_of_offsets, decodeDropping_encode]

end PropertyQuote
