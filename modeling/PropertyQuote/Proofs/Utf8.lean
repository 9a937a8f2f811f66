import PropertyQuote.Proofs.Text
import PropertyQuote.Text.Utf8

/-!
# Encoding and decoding

A text reads back from its bytes, and so does a part of it from the bytes of that part.

* `decodeHead?_encodeChar`: the first character reads back.
* `decodeDropping_encode`, `decode?_encode`: a text reads back.
* `decode?_eq_some_iff`: only the bytes of a text read as this text.
* `take_drop_encode`: the bytes between two places of a text are those of the text between them.
* `mem_of_mem_decodeDropping`: a character of one byte that is read from some bytes of a text stands in it.
-/

namespace PropertyQuote.Text.Utf8

/-! ## Bytes -/

/-- A number below 256 is the number of its byte. -/
lemma toNat_ofNat_byte {n : Nat} (h : n < 256) : (UInt8.ofNat n).toNat = n := by
  simp only [UInt8.toNat_ofNat']
  omega

/-- Bytes are ordered as their numbers are. -/
lemma byte_lt_iff {n k : Nat} (hn : n < 256) (hk : k < 256) :
    UInt8.ofNat n < UInt8.ofNat k ↔ n < k := by
  rw [UInt8.lt_iff_toNat_lt, toNat_ofNat_byte hn, toNat_ofNat_byte hk]

/-- The bytes after the first one continue a character. -/
lemma isContinuation_tail (n : Nat) : isContinuation (UInt8.ofNat (n % 64 + 128)) = true := by
  have hlow : ¬ UInt8.ofNat (n % 64 + 128) < UInt8.ofNat 128 := by
    rw [byte_lt_iff (by omega) (by omega)]
    omega
  have hhigh : UInt8.ofNat (n % 64 + 128) < UInt8.ofNat 192 := by
    rw [byte_lt_iff (by omega) (by omega)]
    omega
  rw [isContinuation, Bool.and_eq_true, decide_eq_true_iff, decide_eq_true_iff]
  exact ⟨UInt8.not_lt.1 hlow, hhigh⟩

/-- The bits that the bytes after the first one carry. -/
lemma payload_tail (n : Nat) : payload (UInt8.ofNat (n % 64 + 128)) = n % 64 := by
  rw [payload, toNat_ofNat_byte (by omega)]
  omega

/-! ## Characters -/

/-- The number of a character makes the character. -/
lemma finish?_toNat {c : Char} {n least : Nat} {tail rest : List UInt8} (hn : n = c.toNat)
    (hleast : least ≤ n) (htail : tail.all isContinuation = true) :
    finish? n least tail rest = some (c, rest) := by
  subst hn
  have hvalid : c.toNat.isValidChar := c.valid
  rw [finish?, dif_pos hvalid, if_pos (by simp [hleast, htail])]
  rfl

/-- The first byte of a character is compared by its number. -/
lemma lead_lt {n : Nat} (hn : n < 256) :
    (UInt8.ofNat n < 0x80 ↔ n < 0x80) ∧ (UInt8.ofNat n < 0xc0 ↔ n < 0xc0) ∧
      (UInt8.ofNat n < 0xe0 ↔ n < 0xe0) ∧ (UInt8.ofNat n < 0xf0 ↔ n < 0xf0) ∧
      (UInt8.ofNat n < 0xf8 ↔ n < 0xf8) :=
  ⟨byte_lt_iff hn (by decide), byte_lt_iff hn (by decide), byte_lt_iff hn (by decide),
    byte_lt_iff hn (by decide), byte_lt_iff hn (by decide)⟩

/-- The first character reads back, whatever follows it. -/
lemma decodeHead?_encodeChar (c : Char) (rest : List UInt8) :
    decodeHead? (String.utf8EncodeChar c ++ rest) = some (c, rest) := by
  have hbound := toNat_lt c
  unfold String.utf8EncodeChar
  simp only [show c.val.toNat = c.toNat from rfl]
  -- one case per number of bytes; the first byte says which one it is
  split
  case isTrue h =>
    obtain ⟨h1, -⟩ := lead_lt (n := c.toNat) (by omega)
    simp only [List.cons_append, List.nil_append, decodeHead?, h1, toNat_ofNat_byte (n := c.toNat) (by omega)]
    rw [if_pos (by omega)]
    exact finish?_toNat rfl (by omega) rfl
  case isFalse h =>
  split
  case isTrue h' =>
    have hlead : c.toNat / 64 % 32 + 192 < 256 := by omega
    obtain ⟨h1, h2, h3, -⟩ := lead_lt hlead
    simp only [List.cons_append, List.nil_append, decodeHead?, h1, h2, h3, toNat_ofNat_byte hlead,
      payload_tail]
    rw [if_neg (by omega), if_neg (by omega), if_pos (by omega)]
    exact finish?_toNat (by omega) (by omega) (by simp only [List.all_cons, isContinuation_tail]; rfl)
  case isFalse h' =>
  split
  case isTrue h'' =>
    have hlead : c.toNat / 4096 % 16 + 224 < 256 := by omega
    obtain ⟨h1, h2, h3, h4, -⟩ := lead_lt hlead
    simp only [List.cons_append, List.nil_append, decodeHead?, h1, h2, h3, h4, toNat_ofNat_byte hlead,
      payload_tail]
    rw [if_neg (by omega), if_neg (by omega), if_neg (by omega), if_pos (by omega)]
    exact finish?_toNat (by omega) (by omega) (by simp only [List.all_cons, isContinuation_tail]; rfl)
  case isFalse h'' =>
    have hlead : c.toNat / 262144 % 8 + 240 < 256 := by omega
    obtain ⟨h1, h2, h3, h4, h5⟩ := lead_lt hlead
    simp only [List.cons_append, List.nil_append, decodeHead?, h1, h2, h3, h4, h5,
      toNat_ofNat_byte hlead, payload_tail]
    rw [if_neg (by omega), if_neg (by omega), if_neg (by omega), if_neg (by omega), if_pos (by omega)]
    exact finish?_toNat (by omega) (by omega) (by simp only [List.all_cons, isContinuation_tail]; rfl)

/-- A character that is read has the number that its bytes spell, in no more bytes than it needs. -/
lemma finish?_eq_some {n least : Nat} {tail rest rest' : List UInt8} {c : Char}
    (h : finish? n least tail rest = some (c, rest')) :
    c.toNat = n ∧ least ≤ n ∧ (∀ b ∈ tail, 0x80 ≤ b.toNat ∧ b.toNat < 0xc0) := by
  unfold finish? at h
  by_cases hvalid : n.isValidChar
  · rw [dif_pos hvalid] at h
    by_cases hwhole : (least ≤ n && tail.all isContinuation) = true
    · rw [if_pos hwhole] at h
      obtain rfl := congrArg Prod.fst (Option.some.inj h)
      rw [Bool.and_eq_true, decide_eq_true_iff, List.all_eq_true] at hwhole
      refine ⟨rfl, hwhole.1, ?_⟩
      intro b hb
      have hb := hwhole.2 b hb
      rw [isContinuation, Bool.and_eq_true, decide_eq_true_iff, decide_eq_true_iff, UInt8.le_iff_toNat_le,
        UInt8.lt_iff_toNat_lt] at hb
      exact hb
    · rw [if_neg hwhole] at h
      cases h
  · rw [dif_neg hvalid] at h
    cases h

/-- A byte is the one with its number. -/
lemma ofNat_of_toNat {b : UInt8} {n : Nat} (h : b.toNat = n) : UInt8.ofNat n = b := by
  rw [← h, UInt8.ofNat_toNat]

/-- The bytes from which a character is read are those of the character. -/
lemma encodeChar_append_of_decodeHead? {bs rest : List UInt8} {c : Char} (h : decodeHead? bs = some (c, rest)) :
    String.utf8EncodeChar c ++ rest = bs := by
  unfold decodeHead? at h
  split at h
  case h_1 => cases h
  case h_2 b0 after =>
    simp only [UInt8.lt_iff_toNat_lt, UInt8.reduceToNat] at h
    unfold String.utf8EncodeChar
    simp only [show c.val.toNat = c.toNat from rfl]
    -- one case per first byte; the least number of a case keeps shorter forms out
    split at h
    case isTrue hlead =>
      obtain ⟨hc, -, -⟩ := finish?_eq_some h
      rw [finish?_rest h, if_pos (by omega), ofNat_of_toNat hc.symm]
      rfl
    case isFalse =>
    split at h
    case isTrue => cases h
    case isFalse =>
    split at h
    case isTrue =>
      split at h
      case h_1 b1 after =>
        obtain ⟨hc, hleast, htail⟩ := finish?_eq_some h
        have h1 := htail b1 (by simp)
        unfold payload at hc hleast
        rw [finish?_rest h, if_neg (by omega), if_pos (by omega), ofNat_of_toNat (b := b0) (by omega),
          ofNat_of_toNat (b := b1) (by omega)]
        rfl
      case h_2 => cases h
    case isFalse =>
    split at h
    case isTrue =>
      split at h
      case h_1 b1 b2 after =>
        obtain ⟨hc, hleast, htail⟩ := finish?_eq_some h
        have h1 := htail b1 (by simp)
        have h2 := htail b2 (by simp)
        unfold payload at hc hleast
        rw [finish?_rest h, if_neg (by omega), if_neg (by omega), if_pos (by omega),
          ofNat_of_toNat (b := b0) (by omega), ofNat_of_toNat (b := b1) (by omega),
          ofNat_of_toNat (b := b2) (by omega)]
        rfl
      case h_2 => cases h
    case isFalse =>
    split at h
    case isTrue =>
      split at h
      case h_1 b1 b2 b3 after =>
        obtain ⟨hc, hleast, htail⟩ := finish?_eq_some h
        have h1 := htail b1 (by simp)
        have h2 := htail b2 (by simp)
        have h3 := htail b3 (by simp)
        unfold payload at hc hleast
        rw [finish?_rest h, if_neg (by omega), if_neg (by omega), if_neg (by omega),
          ofNat_of_toNat (b := b0) (by omega), ofNat_of_toNat (b := b1) (by omega),
          ofNat_of_toNat (b := b2) (by omega), ofNat_of_toNat (b := b3) (by omega)]
        rfl
      case h_2 => cases h
    case isFalse => cases h

/-! ## Texts -/

/-- A character that can be read is not left out. -/
lemma decodeDropping_of_head {bs rest : List UInt8} {c : Char} (h : decodeHead? bs = some (c, rest)) :
    decodeDropping bs = c :: decodeDropping rest := by
  cases bs with
  | nil => cases h
  | cons b tail =>
    rw [decodeDropping]
    split
    case h_1 hnone =>
      rw [h] at hnone
      cases hnone
    case h_2 c' rest' hsome =>
      rw [h] at hsome
      cases hsome
      rfl

/-- A text is encoded character by character. -/
lemma encode_cons (c : Char) (s : List Char) : encode (c :: s) = String.utf8EncodeChar c ++ encode s :=
  List.flatMap_cons

/-- A text reads back from its bytes. -/
lemma decodeDropping_encode (s : List Char) : decodeDropping (encode s) = s := by
  induction s with
  | nil => rw [encode, List.flatMap_nil, decodeDropping]
  | cons c s ih => rw [encode_cons, decodeDropping_of_head (decodeHead?_encodeChar c _), ih]

/-- A text reads back from its bytes, all of which are taken. -/
lemma decode?_encode (s : List Char) : decode? (encode s) = some s := by
  induction s with
  | nil =>
    rw [decode?]
    rfl
  | cons c s ih =>
    have hhead := decodeHead?_encodeChar c (encode s)
    have hne : (String.utf8EncodeChar c ++ encode s).isEmpty = false := by
      cases hbytes : String.utf8EncodeChar c ++ encode s with
      | nil =>
        rw [hbytes] at hhead
        cases hhead
      | cons b bs => rfl
    rw [encode_cons, decode?, hne, if_neg Bool.false_ne_true]
    split
    case h_1 hnone =>
      rw [hhead] at hnone
      cases hnone
    case h_2 c' rest hsome =>
      rw [hhead] at hsome
      cases hsome
      rw [ih]
      rfl

/-- Bytes that can be read are those of the text that is read. -/
lemma decode?_eq_some_iff {bs : List UInt8} {s : List Char} : decode? bs = some s ↔ bs = encode s := by
  constructor
  · intro h
    fun_induction decode? bs generalizing s with
    | case1 bs hempty =>
      cases h
      exact List.isEmpty_iff.1 hempty
    | case2 bs _ hhead => cases h
    | case3 bs _ c rest hhead ih =>
      obtain ⟨t, ht, rfl⟩ := Option.map_eq_some_iff.1 h
      rw [encode_cons, ← ih ht, encodeChar_append_of_decodeHead? hhead]
  · rintro rfl
    exact decode?_encode s

/-- Different texts have different bytes. -/
lemma encode_injective {s t : List Char} (h : encode s = encode t) : s = t := by
  have hdecoded := congrArg decode? h
  rw [decode?_encode, decode?_encode] at hdecoded
  exact Option.some.inj hdecoded

/-- Texts are told apart by their bytes. -/
lemma encodeText_injective {s s' : String} (h : encodeText s = encodeText s') : s = s' :=
  String.toList_injective (encode_injective h)

/-- Texts that follow each other are encoded one after the other. -/
lemma encode_append (s t : List Char) : encode (s ++ t) = encode s ++ encode t :=
  List.flatMap_append

/-- The bytes between two places of a text are those of the text between them. -/
lemma take_drop_encode (before s after : List Char) :
    ((encode (before ++ (s ++ after))).drop (encode before).length).take (encode s).length = encode s := by
  rw [encode_append, List.drop_left, encode_append, List.take_left]

/-! ## Characters of one byte -/

/-- A byte below 128 is the only one of its character. -/
lemma toNat_of_mem_encodeChar {c : Char} {b : UInt8} (hb : b.toNat < 0x80)
    (h : b ∈ String.utf8EncodeChar c) : c.toNat = b.toNat := by
  have hhigh {n : Nat} (hlow : 0x80 ≤ n) (hn : n < 256) : b ≠ UInt8.ofNat n := by
    rintro rfl
    rw [toNat_ofNat_byte hn] at hb
    omega
  unfold String.utf8EncodeChar at h
  simp only [show c.val.toNat = c.toNat from rfl] at h
  split at h
  case isTrue hc =>
    rw [List.mem_singleton] at h
    rw [h, toNat_ofNat_byte (by omega)]
  case isFalse =>
  -- all bytes of a longer character are above
  split at h
  case isTrue =>
    simp only [List.mem_cons, List.not_mem_nil, or_false] at h
    rcases h with h | h
    all_goals exact absurd h (hhigh (by omega) (by omega))
  case isFalse =>
  split at h
  case isTrue =>
    simp only [List.mem_cons, List.not_mem_nil, or_false] at h
    rcases h with h | h | h
    all_goals exact absurd h (hhigh (by omega) (by omega))
  case isFalse =>
    simp only [List.mem_cons, List.not_mem_nil, or_false] at h
    rcases h with h | h | h | h
    all_goals exact absurd h (hhigh (by omega) (by omega))

/-- What follows a character stands at the end, and a character of one byte is that byte. -/
lemma decodeHead?_eq_some {bs rest : List UInt8} {c : Char} (h : decodeHead? bs = some (c, rest)) :
    rest <:+ bs ∧ (c.toNat < 0x80 → ∃ b ∈ bs, b.toNat = c.toNat) := by
  rw [← encodeChar_append_of_decodeHead? h]
  refine ⟨List.suffix_append _ _, ?_⟩
  intro hlow
  refine ⟨UInt8.ofNat c.toNat, List.mem_append_left _ ?_, toNat_ofNat_byte (by omega)⟩
  unfold String.utf8EncodeChar
  simp only [show c.val.toNat = c.toNat from rfl]
  rw [if_pos (Nat.le_of_lt_succ hlow)]
  exact List.mem_cons_self

/-- A character of one byte is read from such a byte alone. -/
lemma exists_byte_of_mem_decodeDropping {bs : List UInt8} {c : Char} (hc : c.toNat < 0x80)
    (h : c ∈ decodeDropping bs) : ∃ b ∈ bs, b.toNat = c.toNat := by
  fun_induction decodeDropping bs with
  | case1 => cases h
  | case2 b tail _ ih =>
    obtain ⟨b', hb', heq⟩ := ih h
    exact ⟨b', List.mem_cons_of_mem _ hb', heq⟩
  | case3 b tail c' rest hhead ih =>
    obtain ⟨hsuffix, hbyte⟩ := decodeHead?_eq_some hhead
    rcases List.mem_cons.1 h with rfl | hrest
    · exact hbyte hc
    · obtain ⟨b', hb', heq⟩ := ih hrest
      exact ⟨b', hsuffix.subset hb', heq⟩

/-- A character of one byte that is read from some bytes of a text stands in the text. -/
lemma mem_of_mem_decodeDropping {s : List Char} {bs : List UInt8} {c : Char} (hc : c.toNat < 0x80)
    (hbs : bs ⊆ encode s) (h : c ∈ decodeDropping bs) : c ∈ s := by
  obtain ⟨b, hb, heq⟩ := exists_byte_of_mem_decodeDropping hc h
  obtain ⟨c', hc', hmem⟩ := List.mem_flatMap.1 (hbs hb)
  have hnumber := toNat_of_mem_encodeChar (by omega) hmem
  obtain rfl : c' = c := Char.toNat_inj.1 (hnumber.trans heq)
  exact hc'

end PropertyQuote.Text.Utf8
