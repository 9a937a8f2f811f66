/-!
# UTF-8

Texts as bytes.  `decode?` refuses bytes that are no UTF-8, `decodeDropping` leaves them out.
-/

namespace PropertyQuote.Text.Utf8

/-- A byte that continues a character: its two high bits are `10`. -/
def isContinuation (b : UInt8) : Bool :=
  0x80 ≤ b && b < 0xc0

/-- The bits that a continuation byte carries. -/
def payload (b : UInt8) : Nat :=
  b.toNat % 0x40

/-- The character with number `n` in front of `rest`, if `n` is at least `least` (so that no shorter
form would do), is no surrogate, and all of `tail` continue it. -/
def finish? (n least : Nat) (tail rest : List UInt8) : Option (Char × List UInt8) :=
  if h : n.isValidChar then
    if least ≤ n && tail.all isContinuation then some (Char.ofNatAux n h, rest) else none
  else none

/-- The bytes of a character are taken, and the rest is left. -/
theorem finish?_rest {n least : Nat} {tail rest rest' : List UInt8} {c : Char}
    (h : finish? n least tail rest = some (c, rest')) : rest' = rest := by
  unfold finish? at h
  by_cases hvalid : n.isValidChar
  · rw [dif_pos hvalid] at h
    by_cases hwhole : (least ≤ n && tail.all isContinuation) = true
    · rw [if_pos hwhole] at h
      exact (Prod.mk.inj (Option.some.inj h)).2.symm
    · rw [if_neg hwhole] at h
      cases h
  · rw [dif_neg hvalid] at h
    cases h

/-- The first character of some bytes and the bytes after it.  There is none if the bytes start
with a continuation, are cut short, hold an overlong form or a surrogate. -/
def decodeHead? : List UInt8 → Option (Char × List UInt8)
  | [] => none
  | b0 :: rest =>
    if b0 < 0x80 then finish? b0.toNat 0 [] rest
    else if b0 < 0xc0 then none
    else if b0 < 0xe0 then
      match rest with
      | b1 :: rest => finish? (b0.toNat % 0x20 * 0x40 + payload b1) 0x80 [b1] rest
      | _ => none
    else if b0 < 0xf0 then
      match rest with
      | b1 :: b2 :: rest =>
        finish? (b0.toNat % 0x10 * 0x1000 + payload b1 * 0x40 + payload b2) 0x800 [b1, b2] rest
      | _ => none
    else if b0 < 0xf8 then
      match rest with
      | b1 :: b2 :: b3 :: rest =>
        finish? (b0.toNat % 0x08 * 0x40000 + payload b1 * 0x1000 + payload b2 * 0x40 + payload b3)
          0x10000 [b1, b2, b3] rest
      | _ => none
    else none

/-- Decoding a character uses at least one byte. -/
theorem decodeHead?_length {bs rest : List UInt8} {c : Char}
    (h : decodeHead? bs = some (c, rest)) : rest.length < bs.length := by
  unfold decodeHead? at h
  repeat' split at h
  all_goals first
    | exact absurd h (by simp)
    | (rw [finish?_rest h]; simp only [List.length_cons]; omega)

/-- The characters of some bytes, if all of them are UTF-8. -/
def decode? (bs : List UInt8) : Option (List Char) :=
  if bs.isEmpty then some []
  else
    match _h : decodeHead? bs with
    | none => none
    | some (c, rest) => (decode? rest).map (c :: ·)
termination_by bs.length
decreasing_by exact decodeHead?_length _h

/-- The characters of some bytes, leaving out every byte at which no character starts. -/
def decodeDropping (bs : List UInt8) : List Char :=
  match bs with
  | [] => []
  | b :: tail =>
    match _h : decodeHead? (b :: tail) with
    | none => decodeDropping tail
    | some (c, rest) => c :: decodeDropping rest
termination_by bs.length
decreasing_by
  · simp
  · exact decodeHead?_length _h

/-- The bytes of a text. -/
def encode (s : List Char) : List UInt8 :=
  s.flatMap String.utf8EncodeChar

/-- `decode?` on strings. -/
def decodeText? (bs : List UInt8) : Option String :=
  (decode? bs).map String.ofList

/-- `encode` on strings. -/
def encodeText (s : String) : List UInt8 :=
  encode s.toList

end PropertyQuote.Text.Utf8
