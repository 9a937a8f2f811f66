/-!
# Glob patterns

Patterns for file names: `*` stands for any run of characters, `?` for any one character, and a set in
brackets for one of the characters it lists.  `read` turns a pattern into its parts, `matchesAll` says when
parts match a whole text, and `matchRow` decides it in one walk over the text.
-/

namespace PropertyQuote.Text.Glob

/-- A part of a pattern. -/
inductive Part where
  /-- Any run of characters, also none. -/
  | run
  /-- Any one character. -/
  | any
  /-- One given character. -/
  | exactly (c : Char)
  /-- One character from the given ranges, or from none of them. -/
  | oneOf (negated : Bool) (ranges : List (Char × Char))
deriving DecidableEq, Repr

/-- Whether a character lies in one of some ranges. -/
def inRanges (ranges : List (Char × Char)) (c : Char) : Bool :=
  ranges.any fun (low, high) => low.toNat ≤ c.toNat && c.toNat ≤ high.toNat

/-- Whether a part that stands for one character allows `c`. -/
def Part.allows (c : Char) : Part → Bool
  | run => false
  | any => true
  | exactly d => c == d
  | oneOf negated ranges => inRanges ranges c != negated

/-- A text and everything that remains of it when characters are taken from its start. -/
def suffixes : List Char → List (List Char)
  | [] => [[]]
  | c :: rest => (c :: rest) :: suffixes rest

/-- Whether the parts of a pattern match a whole text. -/
def matchesAll : List Part → List Char → Bool
  | [], text => text.isEmpty
  | .run :: parts, text => (suffixes text).any (matchesAll parts)
  | _ :: _, [] => false
  | part :: parts, c :: text => part.allows c && matchesAll parts text

/-! ## Matching step by step

`matchesAll` tries every way to share a text out among the runs of a pattern.  The same answer comes from one
walk over the text that keeps, for every rest of the pattern, whether it matches what was walked over. -/

/-- Which rests of a pattern match the empty text, the whole pattern first. -/
def emptyRow : List Part → List Bool
  | [] => [true]
  | .run :: parts =>
    let rest := emptyRow parts
    rest.headD false :: rest
  | _ :: parts => false :: emptyRow parts

/-- Which rests of a pattern match a text with `c` in front, from the same for the text without it. -/
def nextRow (c : Char) : List Part → List Bool → List Bool
  | [], _ => [false]
  | part :: parts, row =>
    let rest := nextRow c parts row.tail
    let here := match part with
      | .run => rest.headD false || row.headD false
      | part => part.allows c && row.tail.headD false
    here :: rest

/-- Which rests of a pattern match a text. -/
def matchRow (parts : List Part) : List Char → List Bool
  | [] => emptyRow parts
  | c :: text => nextRow c parts (matchRow parts text)

/-- The answers of `matchesAll` for all rests of a pattern. -/
def answers (text : List Char) : List Part → List Bool
  | [] => [matchesAll [] text]
  | part :: parts => matchesAll (part :: parts) text :: answers text parts

/-- The first answer is that for all parts. -/
theorem answers_headD (text : List Char) (parts : List Part) :
    (answers text parts).headD false = matchesAll parts text := by
  cases parts <;> rfl

/-- The row for the empty text holds its answers. -/
theorem emptyRow_eq (parts : List Part) : emptyRow parts = answers [] parts := by
  induction parts with
  | nil => rfl
  | cons part parts ih =>
    cases part <;> simp only [emptyRow, answers, ih, answers_headD] <;> simp [matchesAll, suffixes]

/-- The row for a text follows from that for the text without its first character. -/
theorem nextRow_eq (c : Char) (text : List Char) (parts : List Part) :
    nextRow c parts (answers text parts) = answers (c :: text) parts := by
  induction parts with
  | nil => rfl
  | cons part parts ih =>
    cases part <;>
      simp only [nextRow, answers, List.tail_cons, ih, answers_headD, List.headD_cons] <;>
      simp [matchesAll, suffixes]

/-- The walk over the text gives the same answer. -/
theorem matchRow_headD (parts : List Part) (text : List Char) :
    (matchRow parts text).headD false = matchesAll parts text := by
  have h : matchRow parts text = answers text parts := by
    induction text with
    | nil => exact emptyRow_eq parts
    | cons c text ih => rw [matchRow, ih, nextRow_eq]
  rw [h, answers_headD]

/-! ## Sets -/

/-- The text of a set after its opening bracket, and what follows its closing one.  An exclamation mark
and then a closing bracket may stand first without ending the set. -/
def takeSet? (s : List Char) : Option (List Char × List Char) :=
  let mark := s.takeWhile (· == '!') |>.take 1
  let s := s.drop mark.length
  let bracket := s.takeWhile (· == ']') |>.take 1
  let s := s.drop bracket.length
  match s.dropWhile (· != ']') with
  | [] => none
  | _ :: rest => some (mark ++ bracket ++ s.takeWhile (· != ']'), rest)

/-- What follows a set is shorter than what it was read from. -/
theorem takeSet?_length {s body rest : List Char} (h : takeSet? s = some (body, rest)) :
    rest.length < s.length := by
  unfold takeSet? at h
  simp only at h
  split at h
  · cases h
  · rename_i d rest' heq
    simp only [Option.some.injEq, Prod.mk.injEq] at h
    have hle := (List.dropWhile_sublist (· != ']')
      (l := (s.drop ((s.takeWhile (· == '!')).take 1).length).drop
        (((s.drop ((s.takeWhile (· == '!')).take 1).length).takeWhile (· == ']')).take 1).length)).length_le
    rw [heq] at hle
    simp only [List.length_cons, List.length_drop] at hle
    rw [← h.2]
    omega

/-- Cuts the text of a set at the hyphens that make ranges: such a hyphen has at least `skip` characters
between it and the one before. -/
def chunks (skip : Nat) (current : List Char) : List Char → List (List Char)
  | [] => [current.reverse]
  | c :: rest =>
    if skip == 0 && c == '-' then current.reverse :: chunks 2 [] rest
    else chunks (skip - 1) (c :: current) rest

/-- A hyphen at the very end makes no range and stands for itself. -/
def closeLast : List (List Char) → List (List Char)
  | [chunk, []] => [chunk ++ ['-']]
  | chunk :: rest => chunk :: closeLast rest
  | [] => []

/-- Joins a chunk with those after it, leaving out a range that runs backwards. -/
def joinChunk (chunk : List Char) : List (List Char) → List (List Char)
  | next :: rest =>
    match chunk.getLast?, next.head? with
    | some low, some high =>
      if low.toNat > high.toNat then (chunk.dropLast ++ next.tail) :: rest else chunk :: next :: rest
    | _, _ => chunk :: next :: rest
  | [] => [chunk]

/-- A sign of a set: a character, or the hyphen between the ends of a range. -/
inductive Sign where
  | char (c : Char)
  | upTo
deriving DecidableEq, Repr

/-- The signs of the text of a set. -/
def signs (body : List Char) : List Sign :=
  let parts := closeLast (chunks (if body.head? == some '!' then 2 else 1) [] body)
  [Sign.upTo].intercalate ((parts.foldr joinChunk []).map (·.map Sign.char))

/-- The ranges that signs stand for; a single character is a range of its own. -/
def ranges : List Sign → List (Char × Char)
  | .char low :: .upTo :: .char high :: rest => (low, high) :: ranges rest
  | .char c :: rest => (c, c) :: ranges rest
  | .upTo :: rest => ('-', '-') :: ranges rest
  | [] => []

/-- The part that the text of a set stands for: a leading exclamation mark negates it. -/
def setPart (body : List Char) : Part :=
  match signs body with
  | .char '!' :: rest => .oneOf true (ranges rest)
  | all => .oneOf false (ranges all)

/-- The parts of a pattern.  A bracket that is never closed stands for itself. -/
def read : List Char → List Part
  | [] => []
  | '*' :: rest => .run :: read rest
  | '?' :: rest => .any :: read rest
  | '[' :: rest =>
    match _h : takeSet? rest with
    | some (body, rest) => setPart body :: read rest
    | none => .exactly '[' :: read rest
  | c :: rest => .exactly c :: read rest
termination_by s => s.length
decreasing_by
  all_goals simp_wf
  have := takeSet?_length _h
  omega

/-- Whether a pattern matches a whole text. -/
def accepts (pattern text : String) : Bool :=
  (matchRow (read pattern.toList) text.toList).headD false

/-- Matching row by row is matching part by part. -/
theorem accepts_eq (pattern text : String) :
    accepts pattern text = matchesAll (read pattern.toList) text.toList :=
  matchRow_headD _ _

end PropertyQuote.Text.Glob
