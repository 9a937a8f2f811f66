import PropertyQuote.Text.Utf8

/-!
# Texts in wide characters

Texts whose characters take two or four bytes each.  A text that starts with a character of ASCII shows by its
null bytes how wide its characters are and which byte of them comes first.
-/

namespace PropertyQuote.Text

/-- How the characters of a text are written as bytes. -/
inductive Width where
  /-- As UTF-8, without a mark in front. -/
  | narrow
  /-- In units of two bytes. -/
  | double (highFirst : Bool)
  /-- In units of four bytes. -/
  | quadruple (highFirst : Bool)
deriving DecidableEq, Repr

/-- The width of a text of at least two bytes by where its null bytes stand. -/
def widthOf : List UInt8 → Width
  | 0 :: 0 :: _ :: _ :: _ => .quadruple true
  | 0 :: _ :: _ :: _ :: _ => .double true
  | _ :: 0 :: 0 :: 0 :: _ => .quadruple false
  | _ :: 0 :: _ :: _ :: _ => .double false
  | [0, _] => .double true
  | [_, 0] => .double false
  | _ => .narrow

/-- The number that two bytes write. -/
def pairValue (highFirst : Bool) (a b : UInt8) : Nat :=
  if highFirst then 0x100 * a.toNat + b.toNat else a.toNat + 0x100 * b.toNat

/-- The units of two bytes; none if a byte is left over. -/
def pairs? (highFirst : Bool) : List UInt8 → Option (List Nat)
  | [] => some []
  | a :: b :: rest => (pairs? highFirst rest).map (pairValue highFirst a b :: ·)
  | [_] => none

/-- The first half of a character in two units. -/
def isLeading (n : Nat) : Bool :=
  0xd800 ≤ n && n < 0xdc00

/-- The second half of a character in two units. -/
def isTrailing (n : Nat) : Bool :=
  0xdc00 ≤ n && n < 0xe000

/-- A character by its number; half of a character is replaced. -/
def charOf (n : Nat) : Char :=
  if isLeading n || isTrailing n then '\ufffd' else Char.ofNat n

/-- The characters of some numbers; two halves that follow each other are one character. -/
def joinHalves : List Nat → List Char
  | hi :: lo :: rest =>
    if isLeading hi && isTrailing lo then
      Char.ofNat (0x10000 + (hi - 0xd800) * 0x400 + (lo - 0xdc00)) :: joinHalves rest
    else charOf hi :: joinHalves (lo :: rest)
  | [n] => [charOf n]
  | [] => []

/-- The units of four bytes. -/
def quadruples? (highFirst : Bool) : List Nat → Option (List Nat)
  | [] => some []
  | a :: b :: rest =>
    let n := if highFirst then 0x10000 * a + b else a + 0x10000 * b
    if n < 0x110000 then (quadruples? highFirst rest).map (n :: ·) else none
  | [_] => none

/-- The characters of a text of the given width. -/
def decodeWide? (bytes : List UInt8) : Width → Option (List Char)
  | .narrow =>
    (Utf8.decode? bytes).map fun cs => if cs.head? == some '\ufeff' then cs.tail else cs
  | .double highFirst => (pairs? highFirst bytes).map joinHalves
  | .quadruple highFirst =>
    ((pairs? highFirst bytes).bind (quadruples? highFirst)).map fun ns => ns.map charOf

/-- The characters of a text of any width.  A mark in front of UTF-8 does not count. -/
def decodeAny? (bytes : List UInt8) : Option (List Char) :=
  decodeWide? bytes (widthOf bytes)

end PropertyQuote.Text
