import PropertyQuote.Json.Basic
import PropertyQuote.Text.Hex

/-!
# Writing JSON

One printer with two styles: everything on one line with characters as they are, or one item per line
in plain ASCII.
-/

namespace PropertyQuote.Json

/-- How JSON is laid out. -/
structure Style where
  /-- Whether every item gets a line of its own, indented by two blanks per level. -/
  lines : Bool
  /-- Whether characters beyond ASCII are written as numbers. -/
  ascii : Bool

/-- The style of one-line texts. -/
def Style.compact : Style := ⟨false, false⟩

/-- The style of files that people read. -/
def Style.indented : Style := ⟨true, true⟩

/-- A character as a number, above U+FFFF as two surrogates. -/
def numbered (n : Nat) : List Char :=
  if n < 0x10000 then '\\' :: 'u' :: Text.hex 4 n
  else
    '\\' :: 'u' :: Text.hex 4 (0xd800 + (n - 0x10000) / 0x400) ++
      '\\' :: 'u' :: Text.hex 4 (0xdc00 + (n - 0x10000) % 0x400)

/-- A character between the quotes of a string. -/
def escape (ascii : Bool) (c : Char) : List Char :=
  match c with
  | '"' => ['\\', '"']
  | '\\' => ['\\', '\\']
  | '\n' => ['\\', 'n']
  | '\r' => ['\\', 'r']
  | '\t' => ['\\', 't']
  | '\x08' => ['\\', 'b']
  | '\x0c' => ['\\', 'f']
  | c => if c.toNat < 0x20 || (ascii && 0x7e < c.toNat) then numbered c.toNat else [c]

/-- A string in quotes. -/
def quoted (ascii : Bool) (s : String) : List Char :=
  '"' :: s.toList.flatMap (escape ascii) ++ ['"']

/-- What stands before an item at the given depth. -/
def Style.lead (style : Style) (depth : Nat) : List Char :=
  if style.lines then '\n' :: List.replicate (2 * depth) ' ' else []

/-- What stands between two items. -/
def Style.comma (style : Style) : List Char :=
  if style.lines then [','] else [',', ' ']

/-- Joins the written items of an array or an object. -/
def Style.enclose (style : Style) (depth : Nat) (opening closing : Char) (items : List (List Char)) :
    List Char :=
  if items.isEmpty then [opening, closing]
  else
    opening :: (style.comma.intercalate (items.map (style.lead (depth + 1) ++ ·))) ++
      style.lead depth ++ [closing]

mutual

/-- A value at the given depth.  The values that are written hold no fractions; a fraction would be
written as null. -/
def chars (style : Style) (depth : Nat) : Json → List Char
  | null => "null".toList
  | bool b => (if b then "true" else "false").toList
  | int n => (toString n).toList
  | float _ => "null".toList
  | str s => quoted style.ascii s
  | arr items => style.enclose depth '[' ']' (itemChars style (depth + 1) items)
  | obj fields => style.enclose depth '\x7b' '\x7d' (fieldChars style (depth + 1) fields)

/-- The items of an array. -/
def itemChars (style : Style) (depth : Nat) : List Json → List (List Char)
  | [] => []
  | item :: rest => chars style depth item :: itemChars style depth rest

/-- The fields of an object. -/
def fieldChars (style : Style) (depth : Nat) : List (String × Json) → List (List Char)
  | [] => []
  | (name, value) :: rest =>
    (quoted style.ascii name ++ ':' :: ' ' :: chars style depth value) :: fieldChars style depth rest

end

/-- The text of a value. -/
def render (style : Style) (value : Json) : String :=
  String.ofList (chars style 0 value)

end PropertyQuote.Json
