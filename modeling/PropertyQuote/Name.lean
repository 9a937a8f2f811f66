import PropertyQuote.Text.Blank

/-!
# Dotted names

Names of namespaces and types as they stand in source text: segments joined by dots, `::` after an
alias, blanks anywhere between them.
-/

namespace PropertyQuote.Name

/-- Replaces each `::` by a dot, from left to right. -/
def dotted : List Char → List Char
  | ':' :: ':' :: rest => '.' :: dotted rest
  | c :: rest => c :: dotted rest
  | [] => []

/-- The text without one leading `global::`. -/
def withoutGlobal (s : List Char) : List Char :=
  if "global::".toList.isPrefixOf s then s.drop 8 else s

/-- The dotted form of a written name: no blanks, no leading `global::`, and a dot for each `::`. -/
def normalise (s : List Char) : List Char :=
  dotted (withoutGlobal (s.filter fun c => !Text.isBlank c))

/-- `normalise` on strings. -/
def normalised (s : String) : String :=
  String.ofList (normalise s.toList)

/-- A name inside a namespace; the empty name is the global namespace. -/
def join (ns name : String) : String :=
  if ns.isEmpty then name else ns ++ "." ++ name

/-- The part of a name after its last dot. -/
def last (s : List Char) : List Char :=
  (s.reverse.takeWhile (· != '.')).reverse

/-- The part of a name before its last dot; empty if it has none. -/
def init (s : List Char) : List Char :=
  ((s.reverse.dropWhile (· != '.')).drop 1).reverse

/-- A name gets shorter when its last segment is cut off. -/
theorem length_init_lt {s : List Char} (h : s ≠ []) : (init s).length < s.length := by
  have hpos := List.length_pos_iff.2 h
  have hle : (s.reverse.dropWhile (· != '.')).length ≤ s.reverse.length :=
    (List.dropWhile_sublist _).length_le
  simp only [init, List.length_reverse, List.length_drop] at *
  omega

/-- The namespaces around a position in namespace `s`: itself, each one that encloses it, and last the
global one. -/
def enclosing (s : List Char) : List (List Char) :=
  if _h : s = [] then [[]] else s :: enclosing (init s)
termination_by s.length
decreasing_by exact length_init_lt _h

/-- `enclosing` on strings. -/
def chain (ns : String) : List String :=
  (enclosing ns.toList).map String.ofList

/-- A reference to a type by name: what stands before the last dot, if anything, and the simple name. -/
structure Reference where
  qualifier : Option String
  name : String
deriving DecidableEq, Repr

/-- An empty qualifier is none. -/
def qualifier? (s : String) : Option String :=
  if s.isEmpty then none else some s

/-- Splits a written name at its last dot, leaving out type arguments. -/
def split (written : String) : Reference :=
  let text := (normalise written.toList).takeWhile (· != '<')
  ⟨qualifier? (String.ofList (init text)), String.ofList (last text)⟩

end PropertyQuote.Name
