import PropertyQuote.Text.Displayed
import PropertyQuote.Text.Hex
import PropertyQuote.Text.Lines

/-!
# Addresses of requests

The path that the address of a request names.  An address may be whole, with a scheme and a host, or only the part
behind the host; queries and fragments do not count.
-/

namespace PropertyQuote.Service

/-- What is wrong with an address. -/
inductive AddressFault where
  | tooLong
  /-- A control character stands at a position. -/
  | control (c : Char) (position : Nat)
  /-- A path without a host starts with two slashes. -/
  | doubleSlash
  /-- A path without a host starts with a colon. -/
  | colon
deriving DecidableEq, Repr

/-- The text of a fault. -/
def AddressFault.message : AddressFault → String
  | tooLong => "URL too long"
  | control c position =>
    "Invalid non-printable ASCII character in URL, " ++ Text.displayed (String.singleton c) ++
      " at position " ++ toString position ++ "."
  | doubleSlash => "Relative URLs cannot have a path starting with \x27//\x27"
  | colon => "Relative URLs cannot have a path starting with \x27:\x27"

/-- The parts of an address that count: whether it has a scheme and a host, and its path. -/
structure Address where
  hasScheme : Bool
  hasHost : Bool
  path : List Char
deriving DecidableEq, Repr

/-- Characters of a scheme. -/
def isSchemePart (c : Char) : Bool :=
  c.isAlphanum || c == '+' || c == '.' || c == '-'

/-- Cuts the scheme off, with its colon. -/
def cutScheme (s : List Char) : List Char × List Char :=
  let word := s.takeWhile isSchemePart
  match s.drop word.length with
  | ':' :: rest => if (word.head?.map Char.isAlpha).getD true then (word, rest) else ([], s)
  | _ => ([], s)

/-- Cuts the host off, with the two slashes before it. -/
def cutHost (s : List Char) : List Char × List Char :=
  let isHost (c : Char) : Bool := c != '/' && c != '?' && c != '#'
  match s with
  | '/' :: '/' :: rest => (rest.takeWhile isHost, rest.dropWhile isHost)
  | _ => ([], s)

/-- The parts of an address. -/
def Address.ofText (s : List Char) : Address :=
  let (scheme, s) := cutScheme s
  let (host, s) := cutHost s
  ⟨!scheme.isEmpty, !host.isEmpty, s.takeWhile fun c => c != '?' && c != '#'⟩

/-- Whether a character may not stand in an address. -/
def isControl (c : Char) : Bool :=
  c.toNat < 0x20 || c.toNat == 0x7f

/-- What is wrong with an address, if anything is. -/
def addressFault? (s : List Char) : Option AddressFault :=
  let a := Address.ofText s
  if 65536 < s.length then some .tooLong
  else
    match s.find? isControl with
    | some c => some (.control c (s.takeWhile (!isControl ·)).length)
    | none =>
      if a.hasScheme || a.hasHost then none
      else if ['/', '/'].isPrefixOf a.path then some .doubleSlash
      else if [':'].isPrefixOf a.path then some .colon
      else none

/-- Takes a step from the names so far: back for two dots, nowhere for one. -/
def stepName (above : List String) (name : String) : List String :=
  if name == "." then above
  else if name == ".." then (if above == [""] then above else above.dropLast)
  else above ++ [name]

/-- A path without single and double dots as names. -/
def withoutDots (path : List Char) : List Char :=
  ("/".intercalate ((Text.splitOnChar '/' (String.ofList path)).foldl stepName [])).toList

/-- Replaces numbered bytes behind percent signs by their characters.  Bytes beyond ASCII stand for characters that
no path here has, and are all replaced by the same one. -/
def unquote : List Char → List Char
  | '%' :: a :: b :: rest =>
    match Text.hexValue? a, Text.hexValue? b with
    | some hi, some lo =>
      let n := 16 * hi + lo
      (if n < 0x80 then Char.ofNat n else '\ufffd') :: unquote rest
    | _, _ => '%' :: unquote (a :: b :: rest)
  | c :: rest => c :: unquote rest
  | [] => []

/-- The path that an address names.  Percent signs count twice, slashes at the end do not count, and neither does
a line feed before them. -/
def Address.route (a : Address) : List Char :=
  let whole := a.hasScheme && a.hasHost
  let path := withoutDots (if whole then a.path else '/' :: a.path.dropWhile (· == '/'))
  let path := ((unquote (unquote path)).reverse.dropWhile (· == '/')).reverse
  if path.getLast? == some '\n' then path.dropLast else path

/-- The path that the text of an address names. -/
def routeOf (text : String) : Except AddressFault (List Char) :=
  match addressFault? text.toList with
  | some fault => .error fault
  | none => .ok (Address.ofText text.toList).route

end PropertyQuote.Service
