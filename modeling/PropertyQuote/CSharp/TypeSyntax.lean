import PropertyQuote.CSharp.Syntax
import PropertyQuote.CSharp.Token

/-!
# Reading types and names

Types and names at the start of a list of token trees, as nodes.  Every step takes at least one tree, so
the length of the list bounds the depth of the recursion.
-/

namespace PropertyQuote.CSharp

/-- A node in no particular role. -/
def Node.plain (kind : NodeKind) (start stop : Nat) (children : List Node) : Node :=
  .mk kind .other true start stop children

/-- The same node in another role. -/
def Node.withRole (n : Node) (role : Role) : Node :=
  .mk n.kind role n.named n.start n.stop n.children

/-- A node of a kind for one tree. -/
def TokenTree.node (t : TokenTree) (kind : NodeKind) : Node :=
  .plain kind t.start t.stop []

/-- The types named by keywords. -/
def predefinedTypes : List String :=
  ["bool", "byte", "sbyte", "char", "decimal", "double", "float", "int", "uint", "long", "ulong",
   "short", "ushort", "object", "string", "void", "nint", "nuint"]

/-- Whether a tree is the empty brackets of an array type. -/
def isArrayRank : TokenTree → Bool
  | .group bracket _ _ items => bracket == '[' && items.all (·.isMark ",")
  | .leaf _ => false

/-- A type with the marks after it: a question mark, a star, or the brackets of an array. -/
def typeSuffixes (n : Node) : List TokenTree → Node × List TokenTree
  | [] => (n, [])
  | t :: rest =>
    if t.isMark "?" then typeSuffixes (.plain .nullableType n.start t.stop [n]) rest
    else if t.isMark "*" || isArrayRank t then typeSuffixes (.plain .other n.start t.stop [n]) rest
    else (n, t :: rest)

/-- What follows the angle bracket that closes `depth` open ones, with the end of that bracket. -/
def afterAngles (depth : Nat) : List TokenTree → Option (Nat × List TokenTree)
  | [] => none
  | t :: rest =>
    if t.isMark "<" then afterAngles (depth + 1) rest
    else if t.isMark ">" then (if depth ≤ 1 then some (t.stop, rest) else afterAngles (depth - 1) rest)
    else afterAngles depth rest

/-- A pointer to a function, after its keyword that starts at `start`. -/
def functionPointer? (start : Nat) (ts : List TokenTree) : Option (Node × List TokenTree) :=
  let rest := ts.dropWhile fun t => !t.isMark "<"
  (afterAngles 0 rest).map fun (stop, rest) => (.plain .other start stop [], rest)

/-- Whether a mark after a word makes the word part of a longer name. -/
def continuesName (t : TokenTree) : Bool :=
  t.isMark "<" || t.isMark "." || t.isMark "::"

/-- A type with a modifier in front, and the trees after it. -/
def modifiedType (t : TokenTree) (found : Node × List TokenTree) : Node × List TokenTree :=
  (.plain .other t.start found.1.stop [found.1], found.2)

mutual

/-- A type.  The word `scoped` is a modifier of a type only if a name follows that type. -/
def typeAt : Nat → List TokenTree → Option (Node × List TokenTree)
  | fuel + 1, t :: rest =>
    let named := (nameAt fuel (t :: rest)).map fun (n, rest) => typeSuffixes n rest
    if t.isWord "ref" || t.isWord "readonly" then (typeAt fuel rest).map (modifiedType t)
    else if t.isWord "scoped" then
      match typeAt fuel rest with
      | some (inner, next :: more) =>
        if next.word?.isSome then some (modifiedType t (inner, next :: more)) else named
      | _ => named
    else if t.isWord "var" && !rest.head?.any continuesName then some (typeSuffixes (t.node .other) rest)
    else if t.isWord "delegate" then
      (functionPointer? t.start rest).map fun (n, rest) => typeSuffixes n rest
    else if t.isGroup '(' then some (typeSuffixes (t.node .other) rest)
    else named
  | _, _ => none

/-- A name with qualifiers and type arguments, or a keyword that names a type. -/
def nameAt : Nat → List TokenTree → Option (Node × List TokenTree)
  | fuel + 1, t :: rest =>
    if predefinedTypes.any t.isWord then some (t.node .predefinedType, rest)
    else
      match segmentAt fuel (t :: rest) with
      | some (n, rest) => some (qualifiedFrom fuel n rest)
      | none => none
  | _, _ => none

/-- One segment of a name; any word may be one. -/
def segmentAt : Nat → List TokenTree → Option (Node × List TokenTree)
  | fuel + 1, t :: rest =>
    if t.word?.isNone then none
    else
      match rest with
      | angle :: inner =>
        if angle.isMark "<" then
          (argumentsAt fuel inner).map fun (arguments, stop, rest) =>
            (.plain .genericName t.start stop
              [t.node .identifier, .plain .typeArgumentList angle.start stop arguments], rest)
        else some (t.node .identifier, rest)
      | [] => some (t.node .identifier, rest)
  | _, _ => none

/-- The segments after the name `left`. -/
def qualifiedFrom : Nat → Node → List TokenTree → Node × List TokenTree
  | fuel + 1, left, t :: rest =>
    let kind? : Option (NodeKind × Role) :=
      if t.isMark "." then some (.qualifiedName, .qualifier)
      else if t.isMark "::" then some (.aliasQualifiedName, .alias)
      else none
    match kind? with
    | none => (left, t :: rest)
    | some (kind, role) =>
      match segmentAt fuel rest with
      | some (right, rest) =>
        qualifiedFrom fuel
          (.plain kind left.start right.stop [left.withRole role, right.withRole .name]) rest
      | none => (left, t :: rest)
  | _, left, ts => (left, ts)

/-- The types up to the closing angle bracket, and the end of that bracket. -/
def argumentsAt : Nat → List TokenTree → Option (List Node × Nat × List TokenTree)
  | fuel + 1, t :: rest =>
    if t.isMark ">" then some ([], t.stop, rest)
    else if t.isMark "," then argumentsAt fuel rest
    else
      match typeAt fuel (t :: rest) with
      | some (n, rest) =>
        (argumentsAt fuel rest).map fun (ns, stop, rest) => (n :: ns, stop, rest)
      | none => none
  | _, _ => none

end

/-- The depth of recursion that suffices for some trees. -/
def fuelFor (ts : List TokenTree) : Nat :=
  4 * ts.length + 4

/-- The type at the start of some trees, and the trees after it. -/
def readType? (ts : List TokenTree) : Option (Node × List TokenTree) :=
  typeAt (fuelFor ts) ts

/-- The name at the start of some trees, and the trees after it. -/
def readName? (ts : List TokenTree) : Option (Node × List TokenTree) :=
  nameAt (fuelFor ts) ts

end PropertyQuote.CSharp
