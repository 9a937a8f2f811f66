import PropertyQuote.Candidate
import PropertyQuote.CSharp.Outline

/-!
# Compilations

The files of a program taken together: the table of all types, the using directives in force at each
property, and the meaning of the names that the properties use.
-/

namespace PropertyQuote.CSharp

/-- The using directives in force at a place: opened namespaces in order, and aliases with the latest
first. -/
structure Scope where
  openings : List String := []
  aliases : List Alias := []
deriving DecidableEq

namespace Scope

/-- The scope after a further directive. -/
def add (s : Scope) : Using → Scope
  | .opening target => { s with openings := s.openings ++ [target] }
  | .alias a => { s with aliases := a :: s.aliases }

/-- The alias of the given name. -/
def alias? (s : Scope) (name : String) : Option Alias :=
  s.aliases.find? (·.name == name)

/-- The scope after the directives of an outline that end with it. -/
def after (s : Scope) : List Item → Scope
  | [] => s
  | .using false u :: rest => after (s.add u) rest
  | _ :: rest => after s rest

end Scope

/-- A property with the using directives in force at it. -/
structure Property where
  entry : PropertyEntry
  scope : Scope
deriving DecidableEq

/-- The properties of an outline.  A property sees all directives of its own outline, `final`; a
namespace with a body starts with the directives `current` that stand before it. -/
def propertiesIn (final current : Scope) : List Item → List Property
  | [] => []
  | .using false u :: rest => propertiesIn final (current.add u) rest
  | .using true _ :: rest => propertiesIn final current rest
  | .type _ :: rest => propertiesIn final current rest
  | .property entry :: rest => ⟨entry, final⟩ :: propertiesIn final current rest
  | .block items :: rest =>
    propertiesIn (current.after items) current items ++ propertiesIn final current rest
termination_by items => sizeOf items

/-- The types that an outline declares. -/
def typesIn : List Item → List TypeEntry
  | [] => []
  | .type entry :: rest => entry :: typesIn rest
  | .block items :: rest => typesIn items ++ typesIn rest
  | .using .. :: rest => typesIn rest
  | .property _ :: rest => typesIn rest
termination_by items => sizeOf items

/-- The using directives of an outline that hold for all files. -/
def globalsIn : List Item → List Using
  | [] => []
  | .using true u :: rest => u :: globalsIn rest
  | .using false _ :: rest => globalsIn rest
  | .block items :: rest => globalsIn items ++ globalsIn rest
  | .type _ :: rest => globalsIn rest
  | .property _ :: rest => globalsIn rest
termination_by items => sizeOf items

/-- The types that are known without a declaration: the common delegates and the marker attribute. -/
def wellKnownTypes : List TypeEntry :=
  (List.range 17).map (fun i => ⟨"System.Func", i + 1, .delegate⟩) ++
  (List.range 17).map (fun i => ⟨"System.Action", i, .delegate⟩) ++
  [⟨"System.Predicate", 1, .delegate⟩, ⟨"System.Comparison", 1, .delegate⟩,
   ⟨"System.Converter", 2, .delegate⟩, ⟨"System.EventHandler", 0, .delegate⟩,
   ⟨"System.EventHandler", 1, .delegate⟩, ⟨standardMarker, 0, .classType⟩]

/-- The directives that hold for all files without being written. -/
def implicitGlobals : Scope :=
  { openings := ["System"] }

/-- A program: its types with the latest declaration first, the directives that hold for all files, and
its properties in order. -/
structure Compilation where
  types : List TypeEntry
  globals : Scope
  properties : List Property
  /-- The paths of the files whose trees are broken. -/
  broken : List String
deriving DecidableEq

namespace Compilation

/-- Compiles some files, in the order of their paths. -/
def ofFiles (files : List File) : Compilation :=
  let files := files.mergeSort fun a b => decide (a.path ≤ b.path)
  let outlines := files.map File.outline
  { types := (wellKnownTypes ++ outlines.flatMap typesIn).reverse
    globals := (outlines.flatMap globalsIn).foldl Scope.add implicitGlobals
    properties := outlines.flatMap fun items => propertiesIn (Scope.after {} items) {} items
    broken := (files.filter (·.broken)).map File.path }

/-- What the type of the given name and number of type parameters is, if there is one. -/
def kind? (p : Compilation) (fullName : String) (arity : Nat) : Option TypeKind :=
  (p.types.find? fun t => t.fullName == fullName && t.arity == arity).map TypeEntry.kind

/-- Whether there is a type of the given name and number of type parameters. -/
def declares (p : Compilation) (arity : Nat) (fullName : String) : Bool :=
  (p.kind? fullName arity).isSome

/-- The alias of the given name at a property.  One of the property's own scope comes first. -/
def alias? (p : Compilation) (here : Property) (name : String) : Option Alias :=
  (here.scope.alias? name).or (p.globals.alias? name)

/-- A simple name looked up in the types around a property, then in the namespaces around it. -/
def lookupEnclosing? (p : Compilation) (here : Property) (name : String) (arity : Nat) :
    Option String :=
  let inTypes := here.entry.owner.withOuter.map fun t => t.displayName ++ "." ++ name
  let inNamespaces := (Name.chain here.entry.home).map fun ns => Name.join ns name
  (inTypes ++ inNamespaces).find? (p.declares arity)

/-- A qualifier whose first segment is an alias, with the alias replaced by its target. -/
def expandQualifier (p : Compilation) (here : Property) (qualifier : String) : String :=
  let head := String.ofList (qualifier.toList.takeWhile (· != '.'))
  let rest := String.ofList ((qualifier.toList.dropWhile (· != '.')).drop 1)
  match p.alias? here head with
  | some a => if rest.isEmpty then a.target else Name.join a.target rest
  | none => qualifier

/-- The full names that a qualified name may stand for, in the order in which they are tried. -/
def qualifiedNames (p : Compilation) (here : Property) (qualifier name : String) : List String :=
  let written := p.expandQualifier here qualifier ++ "." ++ name
  (Name.chain here.entry.home).map fun ns => Name.join ns written

/-- The full name of an alias of a type without type parameters. -/
def lookupAlias? (p : Compilation) (here : Property) (name : String) (arity : Nat) : Option String :=
  if arity == 0 then ((p.alias? here name).map Alias.target).filter (p.declares 0) else none

/-- A simple name looked up in the opened namespaces. -/
def lookupOpened? (p : Compilation) (here : Property) (name : String) (arity : Nat) : Option String :=
  ((here.scope.openings ++ p.globals.openings).map fun ns => Name.join ns name).find?
    (p.declares arity)

/-- The full name of the type that a name with `arity` type arguments stands for at a property.  Types
and namespaces around the property come first, then aliases, then opened namespaces. -/
def lookup? (p : Compilation) (here : Property) (ref : Name.Reference) (arity : Nat) :
    Option String :=
  match ref.qualifier with
  | some q => (p.qualifiedNames here q ref.name).find? (p.declares arity)
  | none =>
    (p.lookupEnclosing? here ref.name arity).or
      ((p.lookupAlias? here ref.name arity).or (p.lookupOpened? here ref.name arity))

end Compilation

/-- A child is smaller than its node. -/
theorem Node.sizeOf_lt_of_mem {c n : Node} (h : c ∈ n.children) : sizeOf c < sizeOf n := by
  cases n with
  | mk k r b s e cs =>
    have := List.sizeOf_lt_of_mem h
    simp only [Node.children] at this
    simp only [Node.mk.sizeOf_spec]
    omega

/-- A type as it is written: what stands before the last dot, the simple name, and the arguments. -/
structure WrittenType where
  ref : Name.Reference
  arguments : List Node
deriving DecidableEq

/-- The name part and the qualifier of a qualified name; a tree without roles has them at its ends. -/
def qualifiedParts? (n : Node) : Option ({ c : Node // c ∈ n.children } × Option Node) :=
  let named := n.children.attach.filter (·.val.named)
  match n.children.attach.find? (·.val.role == .name) with
  | some name => some (name, (n.child? .qualifier).or (n.child? .alias))
  | none =>
    match named.getLast? with
    | some name => some (name, if 1 < named.length then named.head?.map (·.val) else none)
    | none => none

/-- The qualifier of a qualified name; the word `global` alone is none. -/
def qualifierText? (source : Source) (n : Option Node) : Option String :=
  match n with
  | some q =>
    let text := Name.normalised (source.text q)
    if text == "global" then none else Name.qualifier? text
  | none => none

/-- The name that a type node is, if it is one. -/
def writtenType? (source : Source) (n : Node) : Option WrittenType :=
  match n.kind with
  | .identifier => some ⟨⟨none, source.text n⟩, []⟩
  | .genericName =>
    (n.ofKind? .identifier).map fun id =>
      ⟨⟨none, source.text id⟩, ((n.ofKind? .typeArgumentList).map Node.parts).getD []⟩
  | .qualifiedName =>
    match qualifiedParts? n with
    | some (name, qualifier) =>
      (writtenType? source name.val).map fun t =>
        { t with ref := ⟨qualifierText? source qualifier, t.ref.name⟩ }
    | none => none
  | .aliasQualifiedName =>
    match qualifiedParts? n with
    | some (name, qualifier) =>
      (writtenType? source name.val).map fun t =>
        { t with ref := ⟨qualifierText? source qualifier, t.ref.name⟩ }
    | none => none
  | _ => none
termination_by sizeOf n
decreasing_by all_goals exact Node.sizeOf_lt_of_mem name.property

/-- A type without the question marks around it. -/
def withoutNullable (n : Node) : Node :=
  if n.kind == .nullableType then
    match n.children.attach.find? (·.val.named) with
    | some inner => withoutNullable inner.val
    | none => n
  else n
termination_by sizeOf n
decreasing_by exact Node.sizeOf_lt_of_mem inner.property

/-- The keyword types whose values are no references. -/
def predefinedValueTypes : List String :=
  ["bool", "byte", "sbyte", "char", "decimal", "double", "float", "int", "uint", "long", "ulong",
   "short", "ushort", "nint", "nuint"]

/-- A type named by a keyword. -/
def predefinedType (text : String) : TypeRef :=
  .mk text (if predefinedValueTypes.contains text then .struct else .classType) []

/-- The name under which a type argument is known. -/
def argumentName (source : Source) (n : Node) : String :=
  ((writtenType? source n).map (·.ref.name)).getD (source.text n)

namespace Compilation

/-- The meaning of a type written as a name. -/
def resolveWritten (p : Compilation) (here : Property) (source : Source) (t : WrittenType) : TypeRef :=
  let arity := t.arguments.length
  let kind := ((p.lookup? here t.ref arity).bind (p.kind? · arity)).getD .unknown
  .mk t.ref.name kind (t.arguments.map fun a => .mk (argumentName source a) .unknown [])

/-- The meaning of a type node, taking no alias of a whole type into account. -/
def resolveDirect (p : Compilation) (here : Property) (source : Source) (n : Node) : TypeRef :=
  let n := withoutNullable n
  if n.kind == .predefinedType then predefinedType (source.text n)
  else
    match writtenType? source n with
    | none => .mk (source.text n) .unknown []
    | some t => p.resolveWritten here source t

/-- The alias that a written type stands for as a whole: a simple name without arguments that no type
or namespace around the property defines. -/
def wholeAlias? (p : Compilation) (here : Property) (t : WrittenType) : Option Alias :=
  if t.ref.qualifier.isNone && t.arguments.isEmpty &&
      (p.lookupEnclosing? here t.ref.name 0).isNone then
    p.alias? here t.ref.name
  else none

/-- The meaning of a type node at a property.  The target of an alias is resolved without a look at
other aliases. -/
def resolveType (p : Compilation) (here : Property) (n : Node) : TypeRef :=
  match (writtenType? here.entry.source (withoutNullable n)).bind (p.wholeAlias? here) with
  | some a => p.resolveDirect here a.source a.node
  | none => p.resolveDirect here here.entry.source n

/-- The names that an attribute may be declared under. -/
def attributeClassNames (simple : String) : List String :=
  if "Attribute".toList.isSuffixOf simple.toList then [simple] else [simple, simple ++ "Attribute"]

/-- The full name of an attribute at a property. -/
def attribute? (p : Compilation) (here : Property) (written : String) : Option String :=
  let ref := Name.split written
  (attributeClassNames ref.name).findSome? fun name => p.lookup? here { ref with name } 0

/-- The symbol of a property; none if the property has no type. -/
def symbol? (p : Compilation) (here : Property) : Option PropertySymbol :=
  here.entry.type.map fun type =>
    let d := here.entry.declaration
    { name := d.name
      isStatic := here.entry.isStatic
      type := p.resolveType here type
      owner := here.entry.owner
      attributes := d.attributeNames.filterMap (p.attribute? here)
      hasGetter := d.getter?.isSome }

/-- The symbol of the property with the given number, counted from one, if it is declared as stated. -/
def resolve? (p : Compilation) (id : Int) (d : PropertyDeclaration) : Option PropertySymbol :=
  if id < 1 then none
  else
    match p.properties[id.toNat - 1]? with
    | some property => if property.entry.declaration = d then p.symbol? property else none
    | none => none

/-- The declarations of the program with what it knows about them. -/
def occurrences (p : Compilation) : List Occurrence :=
  p.properties.map fun property =>
    ⟨property.entry.declaration, (p.symbol? property).map Resolution.ofSymbol⟩

/-- Whether one entry of the type table comes before another: by name, number of parameters, kind. -/
def entryLe (a b : TypeEntry) : Bool :=
  a.fullName < b.fullName || (a.fullName == b.fullName &&
    (a.arity < b.arity || (a.arity == b.arity && a.kind.word ≤ b.kind.word)))

/-- The types that the program declares, each as it was declared last, in the order of their names. -/
def declaredTypes (p : Compilation) : List TypeEntry :=
  let latest := p.types.filter fun t => p.kind? t.fullName t.arity == some t.kind
  (latest.eraseDups.filter (!wellKnownTypes.contains ·)).mergeSort entryLe

/-- What the log says about the files that could not be read completely. -/
def log (p : Compilation) : List Log.Entry :=
  p.broken.map fun path =>
    ⟨"host.csharp", .debug, "Syntax errors in " ++ path ++ "; unparsable regions are ignored"⟩

end Compilation

end PropertyQuote.CSharp
