import PropertyQuote.CSharp.Syntax
import PropertyQuote.Name
import PropertyQuote.Property
import PropertyQuote.Symbol

/-!
# Outlines

The outline of a file lists what its syntax tree declares: using directives, types and properties, each
with its surroundings.  A namespace with a body has an outline of its own, because using directives inside
it end with it.
-/

namespace PropertyQuote.CSharp

/-- A using directive that gives a name to a type or namespace.  The target is kept as a dotted name and
as a type of the file in which it is written. -/
structure Alias where
  name : String
  target : String
  node : Node
  source : Source
deriving DecidableEq

/-- A using directive. -/
inductive Using where
  | opening (target : String)
  | alias (a : Alias)
deriving DecidableEq

/-- A declared type: its full name, the number of its type parameters, and what it is. -/
structure TypeEntry where
  fullName : String
  arity : Nat
  kind : TypeKind
deriving DecidableEq, Repr

/-- A declared property: what is written of it, the type in its declaration, and where it stands. -/
structure PropertyEntry where
  declaration : PropertyDeclaration
  type : Option Node
  source : Source
  home : String
  owner : TypeSymbol
  isStatic : Bool
deriving DecidableEq

/-- An item of an outline. -/
inductive Item where
  /-- A using directive; a global one holds for all files. -/
  | using (isGlobal : Bool) (u : Using)
  | type (entry : TypeEntry)
  | property (entry : PropertyEntry)
  /-- The outline of a namespace with a body. -/
  | block (items : List Item)

/-- The name of a declaration; empty if it has none. -/
def nameOf (source : Source) (n : Node) : String :=
  match n.child? .name with
  | some name => Name.normalised (source.text name)
  | none =>
    match n.children.find? fun c => c.kind == .identifier || c.kind == .qualifiedName with
    | some name => Name.normalised (source.text name)
    | none => ""

/-- The name of a type parameter. -/
def parameterName? (source : Source) (n : Node) : Option String :=
  ((n.child? .name).or (n.ofKind? .identifier)).map (source.text ·)

/-- The names of the type parameters of a declaration. -/
def typeParameters (source : Source) (n : Node) : List String :=
  match n.ofKind? .typeParameterList with
  | some list =>
    (list.children.filter (·.kind == .typeParameter)).filterMap (parameterName? source)
  | none => []

/-- The attribute names of an attribute list, as written. -/
def attributeNames (source : Source) (list : Node) : List String :=
  (list.children.filter (·.kind == .attribute)).filterMap fun a =>
    ((a.child? .name).or (a.children.find? (·.named))).map (source.text ·)

/-- The accessor that an arrow clause makes: its expression is the first part of the clause. -/
def arrowAccessor (source : Source) (keyword : String) (body : BodyKind) (clause : Node) : Accessor :=
  match clause.parts with
  | e :: _ => ⟨keyword, body, some (source.text e)⟩
  | [] => ⟨keyword, .none, none⟩

/-- The keyword of an accessor: the last of its words that is one, else its name. -/
def accessorKeyword (source : Source) (n : Node) : String :=
  let word? : Node → Option String := fun c =>
    match c.kind with
    | .getWord => some "get"
    | .setWord => some "set"
    | .initWord => some "init"
    | _ => none
  match (n.children.filterMap word?).getLast? with
  | some word => word
  | none => ((n.child? .name).map (source.text ·)).getD ""

/-- An accessor declaration. -/
def accessor (source : Source) (n : Node) : Accessor :=
  let keyword := accessorKeyword source n
  match (n.children.filter (·.kind == .arrowClause)).getLast? with
  | some clause => arrowAccessor source keyword .accessorExpression clause
  | none => ⟨keyword, if n.has .block then .block else .none, none⟩

/-- The accessors that a child of a property declaration stands for. -/
def accessorsOf (source : Source) (child : Node) : List Accessor :=
  match child.kind with
  | .accessorList =>
    (child.children.filter (·.kind == .accessorDeclaration)).map (accessor source)
  | .arrowClause => [arrowAccessor source "get" .expression child]
  | _ => []

/-- Whether a child of a property declaration makes the property static. -/
def makesStatic (source : Source) (child : Node) : Bool :=
  match child.kind with
  | .modifier => Text.trimmed (source.text child) == "static"
  | .staticWord => true
  | _ => false

/-- A property declaration; none if it has no name. -/
def property? (path : String) (source : Source) (home : String) (owner : TypeSymbol) (n : Node) :
    Option PropertyEntry :=
  (n.child? .name).map fun name =>
    { declaration := {
        name := source.text name
        attributeNames :=
          (n.children.filter (·.kind == .attributeList)).flatMap (attributeNames source)
        accessors := n.children.flatMap (accessorsOf source)
        path
        line := source.line n.start }
      type := n.child? .type
      source
      home
      owner
      isStatic := n.children.any (makesStatic source) }

/-- A using directive; one that opens the members of a type says nothing about names. -/
def using? (source : Source) (n : Node) : Option Item :=
  if n.has .staticWord then none
  else
    match n.parts.getLast? with
    | none => none
    | some last =>
      let isGlobal := n.has .globalWord
      let target := Name.normalised (source.text last)
      match n.parts with
      | first :: _ :: _ =>
        if n.has .equalsSign || n.has .nameEquals then
          let name := Text.trimmed (String.ofList ((source.text first).toList.filter (· != '=')))
          some (.using isGlobal (.alias ⟨name, target, last, source⟩))
        else some (.using isGlobal (.opening target))
      | _ => some (.using isGlobal (.opening target))

/-- What a kind of type declaration declares. -/
def declaredKind? (n : Node) : Option TypeKind :=
  match n.kind with
  | .classDeclaration => some .classType
  | .structDeclaration => some .struct
  | .interfaceDeclaration => some .interface
  | .recordDeclaration => some (if n.has .structWord then .recordStruct else .record)
  | .recordStructDeclaration => some .recordStruct
  | _ => none

/-- The full name of something declared in a type, or else in a namespace. -/
def fullName (home : String) (owner : Option TypeSymbol) (name : String) : String :=
  match owner with
  | some t => t.displayName ++ "." ++ name
  | none => Name.join home name

/-- The symbol of a type declaration. -/
def typeSymbol (heading : TypeHeading) (home : String) (owner : Option TypeSymbol) : TypeSymbol :=
  match owner with
  | some t => .nested heading home t
  | none => .inNamespace heading home home

/-- An enumeration or delegate, if it has a name. -/
def plainType? (source : Source) (home : String) (owner : Option TypeSymbol) (kind : TypeKind)
    (arity : Nat) (n : Node) : Option Item :=
  let name := nameOf source n
  if name.isEmpty then none else some (.type ⟨fullName home owner name, arity, kind⟩)

mutual

/-- The outline of the children of a node. -/
def outline (path : String) (source : Source) (home : String) (owner : Option TypeSymbol) :
    Node → List Item
  | .mk _ _ _ _ _ children => outlineAll path source home owner children

/-- The outline of some nodes.  A namespace without a body holds for the nodes after it. -/
def outlineAll (path : String) (source : Source) (home : String) (owner : Option TypeSymbol) :
    List Node → List Item
  | [] => []
  | n :: rest =>
    match n.kind with
    | .fileScopedNamespace =>
      let inner := Name.join home (nameOf source n)
      outline path source inner none n ++ outlineAll path source inner owner rest
    | .namespaceDeclaration =>
      .block (outlineBody path source (Name.join home (nameOf source n)) none n) ::
        outlineAll path source home owner rest
    | .usingDirective => (using? source n).toList ++ outlineAll path source home owner rest
    | .enumDeclaration =>
      (plainType? source home owner .enum 0 n).toList ++ outlineAll path source home owner rest
    | .delegateDeclaration =>
      (plainType? source home owner .delegate (typeParameters source n).length n).toList ++
        outlineAll path source home owner rest
    | .propertyDeclaration =>
      (owner.bind (property? path source home · n)).toList.map .property ++
        outlineAll path source home owner rest
    | .declarationList => outline path source home owner n ++ outlineAll path source home owner rest
    | _ =>
      match declaredKind? n with
      | none => outlineAll path source home owner rest
      | some kind =>
        let name := nameOf source n
        if name.isEmpty then outlineAll path source home owner rest
        else
          let parameters := typeParameters source n
          let symbol := typeSymbol ⟨name, kind.word, parameters⟩ home owner
          .type ⟨symbol.displayName, parameters.length, kind⟩ ::
            outlineBody path source home (some symbol) n ++ outlineAll path source home owner rest

/-- The outline of the body of a declaration, which is the first child in that role. -/
def outlineBody (path : String) (source : Source) (home : String) (owner : Option TypeSymbol) :
    Node → List Item
  | .mk _ _ _ _ _ children => outlineFirstBody path source home owner children

/-- The outline of the first of some nodes that is a body. -/
def outlineFirstBody (path : String) (source : Source) (home : String) (owner : Option TypeSymbol) :
    List Node → List Item
  | [] => []
  | n :: rest =>
    if n.role == .body then outline path source home owner n
    else outlineFirstBody path source home owner rest

end

/-- The outline of a file. -/
def File.outline (f : File) : List Item :=
  CSharp.outline f.path f.source "" none f.root

end PropertyQuote.CSharp
