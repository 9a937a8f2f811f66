import PropertyQuote.Comparison
import PropertyQuote.Text.Utf8

/-!
# Syntax trees of C#

A node has a kind, the role it plays in its parent, a range of bytes of the source, and children.  Kinds
and roles that nothing asks for are not told apart.
-/

namespace PropertyQuote.CSharp

/-- The kind of a node.  Tokens that matter are kinds of their own. -/
inductive NodeKind where
  | compilationUnit
  | usingDirective
  | namespaceDeclaration
  | fileScopedNamespace
  | classDeclaration
  | structDeclaration
  | interfaceDeclaration
  | recordDeclaration
  | recordStructDeclaration
  | enumDeclaration
  | delegateDeclaration
  | propertyDeclaration
  | declarationList
  | attributeList
  | attribute
  | modifier
  | accessorList
  | accessorDeclaration
  | arrowClause
  | block
  | typeParameterList
  | typeParameter
  | typeArgumentList
  | identifier
  | genericName
  | qualifiedName
  | aliasQualifiedName
  | nullableType
  | predefinedType
  | nameEquals
  | comment
  | staticWord
  | globalWord
  | structWord
  | getWord
  | setWord
  | initWord
  | equalsSign
  | other
deriving DecidableEq, Repr

/-- The names of the kinds in a grammar of C#. -/
def NodeKind.names : List (String × NodeKind) :=
  [("compilation_unit", .compilationUnit), ("using_directive", .usingDirective),
   ("namespace_declaration", .namespaceDeclaration),
   ("file_scoped_namespace_declaration", .fileScopedNamespace),
   ("class_declaration", .classDeclaration), ("struct_declaration", .structDeclaration),
   ("interface_declaration", .interfaceDeclaration), ("record_declaration", .recordDeclaration),
   ("record_struct_declaration", .recordStructDeclaration), ("enum_declaration", .enumDeclaration),
   ("delegate_declaration", .delegateDeclaration), ("property_declaration", .propertyDeclaration),
   ("declaration_list", .declarationList), ("attribute_list", .attributeList),
   ("attribute", .attribute), ("modifier", .modifier), ("accessor_list", .accessorList),
   ("accessor_declaration", .accessorDeclaration), ("arrow_expression_clause", .arrowClause),
   ("block", .block), ("type_parameter_list", .typeParameterList),
   ("type_parameter", .typeParameter), ("type_argument_list", .typeArgumentList),
   ("identifier", .identifier), ("generic_name", .genericName), ("qualified_name", .qualifiedName),
   ("alias_qualified_name", .aliasQualifiedName), ("nullable_type", .nullableType),
   ("predefined_type", .predefinedType), ("name_equals", .nameEquals), ("comment", .comment),
   ("static", .staticWord), ("global", .globalWord), ("struct", .structWord), ("get", .getWord),
   ("set", .setWord), ("init", .initWord), ("=", .equalsSign)]

/-- The kind with the given name. -/
def NodeKind.ofName (name : String) : NodeKind :=
  ((names.find? (·.1 == name)).map (·.2)).getD .other

/-- The role of a node in its parent. -/
inductive Role where
  | name
  | body
  | type
  | qualifier
  | alias
  | other
deriving DecidableEq, Repr

/-- The names of the roles in a grammar of C#. -/
def Role.ofName (name : String) : Role :=
  match name with
  | "name" => .name
  | "body" => .body
  | "type" => .type
  | "qualifier" => .qualifier
  | "alias" => .alias
  | _ => .other

/-- A node of a syntax tree.  Its range is from byte `start` up to but not including byte `stop`; a node
is named if it is more than a token of the grammar. -/
inductive Node where
  | mk (kind : NodeKind) (role : Role) (named : Bool) (start stop : Nat) (children : List Node)
deriving Repr

instance : Inhabited Node := ⟨.mk .other .other false 0 0 []⟩

/-- Decides whether two nodes are equal. -/
def Node.decideEq (a b : Node) : Decidable (a = b) :=
  match a, b with
  | .mk kind role named start stop children, .mk kind' role' named' start' stop' children' =>
    let _ := decideEqAll children children' fun c _ d => Node.decideEq c d
    decidable_of_iff (kind = kind' ∧ role = role' ∧ named = named' ∧ start = start' ∧ stop = stop' ∧
      children = children') (by simp)
termination_by sizeOf a
decreasing_by
  have hlt := List.sizeOf_lt_of_mem ‹_›
  simp only [Node.mk.sizeOf_spec]
  omega

instance : DecidableEq Node := Node.decideEq

namespace Node

/-- The kind of the node. -/
def kind : Node → NodeKind
  | mk k _ _ _ _ _ => k

/-- The role of the node in its parent. -/
def role : Node → Role
  | mk _ r _ _ _ _ => r

/-- Whether the node is more than a token. -/
def named : Node → Bool
  | mk _ _ n _ _ _ => n

/-- The first byte of the node. -/
def start : Node → Nat
  | mk _ _ _ s _ _ => s

/-- The byte after the node. -/
def stop : Node → Nat
  | mk _ _ _ _ e _ => e

/-- The children of the node in order. -/
def children : Node → List Node
  | mk _ _ _ _ _ cs => cs

/-- The first child in the given role. -/
def child? (n : Node) (r : Role) : Option Node :=
  n.children.find? (·.role == r)

/-- The first child of the given kind. -/
def ofKind? (n : Node) (k : NodeKind) : Option Node :=
  n.children.find? (·.kind == k)

/-- Whether the node has a child of the given kind. -/
def has (n : Node) (k : NodeKind) : Bool :=
  n.children.any (·.kind == k)

/-- The children that are named and no comments. -/
def parts (n : Node) : List Node :=
  n.children.filter fun c => c.named && c.kind != .comment

end Node

/-- The bytes of a source file. -/
abbrev Source := List UInt8

/-- The text of a range of bytes.  A range beyond the end is cut, and bytes of a character that is only
partly in the range are left out. -/
def Source.slice (source : Source) (start stop : Nat) : String :=
  String.ofList (Text.Utf8.decodeDropping ((source.drop start).take (stop - start)))

/-- The text of a node. -/
def Source.text (source : Source) (n : Node) : String :=
  Source.slice source n.start n.stop

/-- The number of the line on which a byte stands, from one. -/
def Source.line (source : Source) (offset : Nat) : Nat :=
  ((source.take offset).countP (· == 0x0a)) + 1

/-- A source file with its syntax tree. -/
structure File where
  path : String
  source : Source
  root : Node
  /-- Whether the tree has parts that could not be read. -/
  broken : Bool := false

/-- What makes the syntax tree of a source text. -/
abbrev Parser := List Char → Node

/-- The file with the given text, as a parser reads it. -/
def File.ofText (parse : Parser) (path text : String) : File :=
  { path, source := Text.Utf8.encodeText text, root := parse text.toList }

end PropertyQuote.CSharp
