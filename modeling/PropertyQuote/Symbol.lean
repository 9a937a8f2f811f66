import PropertyQuote.Comparison

/-!
# Symbols

What a program knows about its types and properties: references to types, the types that own
properties, and the properties themselves.
-/

namespace PropertyQuote

/-- What a type name stands for. -/
inductive TypeKind where
  | classType
  | struct
  | interface
  | record
  | recordStruct
  | enum
  | delegate
  | unknown
deriving DecidableEq, Repr

/-- The word for a kind of type. -/
def TypeKind.word : TypeKind → String
  | .classType => "class"
  | .struct => "struct"
  | .interface => "interface"
  | .record => "record"
  | .recordStruct => "record struct"
  | .enum => "enum"
  | .delegate => "delegate"
  | .unknown => "unknown"

/-- The kind that a word names; any other word names the unknown kind. -/
def TypeKind.ofWord (word : String) : TypeKind :=
  ([.classType, .struct, .interface, .record, .recordStruct, .enum, .delegate].find?
    (·.word == word)).getD .unknown

/-- A use of a type: its simple name, its kind, and the types it is applied to. -/
inductive TypeRef where
  | mk (name : String) (kind : TypeKind) (arguments : List TypeRef)
deriving Repr

instance : Inhabited TypeRef := ⟨.mk "" .unknown []⟩

/-- Decides whether two types are equal. -/
def TypeRef.decideEq (a b : TypeRef) : Decidable (a = b) :=
  match a, b with
  | .mk name kind arguments, .mk name' kind' arguments' =>
    let _ := decideEqAll arguments arguments' fun c _ d => TypeRef.decideEq c d
    decidable_of_iff (name = name' ∧ kind = kind' ∧ arguments = arguments') (by simp)
termination_by sizeOf a
decreasing_by
  have hlt := List.sizeOf_lt_of_mem ‹_›
  simp only [TypeRef.mk.sizeOf_spec]
  omega

instance : DecidableEq TypeRef := TypeRef.decideEq

namespace TypeRef

/-- The simple name of the type. -/
def name : TypeRef → String
  | mk n _ _ => n

/-- What the type is. -/
def kind : TypeRef → TypeKind
  | mk _ k _ => k

/-- The types that the type is applied to, in order. -/
def arguments : TypeRef → List TypeRef
  | mk _ _ as => as

/-- Whether values of the type are functions. -/
def isFunction (t : TypeRef) : Bool :=
  t.kind == .delegate

end TypeRef

/-- The heading of a type declaration: its name, the words that introduce it, its type parameters. -/
structure TypeHeading where
  name : String
  keyword : String := "class"
  parameters : List String := []
deriving DecidableEq, Repr, Inhabited

/-- A declared type, either directly in a namespace or inside another type.  `home` is the namespace
the type belongs to; a type that is not nested names the namespace that `contains` it on its own. -/
inductive TypeSymbol where
  | inNamespace (heading : TypeHeading) (home contains : String)
  | nested (heading : TypeHeading) (home : String) (outer : TypeSymbol)
deriving DecidableEq, Repr, Inhabited

namespace TypeSymbol

/-- The heading of the type. -/
def heading : TypeSymbol → TypeHeading
  | inNamespace h _ _ => h
  | nested h _ _ => h

/-- The namespace of the type; empty for the global one. -/
def home : TypeSymbol → String
  | inNamespace _ ns _ => ns
  | nested _ ns _ => ns

/-- The simple name of the type. -/
def name (t : TypeSymbol) : String :=
  t.heading.name

/-- The words that introduce the type, such as `record struct`. -/
def keyword (t : TypeSymbol) : String :=
  t.heading.keyword

/-- The number of type parameters. -/
def arity (t : TypeSymbol) : Nat :=
  t.heading.parameters.length

/-- The name as it stands in a declaration, with the type parameters. -/
def declarationName (t : TypeSymbol) : String :=
  if t.heading.parameters.isEmpty then t.name
  else t.name ++ "<" ++ String.intercalate ", " t.heading.parameters ++ ">"

/-- The name with the types and the namespace around it, without type parameters. -/
def displayName : TypeSymbol → String
  | inNamespace h ns _ => if ns.isEmpty then h.name else ns ++ "." ++ h.name
  | nested h _ outer => outer.displayName ++ "." ++ h.name

/-- The type and the types around it, from the inside out. -/
def withOuter : TypeSymbol → List TypeSymbol
  | t@(inNamespace ..) => [t]
  | t@(nested _ _ outer) => t :: outer.withOuter

/-- Whether the type stands directly in its own namespace, so that a second part of it can be written
in another file. -/
def isTopLevel : TypeSymbol → Bool
  | inNamespace _ ns container => container == ns
  | nested .. => false

end TypeSymbol

/-- What tells one type from another: namespace, name and number of type parameters. -/
structure OwnerKey where
  home : String
  name : String
  arity : Nat
deriving DecidableEq, Repr

/-- The key of a type among the types of its namespace. -/
def TypeSymbol.key (t : TypeSymbol) : OwnerKey :=
  ⟨t.home, t.name, t.arity⟩

/-- The key under which the properties of a type are collected.  A nested type is keyed by its display
name, so that it never joins a type of the same simple name. -/
def TypeSymbol.groupKey (t : TypeSymbol) : OwnerKey :=
  if t.isTopLevel then t.key else ⟨t.home, t.displayName, t.arity⟩

/-- A property as the program knows it. -/
structure PropertySymbol where
  name : String
  isStatic : Bool
  type : TypeRef
  owner : TypeSymbol
  attributes : List String := []
  hasGetter : Bool := true
deriving DecidableEq, Repr

end PropertyQuote
