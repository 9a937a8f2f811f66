import PropertyQuote.CSharp.TypeSyntax

/-!
# Reading source text

The syntax tree of a source text, with the nodes that matter for properties: using directives, namespaces,
types and properties.  The trees of a body are cut into items, each of which is one declaration or
statement; items of any other form have no node.
-/

namespace PropertyQuote.CSharp

/-- Cuts trees into items.  An item ends with a semicolon, or with braces unless a value is being given;
braces with an equals sign after them are the accessors of a property with an initial value.  What is
conditional between two items is left out. -/
def itemsFrom (acc : List TokenTree) (assigned : Bool) : List TokenTree → List (List TokenTree)
  | [] => if acc.isEmpty then [] else [acc.reverse]
  | t :: rest =>
    if acc.isEmpty && t.isKind .conditional then itemsFrom [] false rest
    else if t.isMark ";" then (t :: acc).reverse :: itemsFrom [] false rest
    else if t.isGroup '\x7b' && !assigned && !rest.head?.any (·.isMark "=") then
      (t :: acc).reverse :: itemsFrom [] false rest
    else itemsFrom (t :: acc) (assigned || t.isMark "=" || t.isMark "=>") rest

/-- The items of some trees. -/
def items (ts : List TokenTree) : List (List TokenTree) :=
  itemsFrom [] false ts

/-- Words that are always modifiers in front of a declaration. -/
def modifierWords : List String :=
  ["public", "private", "protected", "internal", "static", "abstract", "sealed", "virtual", "override",
   "readonly", "extern", "unsafe", "new", "volatile", "const", "fixed"]

/-- Words that are modifiers unless they are the type of what follows. -/
def softModifierWords : List String :=
  ["partial", "required", "file", "async"]

/-- Whether a tree can only follow the name of a member. -/
def endsName (t : TokenTree) : Bool :=
  t.isGroup '\x7b' || t.isMark "=>" || t.isMark ";" || t.isMark "=" || t.isMark ","

/-- Whether a structure is declared after more modifiers. -/
def leadsToStruct (ts : List TokenTree) : Bool :=
  (ts.dropWhile fun t => ("ref" :: "partial" :: modifierWords).any t.isWord).head?.any (·.isWord "struct")

/-- Whether the first of some trees is a modifier of the rest. -/
def isModifier (t : TokenTree) (rest : List TokenTree) : Bool :=
  match t.word? with
  | none => false
  | some w =>
    if modifierWords.contains w then true
    else if w == "ref" then leadsToStruct rest
    else if softModifierWords.contains w then
      match rest with
      | next :: after :: _ => (next.word?.isSome || next.isGroup '(') && !endsName after
      | _ => false
    else false

/-- The modifiers at the start of some trees, and the trees after them. -/
def takeModifiers : List TokenTree → List Node × List TokenTree
  | [] => ([], [])
  | t :: rest =>
    if isModifier t rest then
      let found := takeModifiers rest
      (t.node .modifier :: found.1, found.2)
    else ([], t :: rest)

/-- The attributes of an attribute list; the name comes first, then perhaps arguments in brackets. -/
def attributesFrom : Nat → List TokenTree → List Node
  | fuel + 1, ts =>
    match readName? ts with
    | some (name, rest) =>
      .plain .attribute name.start name.stop [name.withRole .name] ::
        attributesFrom fuel ((rest.dropWhile fun t => !t.isMark ",").drop 1)
    | none => []
  | 0, _ => []

/-- An attribute list, without the target of its attributes. -/
def attributeList (t : TokenTree) : Node :=
  match t with
  | .leaf _ => t.node .attributeList
  | .group _ start stop inner =>
    let inner := match inner with
      | target :: colon :: rest =>
        if target.word?.isSome && colon.isMark ":" then rest else target :: colon :: rest
      | _ => inner
    .plain .attributeList start stop (attributesFrom inner.length inner)

/-- Whether a tree is an attribute list, or a conditional section of such. -/
def isAttributes (t : TokenTree) : Bool :=
  t.isGroup '[' || t.isKind .conditionalAttributes

/-- The attribute lists at the start of some trees, and the trees after them.  Conditional ones do not
count. -/
def takeAttributes (ts : List TokenTree) : List Node × List TokenTree :=
  (((ts.takeWhile isAttributes).filter (·.isGroup '[')).map attributeList, ts.dropWhile isAttributes)

/-- The names between angle brackets: in each part the last word that is not in brackets. -/
def parameterNodes (ts : List TokenTree) : List Node :=
  match ts with
  | [] => []
  | t :: rest =>
    if t.isMark ">" then []
    else
      match t.word?, rest with
      | some _, next :: _ =>
        if next.isMark "," || next.isMark ">" then
          .plain .typeParameter t.start t.stop [(t.node .identifier).withRole .name] ::
            parameterNodes rest
        else parameterNodes rest
      | _, _ => parameterNodes rest

/-- The type parameters at the start of some trees. -/
def typeParameterList? (ts : List TokenTree) : Option Node :=
  match ts with
  | angle :: rest =>
    if angle.isMark "<" then
      some (.plain .typeParameterList angle.start angle.stop (parameterNodes rest))
    else none
  | [] => none

/-- Whether trees are a single word that is a token and no expression of its own. -/
def isBareWord (ts : List TokenTree) : Bool :=
  match ts with
  | [t] => t.isWord "this" || t.isWord "base"
  | _ => false

/-- The value that an arrow gives: everything between the arrow and the semicolon. -/
def arrowClause (arrow : TokenTree) (rest : List TokenTree) : Node :=
  let value := rest.takeWhile fun t => !t.isMark ";"
  match value.head?, value.getLast? with
  | some first, some last =>
    .plain .arrowClause arrow.start last.stop
      [.mk .other .other (!isBareWord value) first.start last.stop []]
  | _, _ => arrow.node .arrowClause

/-- The kind of the word that names an accessor. -/
def accessorWord (w : String) : NodeKind :=
  match w with
  | "get" => .getWord
  | "set" => .setWord
  | "init" => .initWord
  | _ => .identifier

/-- The trees after the modifiers of an accessor; any word before another one is a modifier. -/
def afterAccessorModifiers : List TokenTree → List TokenTree
  | t :: next :: rest =>
    if (modifierWords ++ softModifierWords).any t.isWord && next.word?.isSome then
      afterAccessorModifiers (next :: rest)
    else t :: next :: rest
  | ts => ts

/-- An accessor of a property. -/
def accessorNode? (ts : List TokenTree) : Option Node :=
  match afterAccessorModifiers (takeAttributes ts).2 with
  | word :: rest =>
    word.word?.map fun w =>
      let name := (word.node (accessorWord w)).withRole .name
      let body := match rest with
        | t :: after =>
          if t.isGroup '\x7b' then [t.node .block]
          else if t.isMark "=>" then [arrowClause t after]
          else []
        | [] => []
      .plain .accessorDeclaration word.start word.stop (name :: body)
  | [] => none

/-- The accessors in a pair of braces. -/
def accessorList (t : TokenTree) : Node :=
  match t with
  | .leaf _ => t.node .accessorList
  | .group _ start stop inner => .plain .accessorList start stop ((items inner).filterMap accessorNode?)

/-- The name of a member, after the interface it may be declared for, and the trees after it. -/
def memberName? : Nat → List TokenTree → Option (Node × List TokenTree)
  | fuel + 1, t :: rest =>
    if t.word?.isNone || t.isWord "this" || t.isWord "operator" then none
    else
      let after := match rest with
        | angle :: inner =>
          if angle.isMark "<" then ((afterAngles 1 inner).map Prod.snd).getD rest else rest
        | [] => rest
      match after with
      | dot :: more =>
        if dot.isMark "." || dot.isMark "::" then memberName? fuel more
        else some (t.node .identifier, after)
      | [] => some (t.node .identifier, after)
  | _, _ => none

/-- A property, after its attributes and modifiers; `lead` holds their nodes. -/
def propertyNode? (start : Nat) (lead : List Node) (ts : List TokenTree) : Option Node := do
  let (type, rest) ← readType? ts
  let (name, rest) ← memberName? rest.length rest
  match rest with
  | t :: after =>
    let body ← if t.isGroup '\x7b' then some (accessorList t)
      else if t.isMark "=>" then some (arrowClause t after)
      else none
    return .plain .propertyDeclaration start body.stop
      (lead ++ [type.withRole .type, name.withRole .name, body])
  | [] => none

/-- A using directive, after the word `global` if it has one. -/
def usingNode? (start : Nat) (isGlobal : Bool) (ts : List TokenTree) : Option Node :=
  let isStatic := ts.any (·.isWord "static")
  let rest := ts.dropWhile fun t => t.isWord "static" || t.isWord "unsafe"
  let words := (if isGlobal then [Node.mk .globalWord .other false start start []] else []) ++
    (if isStatic then [Node.mk .staticWord .other false start start []] else [])
  let finished (parts : List Node) (rest : List TokenTree) : Option Node :=
    match rest with
    | t :: _ => if t.isMark ";" then some (.plain .usingDirective start t.stop (words ++ parts)) else none
    | [] => none
  match rest with
  | name :: equals :: target =>
    if name.word?.isSome && equals.isMark "=" then
      (readType? target).bind fun (type, rest) =>
        finished [(name.node .identifier).withRole .name,
          .mk .equalsSign .other false equals.start equals.stop [], type] rest
    else (readName? rest).bind fun (n, rest) => finished [n] rest
  | _ => none

/-- A declaration with a name and perhaps type parameters, after its keyword; `lead` holds further
children. -/
def namedNode? (kind : NodeKind) (start : Nat) (lead : List Node) (ts : List TokenTree)
    (body : List Node) : Option Node :=
  match ts with
  | name :: rest =>
    if name.word?.isSome then
      some (.plain kind start name.stop
        (lead ++ (name.node .identifier).withRole .name :: (typeParameterList? rest).toList ++ body))
    else none
  | [] => none

/-- The keyword of a type declaration. -/
def typeKeyword? (w : String) : Option NodeKind :=
  match w with
  | "class" => some .classDeclaration
  | "struct" => some .structDeclaration
  | "interface" => some .interfaceDeclaration
  | "record" => some .recordDeclaration
  | _ => none

/-- A delegate, after its keyword. -/
def delegateNode? (start : Nat) (ts : List TokenTree) : Option Node :=
  (readType? ts).bind fun (_, rest) => namedNode? .delegateDeclaration start [] rest []

mutual

/-- The declaration that an item is, if it is one. -/
def declarationAt : Nat → List TokenTree → Option Node
  | fuel + 1, ts =>
    let (attributes, afterAttributes) := takeAttributes ts
    let (modifiers, rest) := takeModifiers afterAttributes
    let start := (ts.head?.map TokenTree.start).getD 0
    match rest with
    | [] => none
    | t :: after =>
      let body := (after.filter (·.isGroup '\x7b')).head?.toList.map fun b =>
        (bodyAt fuel b).withRole .body
      match t.word? with
      | some "using" => usingNode? t.start false after
      | some "global" =>
        (match after with
          | u :: more =>
            if u.isWord "using" then usingNode? t.start true more
            else propertyNode? start (attributes ++ modifiers) rest
          | [] => none)
      | some "namespace" =>
        (readName? after).map fun (name, _) =>
          .plain (if body.isEmpty then .fileScopedNamespace else .namespaceDeclaration) start name.stop
            (name.withRole .name :: body)
      | some "enum" => namedNode? .enumDeclaration start [] after []
      | some "event" => none
      | some w =>
        match typeKeyword? w, after with
        | some .recordDeclaration, next :: more =>
          if next.isWord "struct" then
            namedNode? .recordDeclaration start [.mk .structWord .other false next.start next.stop []]
              more body
          else if next.isWord "class" then namedNode? .recordDeclaration start [] more body
          else namedNode? .recordDeclaration start [] after body
        | some kind, _ => namedNode? kind start [] after body
        | none, _ =>
          if w == "delegate" && !after.head?.any (·.isMark "*") then delegateNode? start after
          else propertyNode? start (attributes ++ modifiers) rest
      | none => propertyNode? start (attributes ++ modifiers) rest
  | 0, _ => none

/-- The body of a namespace or a type. -/
def bodyAt : Nat → TokenTree → Node
  | fuel + 1, .group _ start stop inner =>
    .plain .declarationList start stop ((items inner).filterMap (declarationAt fuel))
  | _, t => t.node .declarationList

end

/-! ## Directives

A directive may stand anywhere between two tokens, and is a part of the smallest node around it. -/

/-- The kinds of nodes that ask for all of their parts. -/
def countsParts (kind : NodeKind) : Bool :=
  kind == .usingDirective || kind == .arrowClause || kind == .typeArgumentList

/-- The nodes of the directives that stand in a range of bytes, but not inside of one of some nodes. -/
def directiveNodes (directives : List Token) (start stop : Nat) (children : List Node) : List Node :=
  (directives.filter fun d =>
    start ≤ d.start && d.stop ≤ stop && !children.any fun c => c.start ≤ d.start && d.stop ≤ c.stop).map
    fun d => .plain .other d.start d.stop []

mutual

/-- A node with the directives that are parts of it or of its children. -/
def withDirectives (directives : List Token) : Node → Node
  | .mk kind role named start stop children =>
    let inner := allWithDirectives directives children
    .mk kind role named start stop
      (if countsParts kind then
        (inner ++ directiveNodes directives start stop inner).mergeSort fun a b => a.start ≤ b.start
      else inner)

/-- Nodes with the directives that are parts of them. -/
def allWithDirectives (directives : List Token) : List Node → List Node
  | [] => []
  | n :: rest => withDirectives directives n :: allWithDirectives directives rest

end

/-- The syntax tree of a source text. -/
def parse : Parser := fun text =>
  let ts := tokens text
  let directives := ts.filter (·.kind == .directive)
  let code := ts.filter (·.kind != .directive)
  let declarations := (items (arrange [] [] code)).filterMap (declarationAt (2 * code.length + 2))
  let root := Node.plain .compilationUnit 0 (byteLength text) declarations
  if directives.isEmpty then root else withDirectives directives root

end PropertyQuote.CSharp
