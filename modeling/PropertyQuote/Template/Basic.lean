import PropertyQuote.Text.Displayed

/-!
# Templates

A template is a list of pieces: fixed text, printed expressions, branches and loops.  It is rendered with
named values; a name without a value is undefined, prints as nothing and counts as false.
-/

namespace PropertyQuote.Template

/-- What can go wrong with a template. -/
inductive Error where
  /-- It cannot be read. -/
  | invalid
  /-- It asks for a field of something undefined. -/
  | undefined
  /-- It is no text. -/
  | encoding
  /-- A loop runs over something of a kind that has no elements. -/
  | noElements (kind : String)
deriving DecidableEq, Repr

/-- A value of a template. -/
inductive Value where
  | undefined
  | nothing
  | text (s : String)
  | flag (b : Bool)
  | number (n : Nat)
  | item (kind : String) (fields : List (String × Value))
  | items (values : List Value)

namespace Value

/-- Whether a value counts as true. -/
def truthy : Value → Bool
  | undefined => false
  | nothing => false
  | text s => !s.isEmpty
  | flag b => b
  | number n => n != 0
  | item .. => true
  | items vs => !vs.isEmpty

mutual

/-- A value as a part of a greater one, where texts are quoted. -/
def shown : Value → String
  | undefined => "Undefined"
  | nothing => "None"
  | text s => Text.displayed s
  | flag b => if b then "True" else "False"
  | number n => toString n
  | item kind fields => kind ++ "(" ++ ", ".intercalate (shownFields fields) ++ ")"
  | items vs => "[" ++ ", ".intercalate (shownItems vs) ++ "]"

/-- The fields of an item. -/
def shownFields : List (String × Value) → List String
  | [] => []
  | (name, v) :: rest => (name ++ "=" ++ v.shown) :: shownFields rest

/-- The values in a list. -/
def shownItems : List Value → List String
  | [] => []
  | v :: rest => v.shown :: shownItems rest

end

/-- The text of a value. -/
def render : Value → String
  | undefined => ""
  | text s => s
  | v => v.shown

/-- The value of a name in a list of named values. -/
def named (name : String) (fields : List (String × Value)) : Value :=
  match fields.find? (·.1 == name) with
  | some (_, v) => v
  | none => undefined

/-- A field of a value; only items have fields, and nothing has fields at all if it is undefined. -/
def field (name : String) : Value → Except Error Value
  | undefined => .error .undefined
  | item _ fields => .ok (named name fields)
  | _ => .ok undefined

/-- An element of a value by its number. -/
def element (n : Nat) : Value → Except Error Value
  | undefined => .error .undefined
  | items vs => .ok (vs.getD n undefined)
  | text s => .ok ((s.toList[n]?.map fun c => text (String.singleton c)).getD undefined)
  | _ => .ok undefined

/-- The values that a loop runs over. -/
def elements : Value → Except Error (List Value)
  | undefined => .ok []
  | nothing => .error (.noElements "NoneType")
  | text s => .ok (s.toList.map fun c => text (String.singleton c))
  | flag _ => .error (.noElements "bool")
  | number _ => .error (.noElements "int")
  | item kind _ => .error (.noElements kind)
  | items vs => .ok vs

end Value

/-- An expression of a template. -/
inductive Expr where
  | name (name : String)
  | constant (v : Value)
  | field (of : Expr) (name : String)
  | element (of : Expr) (index : Nat)
  | negation (e : Expr)
  | both (first second : Expr)
  | either (first second : Expr)
  | choose (test yes no : Expr)

/-- The value of an expression. -/
def Expr.eval (env : List (String × Value)) : Expr → Except Error Value
  | name n => .ok (Value.named n env)
  | constant v => .ok v
  | field e n => do (← e.eval env).field n
  | element e n => do (← e.eval env).element n
  | negation e => do return .flag (!(← e.eval env).truthy)
  | both a b => do
    let v ← a.eval env
    if v.truthy then b.eval env else return v
  | either a b => do
    let v ← a.eval env
    if v.truthy then return v else b.eval env
  | choose test yes no => do
    if (← test.eval env).truthy then yes.eval env else no.eval env

/-- A piece of a template. -/
inductive Piece where
  | text (s : String)
  | print (e : Expr)
  | branch (test : Expr) (yes no : List Piece)
  | loop (binder : String) (range : Expr) (body : List Piece)

mutual

/-- The text of one piece. -/
def Piece.render (env : List (String × Value)) : Piece → Except Error String
  | .text s => .ok s
  | .print e => do return (← e.eval env).render
  | .branch test yes no => do
    if (← test.eval env).truthy then renderAll env yes else renderAll env no
  | .loop x range body => do
    let values ← (← range.eval env).elements
    let texts ← values.mapM fun v => renderAll ((x, v) :: env) body
    return String.join texts

/-- The text of some pieces in order. -/
def renderAll (env : List (String × Value)) : List Piece → Except Error String
  | [] => .ok ""
  | p :: rest => do return (← p.render env) ++ (← renderAll env rest)

end

end PropertyQuote.Template
