import PropertyQuote.CSharp.Compilation

/-!
# Numbered declarations

A program hands out its property declarations with numbers, and it is asked about them by number.  A property gets its
number when it is recorded: one more than there were properties before it, in its own file and in the files before.
-/

namespace PropertyQuote.CSharp

/-- A declaration as it is handed out.  Declarations that look the same are told apart by their numbers. -/
structure NumberedDeclaration where
  number : Int
  declaration : PropertyDeclaration
deriving DecidableEq, Repr

/-- The properties that were recorded: their declarations in order, and the properties by number, the latest first. -/
structure Registry where
  declarations : List NumberedDeclaration := []
  byNumber : List (Int × Property) := []

namespace Registry

/-- Records a property under the next number. -/
def enter (r : Registry) (here : Property) : Registry :=
  let number : Int := r.declarations.length + 1
  ⟨r.declarations ++ [⟨number, here.entry.declaration⟩], (number, here) :: r.byNumber⟩

/-- Records the properties of an outline after those that were recorded before.  The scopes are those of
`propertiesIn`. -/
def enterAll (final current : Scope) (r : Registry) : List Item → Registry
  | [] => r
  | .using false u :: rest => enterAll final (current.add u) r rest
  | .using true _ :: rest => enterAll final current r rest
  | .type _ :: rest => enterAll final current r rest
  | .property entry :: rest => enterAll final current (r.enter ⟨entry, final⟩) rest
  | .block items :: rest =>
    enterAll final current (enterAll (current.after items) current r items) rest

/-- Records the properties of some files, in the order of their paths. -/
def ofFiles (files : List File) : Registry :=
  (files.mergeSort fun a b => decide (a.path ≤ b.path)).foldl
    (fun r f => r.enterAll (Scope.after {} f.outline) {} f.outline) {}

/-- The property with the given number. -/
def property? (r : Registry) (number : Int) : Option Property :=
  (r.byNumber.find? (·.1 == number)).map Prod.snd

end Registry

/-- The symbol of a declaration: that of the property with its number, if this property is declared as stated. -/
def Compilation.symbolOf? (p : Compilation) (r : Registry) (x : NumberedDeclaration) : Option PropertySymbol :=
  match r.property? x.number with
  | some here => if here.entry.declaration = x.declaration then p.symbol? here else none
  | none => none

end PropertyQuote.CSharp
