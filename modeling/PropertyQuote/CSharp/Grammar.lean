import PropertyQuote.Text.Displayed

/-!
# Trouble with the grammar

What is said when the grammar of C# cannot be used.
-/

namespace PropertyQuote.CSharp

/-- Why the grammar cannot be used. -/
inductive GrammarFault where
  /-- It is of the wrong kind or version. -/
  | unsuitable (detail : String)
  /-- Something is missing from it. -/
  | lacking (key : String)
deriving DecidableEq, Repr

/-- The text of a fault. -/
def GrammarFault.message : GrammarFault → String
  | unsuitable detail => "Failed to load the C# tree-sitter grammar: " ++ detail
  | lacking key => Text.displayed key

end PropertyQuote.CSharp
