import PropertyQuote.Text.Blank
import PropertyQuote.Text.Glob
import PropertyQuote.Text.Lines

/-!
# Ignore rules

Rules that leave files and directories of a project out of a pass.  Later rules override earlier ones, and
a negated rule takes back what an earlier rule left out.
-/

namespace PropertyQuote.Project

/-- A rule that leaves out the paths which its pattern matches. -/
structure IgnoreRule where
  pattern : String
  /-- Whether the rule is about directories alone. -/
  directoryOnly : Bool
  /-- Whether the pattern starts at the root of the project. -/
  anchored : Bool
  negated : Bool
deriving DecidableEq, Repr

namespace IgnoreRule

/-- Whether the pattern names more than one level of directories. -/
def hasSlash (r : IgnoreRule) : Bool :=
  r.pattern.toList.contains '/'

/-- Reads a rule: a slash at the end restricts it to directories, one at the start anchors it.  A blank
pattern is no rule. -/
def ofPattern? (pattern : String) (negated : Bool) : Option IgnoreRule :=
  let text := Text.trim pattern.toList
  if text.isEmpty then none
  else
    let directoryOnly := text.getLast? == some '/'
    let text := if directoryOnly then text.dropLast else text
    let anchored := text.head? == some '/'
    some ⟨String.ofList (if anchored then text.tail else text), directoryOnly, anchored, negated⟩

/-- Whether a rule speaks of a path, given relative to the project's root.  An anchored pattern and one
with a slash are compared with the whole path, any other with each of its levels. -/
def covers (r : IgnoreRule) (path : String) (isDirectory : Bool) : Bool :=
  !r.pattern.isEmpty && (isDirectory || !r.directoryOnly) &&
    if r.anchored || r.hasSlash then
      Text.Glob.accepts r.pattern path ||
        (r.directoryOnly && (r.pattern.toList ++ ['/']).isPrefixOf path.toList)
    else (Text.splitOnChar '/' path).any (Text.Glob.accepts r.pattern)

/-- The rules of an ignore file, one per line.  Blank lines and comments are none, and an exclamation mark
negates a rule. -/
def ofLines (text : List Char) : List IgnoreRule :=
  (Text.splitLines (Text.unifyNewlines text)).filterMap fun line =>
    match Text.trim line with
    | [] => none
    | '#' :: _ => none
    | '!' :: pattern => ofPattern? (String.ofList pattern) true
    | pattern => ofPattern? (String.ofList pattern) false

end IgnoreRule

/-- Whether rules leave a path out: each rule that speaks of it overrides the ones before. -/
def ignored (rules : List IgnoreRule) (path : String) (isDirectory : Bool) : Bool :=
  rules.foldl (fun out rule => if rule.covers path isDirectory then !rule.negated else out) false

end PropertyQuote.Project
