import Mathlib.Data.List.Basic
import PropertyQuote.Generation
import PropertyQuote.Template.Reader

/-!
# The text of a unit

The standard template as it is written in a file, and what it renders to: a heading, one line per member
between braces.  The standard template never fails, so a pass with it always has a result.

* `read?_standardTemplateText`: reading the written template gives `standardTemplate`.
* `unitText_standardTemplate`: the text of a unit, line by line.
* `generate_standardTemplate`: the result of a pass.
-/

namespace PropertyQuote

/-! ## The template as it is written -/

/-- The standard template as it is written in a file. -/
def standardTemplateText : List Char :=
  ["// <auto-generated/>\n",
   "\x7b% if namespace %\x7d\n",
   "namespace \x7b\x7b namespace \x7d\x7d;\n",
   "\n",
   "\x7b% endif %\x7d\n",
   "public partial ", "\x7b\x7b keyword \x7d\x7d ", "\x7b\x7b type_name \x7d\x7d\n",
   "\x7b\n",
   "\x7b% for member in members %\x7d\n",
   "    public ", "\x7b\x7b \"static \" if member", ".is_static else \"\" \x7d\x7d",
     "string \x7b\x7b member.name \x7d\x7d", "Bonsai() => ", "\x7b\x7b member.literal \x7d\x7d;\n",
   "\x7b% endfor %\x7d\n",
   "\x7d\n"].flatMap String.toList

/-- The segments of the standard template.  The line ends after the tags do not count. -/
def standardSegments : List Template.Segment :=
  [.text "// <auto-generated/>\n".toList, .tag [.ident "if", .ident "namespace"],
   .text "namespace ".toList, .print [.ident "namespace"], .text ";\n\n".toList,
   .tag [.ident "endif"],
   .text "public partial ".toList, .print [.ident "keyword"], .text " ".toList,
   .print [.ident "type_name"], .text "\n\x7b\n".toList,
   .tag [.ident "for", .ident "member", .ident "in", .ident "members"],
   .text "    public ".toList,
   .print [.string "static ", .ident "if", .ident "member", .mark '.', .ident "is_static",
     .ident "else", .string ""],
   .text "string ".toList, .print [.ident "member", .mark '.', .ident "name"],
   .text "Bonsai() => ".toList, .print [.ident "member", .mark '.', .ident "literal"],
   .text ";\n".toList, .tag [.ident "endfor"], .text "\x7d\n".toList]

deriving instance DecidableEq for Template.Segment

/-- The written template is cut into its segments. -/
lemma segments?_standardTemplateText :
    Template.segments? (standardTemplateText.length + 1) true
      (Text.unifyNewlines standardTemplateText) = some standardSegments := by
  -- both sides are closed, and the kernel is the faster one to run the reader
  decide +kernel

/-- Reading the written template gives the standard template. -/
lemma read?_standardTemplateText : Template.read? standardTemplateText = some standardTemplate := by
  rw [Template.read?, segments?_standardTemplateText]
  rfl

/-! ## The lines of a unit -/

/-- The line of a member. -/
def Member.line (m : Member) : String :=
  "    public " ++ (if m.isStatic then "static " else "") ++ "string " ++ m.methodName ++ "() => " ++
    Literal.quote m.payload ++ ";"

/-- The words that introduce a type and its name as it stands in a declaration. -/
def TypeSymbol.header (t : TypeSymbol) : String :=
  t.keyword ++ " " ++ t.declarationName

/-- The lines that name the namespace; there are none for the global one. -/
def homeLines (home : String) : List String :=
  if home.isEmpty then [] else ["namespace " ++ home ++ ";", ""]

/-- The lines of the unit of an owner with some members. -/
def unitLines (owner : TypeSymbol) (members : List Member) : List String :=
  "// <auto-generated/>" :: homeLines owner.home ++
    ("public partial " ++ owner.header) :: "\x7b" :: members.map Member.line ++ ["\x7d"]

/-- The text of the unit of a group. -/
def Group.standardText (g : Group) : String :=
  String.join ((unitLines g.owner g.members).map (· ++ "\n"))

/-! ## Rendering -/

/-- No pieces make up an empty text. -/
lemma renderAll_nil (env : List (String × Template.Value)) : Template.renderAll env [] = .ok "" := by
  rw [Template.renderAll]

/-- Pieces are rendered one after another. -/
lemma renderAll_cons {env p ps s t} (hp : Template.Piece.render env p = .ok s)
    (hps : Template.renderAll env ps = .ok t) : Template.renderAll env (p :: ps) = .ok (s ++ t) := by
  rw [Template.renderAll, hp, hps]
  rfl

/-- Fixed text stands as it is before the rest. -/
lemma renderAll_text {env ps t} (s : String) (hps : Template.renderAll env ps = .ok t) :
    Template.renderAll env (.text s :: ps) = .ok (s ++ t) :=
  renderAll_cons rfl hps

/-- What the standard template repeats for every member. -/
def memberPieces : List Template.Piece :=
  [.text "    public ",
   .print (.choose (.field (.name "member") "is_static") (.constant (.text "static "))
     (.constant (.text ""))),
   .text "string ", .print (.field (.name "member") "name"), .text "Bonsai() => ",
   .print (.field (.name "member") "literal"), .text ";\n"]

/-- One member is written as its line. -/
lemma renderAll_memberPieces (env : List (String × Template.Value)) (m : Member) :
    Template.renderAll (("member", m.value) :: env) memberPieces = .ok (m.line ++ "\n") := by
  have hstatic : Template.Piece.render (("member", m.value) :: env)
      (.print (.choose (.field (.name "member") "is_static") (.constant (.text "static "))
        (.constant (.text "")))) = .ok (if m.isStatic then "static " else "") := by
    cases hs : m.isStatic <;>
      simp [Template.Piece.render, Template.Expr.eval, Template.Value.named, Template.Value.field,
        Template.Value.truthy, Template.Value.render, Member.value, hs, bind, Except.bind, pure,
        Except.pure]
  have hname : Template.Piece.render (("member", m.value) :: env)
      (.print (.field (.name "member") "name")) = .ok m.name := by
    simp [Template.Piece.render, Template.Expr.eval, Template.Value.named, Template.Value.field,
      Template.Value.render, Member.value, bind, Except.bind, pure, Except.pure]
  have hliteral : Template.Piece.render (("member", m.value) :: env)
      (.print (.field (.name "member") "literal")) = .ok (Literal.quote m.payload) := by
    simp [Template.Piece.render, Template.Expr.eval, Template.Value.named, Template.Value.field,
      Template.Value.render, Member.value, bind, Except.bind, pure, Except.pure]
  refine (renderAll_text "    public " <| renderAll_cons hstatic <| renderAll_text "string " <|
    renderAll_cons hname <| renderAll_text "Bonsai() => " <| renderAll_cons hliteral <|
    renderAll_text ";\n" (renderAll_nil _)).trans (congrArg Except.ok ?_)
  apply String.toList_injective
  simp [Member.line, Member.methodName]

/-- The loop over the members writes their lines. -/
lemma render_members (owner : TypeSymbol) (members : List Member) :
    Template.Piece.render (unitValues owner members) (.loop "member" (.name "members") memberPieces) =
      .ok (String.join (members.map fun m => m.line ++ "\n")) := by
  have step : ∀ ms : List Member, (ms.map Member.value).mapM (fun v =>
      Template.renderAll (("member", v) :: unitValues owner members) memberPieces) =
        .ok (ms.map fun m => m.line ++ "\n") := by
    intro ms
    induction ms with
    | nil => rfl
    | cons m ms ih =>
      rw [List.map_cons, List.mapM_cons, renderAll_memberPieces, ih]
      rfl
  have hrange : Template.Expr.eval (unitValues owner members) (.name "members") =
      .ok (.items (members.map Member.value)) := by
    simp [Template.Expr.eval, unitValues, Template.Value.named]
  rw [Template.Piece.render, hrange]
  simp only [bind, Except.bind, Template.Value.elements]
  rw [step]
  rfl

/-- The branch on the namespace writes its lines. -/
lemma render_home (owner : TypeSymbol) (members : List Member) :
    Template.Piece.render (unitValues owner members)
      (.branch (.name "namespace")
        [.text "namespace ", .print (.name "namespace"), .text ";\n\n"] []) =
      .ok (String.join ((homeLines owner.home).map (· ++ "\n"))) := by
  by_cases hh : owner.home = ""
  · simp [Template.Piece.render, Template.Expr.eval, unitValues, Template.Value.named,
      Template.Value.truthy, Template.renderAll, homeLines, hh, bind, Except.bind]
  · simp [Template.Piece.render, Template.Expr.eval, unitValues, Template.Value.named,
      Template.Value.truthy, Template.Value.render, Template.renderAll, homeLines, hh, bind,
      Except.bind, pure, Except.pure, String.append_assoc]

/-- The text of a unit under the standard template. -/
lemma unitText_standardTemplate (g : Group) : g.unitText standardTemplate = .ok g.standardText := by
  have hkeyword : Template.Piece.render (unitValues g.owner g.members) (.print (.name "keyword")) =
      .ok g.owner.keyword := by
    simp [Template.Piece.render, Template.Expr.eval, unitValues, Template.Value.named,
      Template.Value.render, bind, Except.bind, pure, Except.pure]
  have hname : Template.Piece.render (unitValues g.owner g.members) (.print (.name "type_name")) =
      .ok g.owner.declarationName := by
    simp [Template.Piece.render, Template.Expr.eval, unitValues, Template.Value.named,
      Template.Value.render, bind, Except.bind, pure, Except.pure]
  have hrender := renderAll_text "// <auto-generated/>\n" <|
    renderAll_cons (render_home g.owner g.members) <|
    renderAll_text "public partial " <| renderAll_cons hkeyword <|
    renderAll_text " " <| renderAll_cons hname <|
    renderAll_text "\n\x7b\n" <| renderAll_cons (render_members g.owner g.members) <|
    renderAll_text "\x7d\n" (renderAll_nil _)
  rw [Group.unitText, show standardTemplate = _ from rfl]
  refine hrender.trans (congrArg Except.ok ?_)
  -- the template and the lines cut the same text differently
  apply String.toList_injective
  simp [Group.standardText, unitLines, TypeSymbol.header, Function.comp_def]

/-! ## A pass with the standard template -/

/-- The unit of a group that is written with the standard template. -/
def Group.standardUnit (qualified : Bool) (g : Group) : SourceUnit :=
  ⟨hintName qualified g.owner, g.standardText, g.owner.home, g.owner.declarationName⟩

/-- The outcome of a group whose unit is written with the standard template. -/
def Group.standardOutcome (qualified : Bool) (g : Group) : Outcome :=
  .emitted (g.standardUnit qualified) g.owner (g.members.map Member.methodName)
    (g.memberless.map (⟨·, noExpressionReason⟩))

/-- The standard template writes every group. -/
lemma emit_standardTemplate (qualified : Bool) (g : Group) :
    g.emit (.ok standardTemplate) qualified = .ok (g.standardOutcome qualified) := by
  simp only [Group.emit, bind, Except.bind, unitText_standardTemplate]
  rfl

/-- The outcomes of some groups that are written with the standard template. -/
def standardOutcomes (gs : List Group) : List Outcome :=
  gs.map fun g => g.standardOutcome (needsQualification (gs.map Group.owner) g.owner)

/-- The standard template writes all groups. -/
lemma emitAll_standardTemplate (gs : List Group) :
    emitAll (.ok standardTemplate) gs = .ok (standardOutcomes gs) := by
  simp only [emitAll, emit_standardTemplate]
  exact List.mapM_pure

/-- The outcomes of a pass over some candidates: what is written, then what is skipped. -/
def passOutcomes (cs : List Candidate) : List Outcome :=
  standardOutcomes (emittableGroups cs) ++ (nestedGroups cs).map Group.skip

/-- The result of a pass over some candidates with the standard template. -/
def passResult (emitBootstrap : Bool) (cs : List Candidate) : GenerationResult where
  candidates := cs
  outcomes := passOutcomes cs
  bootstrap := if emitBootstrap then some bootstrapUnit else none
  fingerprint := fingerprint cs

/-- A pass with the standard template has a result for every program. -/
lemma generate_standardTemplate (marker : String) (emitBootstrap : Bool) (program : List Occurrence) :
    generate { marker, emitBootstrap } program =
      .ok (passResult emitBootstrap (discover marker program)) := by
  simp only [generate, emitAll_standardTemplate]
  rfl

/-- The owners for which a unit can be written. -/
def unitOwners (cs : List Candidate) : List TypeSymbol :=
  (emittableGroups cs).map Group.owner

/-- What only outcomes with a unit have is taken from the groups for which one can be written. -/
lemma filterMap_passOutcomes {α : Type} {f : Outcome → Option α} {e : Bool → Group → α}
    (hskip : ∀ g : Group, f g.skip = none)
    (hemit : ∀ qualified g, f (Group.standardOutcome qualified g) = some (e qualified g))
    (cs : List Candidate) :
    (passOutcomes cs).filterMap f =
      (emittableGroups cs).map fun g => e (needsQualification (unitOwners cs) g.owner) g := by
  have hnested : ((nestedGroups cs).map Group.skip).filterMap f = [] := by
    simp [hskip]
  rw [passOutcomes, List.filterMap_append, hnested, List.append_nil, standardOutcomes,
    List.filterMap_map]
  refine (List.filterMap_congr fun g _ => hemit _ g).trans ?_
  exact congrFun List.filterMap_eq_map _

/-- The units of a pass: that for the marker, and one for every group for which one can be written. -/
lemma units_passResult (emitBootstrap : Bool) (cs : List Candidate) :
    (passResult emitBootstrap cs).units = (if emitBootstrap then [bootstrapUnit] else []) ++
      (emittableGroups cs).map fun g => g.standardUnit (needsQualification (unitOwners cs) g.owner) := by
  rw [GenerationResult.units]
  refine congr (congrArg _ ?_) ?_
  · cases emitBootstrap <;> rfl
  · exact filterMap_passOutcomes (f := GenerationResult.unitOf?) (e := Group.standardUnit)
      (fun _ => rfl) (fun _ _ => rfl) cs

end PropertyQuote
