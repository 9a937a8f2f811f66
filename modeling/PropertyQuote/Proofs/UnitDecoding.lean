import PropertyQuote.Proofs.Literal
import PropertyQuote.Proofs.UnitText

/-!
# Decoding units

The text of a unit can be read back: its lines are the heading, an opening brace, one line per member and a
closing brace, and from equal texts the same namespace, heading and members are read.  This holds for all
expressions, because a literal never ends early and never ends a line; of the names it is asked that
they hold no line end, and of the names of members that they hold no parenthesis.

* `Member.line_injective`: a line is read as one member only.
* `unitLines_injective`: lines are read as one heading and one list of members only.
* `unit_uniquely_decodable`: the same for the texts of units.
-/

namespace PropertyQuote

/-! ## Lines of members -/

/-- The line of a member as characters, up to its first parenthesis and after it. -/
lemma Member.toList_line (m : Member) :
    m.line.toList = ("    public ".toList ++ ((if m.isStatic then "static ".toList else []) ++
      ("string ".toList ++ (m.name.toList ++ "Bonsai".toList)))) ++
      '(' :: (") => ".toList ++ ((Literal.quote m.payload).toList ++ [';'])) := by
  cases hs : m.isStatic <;> simp [line, methodName, hs]

/-- A line is read as one member only, if names hold no parenthesis. -/
lemma Member.line_injective {m m' : Member} (hm : '(' ∉ m.name.toList) (hm' : '(' ∉ m'.name.toList)
    (h : m.line = m'.line) : m = m' := by
  have hlist := congrArg String.toList h
  rw [m.toList_line, m'.toList_line] at hlist
  obtain ⟨hfront, hback⟩ := Text.append_cons_inj_first
    (by cases m.isStatic <;> simp [hm]) (by cases m'.isStatic <;> simp [hm']) hlist
  -- after the parenthesis: the literal ends where it was meant to end
  obtain ⟨hpayload, _⟩ := Literal.quote_append_inj (List.append_cancel_left hback)
  -- before it: `static` and `string` differ, and the name is what is left
  have hwords := List.append_cancel_left hfront
  obtain ⟨name, isStatic, payload⟩ := m
  obtain ⟨name', isStatic', payload'⟩ := m'
  dsimp only at hpayload hwords
  subst hpayload
  cases isStatic <;> cases isStatic'
  case false.true => simp at hwords
  case true.false => simp at hwords
  all_goals
    have hname := List.append_cancel_right (List.append_cancel_left (List.append_cancel_left hwords))
    rw [String.toList_injective hname]

/-- What tells the elements of two lists apart tells the lists apart. -/
lemma map_eq_map_iff {α β γ : Type} {f g : α → β} {f' g' : α → γ} {xs ys : List α}
    (h : ∀ x ∈ xs, ∀ y ∈ ys, f x = g y ↔ f' x = g' y) :
    xs.map f = ys.map g ↔ xs.map f' = ys.map g' := by
  induction xs generalizing ys with
  | nil => cases ys <;> simp
  | cons x xs ih =>
    cases ys with
    | nil => simp
    | cons y ys =>
      have htail : xs.map f = ys.map g ↔ xs.map f' = ys.map g' :=
        ih fun a ha b hb => h a (List.mem_cons_of_mem _ ha) b (List.mem_cons_of_mem _ hb)
      rw [List.map_cons, List.map_cons, List.map_cons, List.map_cons, List.cons.injEq,
        List.cons.injEq, h x List.mem_cons_self y List.mem_cons_self, htail]

/-- Lines are read as one list of members only. -/
lemma map_line_injective {ms ms' : List Member} (hms : ∀ m ∈ ms, '(' ∉ m.name.toList)
    (hms' : ∀ m ∈ ms', '(' ∉ m.name.toList) (h : ms.map Member.line = ms'.map Member.line) :
    ms = ms' := by
  have hmembers : ms.map id = ms'.map id := (map_eq_map_iff fun m hm m' hm' =>
    ⟨Member.line_injective (hms m hm) (hms' m' hm'), congrArg Member.line⟩).1 h
  rwa [List.map_id, List.map_id] at hmembers

/-! ## Lines of units -/

/-- A line that names a namespace is no line that starts a declaration. -/
lemma homeLine_ne_header (home header : String) :
    "namespace " ++ home ++ ";" ≠ "public partial " ++ header := by
  intro h
  simpa using congrArg String.toList h

/-- The lines before the heading are told apart from the heading. -/
lemma homeLines_append_inj {home home' header header' : String} {ls ls' : List String}
    (h : homeLines home ++ ("public partial " ++ header) :: ls =
      homeLines home' ++ ("public partial " ++ header') :: ls') :
    home = home' ∧ header = header' ∧ ls = ls' := by
  by_cases hh : home = "" <;> by_cases hh' : home' = "" <;>
    simp only [homeLines, String.isEmpty_iff, hh, hh', if_true, if_false, List.nil_append,
      List.cons_append, List.cons.injEq] at h
  · exact ⟨hh.trans hh'.symm, (String.append_right_inj _).1 h.1, h.2⟩
  · exact absurd h.1.symm (homeLine_ne_header home' header)
  · exact absurd h.1 (homeLine_ne_header home header')
  · obtain ⟨hline, -, hheader, hrest⟩ := h
    exact ⟨(String.append_right_inj _).1 ((String.append_left_inj _).1 hline),
      (String.append_right_inj _).1 hheader, hrest⟩

/-- The lines of a unit are read as one namespace, one heading and one list of members only. -/
lemma unitLines_injective {owner owner' : TypeSymbol} {ms ms' : List Member}
    (hms : ∀ m ∈ ms, '(' ∉ m.name.toList) (hms' : ∀ m ∈ ms', '(' ∉ m.name.toList)
    (h : unitLines owner ms = unitLines owner' ms') :
    owner.home = owner'.home ∧ owner.header = owner'.header ∧ ms = ms' := by
  simp only [unitLines, List.cons_append, List.append_assoc, List.cons.injEq, true_and] at h
  obtain ⟨hhome, hheader, hrest⟩ := homeLines_append_inj h
  simp only [List.cons.injEq, true_and] at hrest
  exact ⟨hhome, hheader, map_line_injective hms hms' (List.append_cancel_right hrest)⟩

/-! ## Texts of units -/

/-- A notion of line end: the newline is one, and none is unknown to the tables of line ends. -/
structure LineEnds (isEnd : Char → Bool) : Prop where
  newline : isEnd '\n' = true
  known : ∀ c, isEnd c = true → Text.endsLine c = true

/-- The text holds no line end and so stands on one line. -/
def OnOneLine (isEnd : Char → Bool) (s : String) : Prop :=
  ∀ c ∈ s.toList, isEnd c = false

instance (isEnd : Char → Bool) (s : String) : Decidable (OnOneLine isEnd s) :=
  List.decidableBAll _ s.toList

/-- What is asked of the names of a group: all stand on one line, and those of members hold no
parenthesis.  Nothing is asked of the expressions. -/
structure Group.WellNamed (isEnd : Char → Bool) (g : Group) : Prop where
  home : OnOneLine isEnd g.owner.home
  keyword : OnOneLine isEnd g.owner.keyword
  declarationName : OnOneLine isEnd g.owner.declarationName
  member : ∀ m ∈ g.members, OnOneLine isEnd m.name
  noParenthesis : ∀ m ∈ g.members, '(' ∉ m.name.toList

instance (isEnd : Char → Bool) (g : Group) : Decidable (g.WellNamed isEnd) :=
  decidable_of_iff (OnOneLine isEnd g.owner.home ∧ OnOneLine isEnd g.owner.keyword ∧
      OnOneLine isEnd g.owner.declarationName ∧ (∀ m ∈ g.members, OnOneLine isEnd m.name) ∧
      ∀ m ∈ g.members, '(' ∉ m.name.toList)
    ⟨fun ⟨home, keyword, name, member, free⟩ => ⟨home, keyword, name, member, free⟩,
      fun h => ⟨h.home, h.keyword, h.declarationName, h.member, h.noParenthesis⟩⟩

variable {isEnd : Char → Bool}

/-- Texts on one line are one after another on one line. -/
lemma OnOneLine.append {s t : String} (hs : OnOneLine isEnd s) (ht : OnOneLine isEnd t) :
    OnOneLine isEnd (s ++ t) := by
  intro c hc
  rw [String.toList_append, List.mem_append] at hc
  exact hc.elim (hs c) (ht c)

/-- A text in which no table finds a line end is on one line. -/
lemma LineEnds.onOneLine (hends : LineEnds isEnd) {s : String}
    (hs : OnOneLine Text.endsLine s) : OnOneLine isEnd s := by
  intro c hc
  by_contra h
  have hend := hends.known c (by simpa using h)
  rw [hs c hc] at hend
  cases hend

/-- A member is one line, whatever its expression. -/
lemma Member.onOneLine_line (hends : LineEnds isEnd) {m : Member} (hm : OnOneLine isEnd m.name) :
    OnOneLine isEnd m.line := by
  have hstatic : OnOneLine isEnd (if m.isStatic then "static " else "") := by
    cases m.isStatic <;> exact hends.onOneLine (by decide)
  have hname : OnOneLine isEnd m.methodName := hm.append (hends.onOneLine (by decide))
  have hquote : OnOneLine isEnd (Literal.quote m.payload) :=
    hends.onOneLine fun _ hc => Literal.endsLine_of_mem_quote hc
  exact ((((((hends.onOneLine (by decide)).append hstatic).append (hends.onOneLine (by decide))).append
    hname).append (hends.onOneLine (by decide))).append hquote).append (hends.onOneLine (by decide))

/-- Every line of a unit is one line. -/
lemma onOneLine_unitLines (hends : LineEnds isEnd) {g : Group} (hg : g.WellNamed isEnd) :
    ∀ line ∈ unitLines g.owner g.members, OnOneLine isEnd line := by
  intro line hline
  simp only [unitLines, homeLines, List.cons_append, List.append_assoc, List.mem_cons, List.mem_append,
    List.mem_map, List.not_mem_nil, or_false] at hline
  rcases hline with rfl | hline | rfl | rfl | ⟨m, hm, rfl⟩ | rfl
  · exact hends.onOneLine (by decide)
  · split at hline
    · cases hline
    · rcases List.mem_pair.1 hline with rfl | rfl
      · exact ((hends.onOneLine (by decide)).append hg.home).append (hends.onOneLine (by decide))
      · exact hends.onOneLine (by decide)
  · exact (hends.onOneLine (by decide)).append
      ((hg.keyword.append (hends.onOneLine (by decide))).append hg.declarationName)
  · exact hends.onOneLine (by decide)
  · exact m.onOneLine_line hends (hg.member m hm)
  · exact hends.onOneLine (by decide)

/-- The text of a unit is cut at its line ends into its lines. -/
lemma splitAtEach_standardText (hends : LineEnds isEnd) {g : Group} (hg : g.WellNamed isEnd) :
    Text.splitAtEach isEnd g.standardText.toList =
      (unitLines g.owner g.members).map String.toList ++ [[]] := by
  have htext : g.standardText.toList =
      ((unitLines g.owner g.members).map String.toList).flatMap (· ++ ['\n']) := by
    simp [Group.standardText, List.flatMap_map, String.toList_join]
  rw [htext]
  refine Text.splitAtEach_lines ?_ hends.newline
  intro line hline
  obtain ⟨s, hs, rfl⟩ := List.mem_map.1 hline
  exact onOneLine_unitLines hends hg s hs

/-- Equal texts are texts of the same namespace, heading and members. -/
lemma standardText_injective (hends : LineEnds isEnd) {g g' : Group} (hg : g.WellNamed isEnd)
    (hg' : g'.WellNamed isEnd) (h : g.standardText = g'.standardText) :
    g.owner.home = g'.owner.home ∧ g.owner.header = g'.owner.header ∧ g.members = g'.members := by
  have hlines := splitAtEach_standardText hends hg
  rw [h, splitAtEach_standardText hends hg'] at hlines
  have hlines := List.map_injective_iff.2 (fun _ _ => String.toList_injective)
    (List.append_cancel_right hlines)
  exact unitLines_injective hg.noParenthesis hg'.noParenthesis hlines.symm

/-- The unit that the standard template gives for a group. -/
lemma unitOf?_emit (qualified : Bool) (g : Group) :
    (g.emit (.ok standardTemplate) qualified).map GenerationResult.unitOf? =
      .ok (some (g.standardUnit qualified)) := by
  rw [emit_standardTemplate]
  rfl

/-- The unit that the standard template gives for a group has one line per member between its braces,
and units with equal texts have the same namespace, heading and members, whatever the expressions. -/
theorem unit_uniquely_decodable (hends : LineEnds isEnd) {g g' : Group} (hg : g.WellNamed isEnd)
    (hg' : g'.WellNamed isEnd) (qualified qualified' : Bool) :
    ∃ template u u', Template.read? standardTemplateText = some template ∧
      (g.emit (.ok template) qualified).map GenerationResult.unitOf? = .ok (some u) ∧
      (g'.emit (.ok template) qualified').map GenerationResult.unitOf? = .ok (some u') ∧
      Text.splitAtEach isEnd u.text.toList =
        (unitLines g.owner g.members).map String.toList ++ [[]] ∧
      (u.text = u'.text →
        g.owner.home = g'.owner.home ∧ g.owner.header = g'.owner.header ∧ g.members = g'.members) := by
  exact ⟨standardTemplate, _, _, read?_standardTemplateText, unitOf?_emit qualified g,
    unitOf?_emit qualified' g', splitAtEach_standardText hends hg, standardText_injective hends hg hg'⟩

/-- A type with one type parameter. -/
def boxSymbol : TypeSymbol :=
  .inNamespace ⟨"Box", "class", ["T"]⟩ "A.B" "A.B"

/-- A group with one property, defined as the given expression. -/
def boxGroup (expression : String) : Group :=
  ⟨boxSymbol, [⟨⟨"P", true, .mk "int" .unknown [], boxSymbol, [], true⟩,
    ⟨"P", ["M"], [⟨"get", .expression, some expression⟩], "", 0⟩, boxSymbol⟩]⟩

/-- An expression that would close its literal, its line and the type is told from the expression that
has all of that written out. -/
theorem unit_uniquely_decodable_quotes :
    LineEnds Text.endsLine ∧ (boxGroup "\";\n\x7d\u2028").WellNamed Text.endsLine ∧
    (boxGroup "\\\";\\n\x7d").WellNamed Text.endsLine ∧
    ∃ template u u', Template.read? standardTemplateText = some template ∧
      ((boxGroup "\";\n\x7d\u2028").emit (.ok template) false).map GenerationResult.unitOf? =
        .ok (some u) ∧
      ((boxGroup "\\\";\\n\x7d").emit (.ok template) true).map GenerationResult.unitOf? =
        .ok (some u') ∧
      (Text.splitAtEach Text.endsLine u.text.toList).length = 8 ∧ u.text ≠ u'.text := by
  have hends : LineEnds Text.endsLine := ⟨rfl, fun _ h => h⟩
  have hclosing : (boxGroup "\";\n\x7d\u2028").WellNamed Text.endsLine := by decide
  have hwritten : (boxGroup "\\\";\\n\x7d").WellNamed Text.endsLine := by decide
  obtain ⟨template, u, u', hread, hu, hu', hlines, hinj⟩ :=
    unit_uniquely_decodable hends hclosing hwritten false true
  refine ⟨hends, hclosing, hwritten, template, u, u', hread, hu, hu', ?_, ?_⟩
  · rw [hlines]
    decide
  · intro h
    obtain ⟨-, -, hmembers⟩ := hinj h
    revert hmembers
    decide

end PropertyQuote
