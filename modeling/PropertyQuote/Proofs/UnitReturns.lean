import PropertyQuote.Proofs.Collisions
import PropertyQuote.Proofs.Literal

/-!
# Units without carriage returns

A text that is read with line feeds for line ends comes back as it was written only if it holds no carriage
return.  The names in a unit stand in the source texts, and what else it holds is fixed or escaped.  So the units
of source texts without carriage returns hold none either.

* `return_notMem_sourceText`: the text of a node stands in the source.
* `handedDown_returnFree`: names without carriage returns are handed down along an outline.
* `return_notMem_units`: the units of a pass.
-/

namespace PropertyQuote

/-- The names in the declaration of the type hold no carriage return. -/
structure TypeSymbol.ReturnFree (t : TypeSymbol) : Prop where
  home : '\r' ∉ t.home.toList
  name : '\r' ∉ t.name.toList
  keyword : '\r' ∉ t.keyword.toList
  parameters : ∀ parameter ∈ t.heading.parameters, '\r' ∉ parameter.toList

namespace CSharp

variable {text : String}

/-! ## Names in a source text -/

/-- The text of a node stands in the source. -/
lemma return_notMem_sourceText (h : '\r' ∉ text.toList) (n : Node) :
    '\r' ∉ (Source.text (Text.Utf8.encodeText text) n).toList := by
  rw [Source.text, Source.slice, String.toList_ofList]
  intro hmem
  refine h (Text.Utf8.mem_of_mem_decodeDropping (by decide) ?_ hmem)
  exact fun _ hb => List.mem_of_mem_drop (List.mem_of_mem_take hb)

/-- A name in its dotted form holds no blank at all. -/
lemma return_notMem_normalised (s : String) : '\r' ∉ (Name.normalised s).toList := by
  rw [Name.normalised, String.toList_ofList, Name.normalise]
  intro h
  rcases Name.mem_dotted h with h | ⟨h, -⟩
  · have hblank := List.of_mem_filter (Name.mem_withoutGlobal h)
    revert hblank
    decide
  · revert h
    decide

/-- A normalised name has no blanks, so it has no carriage return. -/
lemma return_notMem_nameOf (source : Source) (n : Node) : '\r' ∉ (nameOf source n).toList := by
  unfold nameOf
  split
  · exact return_notMem_normalised _
  · split
    · exact return_notMem_normalised _
    · simp

/-- A name in a namespace has none if neither part has. -/
lemma return_notMem_join {home name : String} (hhome : '\r' ∉ home.toList) (hname : '\r' ∉ name.toList) :
    '\r' ∉ (Name.join home name).toList := by
  unfold Name.join
  split
  · exact hname
  · simp [hhome, hname]

/-- Type parameters are taken from the text as they are. -/
lemma return_notMem_typeParameters (h : '\r' ∉ text.toList) (n : Node) :
    ∀ parameter ∈ typeParameters (Text.Utf8.encodeText text) n, '\r' ∉ parameter.toList := by
  intro parameter hparameter
  unfold typeParameters at hparameter
  split at hparameter
  · obtain ⟨node, -, hname⟩ := List.mem_filterMap.1 hparameter
    obtain ⟨name, -, rfl⟩ := Option.map_eq_some_iff.1 hname
    exact return_notMem_sourceText h name
  · cases hparameter

/-- Names without carriage returns are handed down. -/
lemma handedDown_returnFree (h : '\r' ∉ text.toList) (path : String) :
    HandedDown path (Text.Utf8.encodeText text) (fun _ => True) ('\r' ∉ ·.toList) TypeSymbol.ReturnFree
      fun entry => entry.owner.ReturnFree ∧ '\r' ∉ entry.declaration.name.toList where
  child _ _ _ _ := trivial
  inner hhome := return_notMem_join hhome (return_notMem_nameOf _ _)
  type {n kind home owner} _ _ hhome _ := by
    have hword : '\r' ∉ kind.word.toList := by
      cases kind <;> decide
    cases owner with
    | none => exact ⟨hhome, return_notMem_nameOf _ n, hword, return_notMem_typeParameters h n⟩
    | some t => exact ⟨hhome, return_notMem_nameOf _ n, hword, return_notMem_typeParameters h n⟩
  property _ ht hproperty := by
    obtain ⟨name, -, rfl⟩ := Option.map_eq_some_iff.1 hproperty
    exact ⟨ht, return_notMem_sourceText h name⟩

/-- From texts without carriage returns, no name of a property or of its owner has one. -/
lemma returnFree_property {parse : Parser} {texts : List (String × String)}
    (h : ∀ t ∈ texts, '\r' ∉ t.2.toList) {p : Property} (hp : p ∈ (Compilation.ofTexts parse texts).properties) :
    p.entry.owner.ReturnFree ∧ '\r' ∉ p.entry.declaration.name.toList := by
  obtain ⟨f, hf, hentry⟩ := entry_mem_ofFiles hp
  obtain ⟨⟨path, text⟩, htext, rfl⟩ := List.mem_map.1 hf
  exact forall_entries_outline (handedDown_returnFree (h _ htext) path) (by simp) (by simp) _
    (fun _ _ => trivial) p.entry hentry

end CSharp

/-! ## The text of a unit -/

/-- Nor has the name that the owner is declared with. -/
lemma return_notMem_declarationName {t : TypeSymbol} (h : t.ReturnFree) :
    '\r' ∉ t.declarationName.toList := by
  unfold TypeSymbol.declarationName
  split
  · exact h.name
  · have hparameters : '\r' ∉ [',', ' '].intercalate (t.heading.parameters.map String.toList) := by
      refine Text.notMem_intercalate (by decide) fun item hitem => ?_
      obtain ⟨parameter, hparameter, rfl⟩ := List.mem_map.1 hitem
      exact h.parameters parameter hparameter
    simp [h.name, hparameters]

/-- A carriage return is escaped in a literal. -/
lemma return_notMem_quote (s : String) : '\r' ∉ (Literal.quote s).toList := by
  intro h
  have hline := Literal.endsLine_of_mem_quote h
  revert hline
  decide

/-- The line of a member has none if its name has none. -/
lemma return_notMem_line {m : Member} (h : '\r' ∉ m.name.toList) : '\r' ∉ m.line.toList := by
  have hstatic : '\r' ∉ (if m.isStatic then "static " else "").toList := by
    split <;> decide
  simp [Member.line, Member.methodName, h, hstatic, return_notMem_quote]

/-- The text of a unit has none if no name in it has. -/
lemma return_notMem_standardText {g : Group} (howner : g.owner.ReturnFree)
    (hmembers : ∀ m ∈ g.members, '\r' ∉ m.name.toList) : '\r' ∉ g.standardText.toList := by
  have hhome : ∀ line ∈ homeLines g.owner.home, '\r' ∉ line.toList := by
    unfold homeLines
    split
    · exact fun _ => nofun
    · simp [howner.home]
  have hheader : '\r' ∉ g.owner.header.toList := by
    simp [TypeSymbol.header, howner.keyword, return_notMem_declarationName howner]
  have hlines : ∀ line ∈ unitLines g.owner g.members, '\r' ∉ line.toList := by
    intro line hline
    simp only [unitLines, List.cons_append, List.mem_cons, List.mem_append, List.mem_map,
      List.not_mem_nil, or_false] at hline
    rcases hline with rfl | (hline | rfl | rfl | ⟨m, hm, rfl⟩) | rfl
    · decide
    · exact hhome line hline
    · simp [hheader]
    · decide
    · exact return_notMem_line (hmembers m hm)
    · decide
  rw [Group.standardText, String.toList_join]
  intro hmem
  obtain ⟨ended, hended, hreturn⟩ := List.mem_flatMap.1 hmem
  obtain ⟨line, hline, rfl⟩ := List.mem_map.1 hended
  simp [hlines line hline] at hreturn

/-! ## The units of a pass -/

/-- The unit with the marker has none. -/
lemma return_notMem_bootstrapUnit : '\r' ∉ bootstrapUnit.text.toList := by
  simp only [bootstrapUnit, String.toList_append, List.mem_append, not_or]
  decide +kernel

/-- The units of a pass over source texts without carriage returns hold none. -/
lemma return_notMem_units {parse : CSharp.Parser} {texts : List (String × String)}
    (h : ∀ t ∈ texts, '\r' ∉ t.2.toList) (marker : String) (emitBootstrap : Bool) :
    ∀ u ∈ (passResult emitBootstrap
        (discover marker (CSharp.Compilation.ofTexts parse texts).occurrences)).units,
      '\r' ∉ u.text.toList := by
  have hcandidate (c : Candidate)
      (hc : c ∈ discover marker (CSharp.Compilation.ofTexts parse texts).occurrences) :
      c.owner.ReturnFree ∧ '\r' ∉ c.name.toList := by
    obtain ⟨p, hp, howner, hname⟩ := exists_property_of_mem_discover hc
    rw [howner, hname]
    exact CSharp.returnFree_property h hp
  intro u hu
  rw [units_passResult, List.mem_append] at hu
  rcases hu with hu | hu
  · cases emitBootstrap with
    | false => cases hu
    | true =>
      obtain rfl := List.mem_singleton.1 hu
      exact return_notMem_bootstrapUnit
  · obtain ⟨g, hg, rfl⟩ := List.mem_map.1 hu
    obtain ⟨c, hc, howner⟩ := exists_candidate_of_mem_unitOwners (List.mem_map_of_mem (f := Group.owner) hg)
    obtain ⟨hcandidates, -⟩ := candidates_of_mem_groups (List.mem_of_mem_filter hg)
    refine return_notMem_standardText (howner ▸ (hcandidate c hc).1) ?_
    intro m hm
    obtain ⟨c', hc', hmember⟩ := List.mem_filterMap.1 hm
    obtain ⟨e, -, rfl⟩ := Option.map_eq_some_iff.1 hmember
    rw [hcandidates] at hc'
    exact (hcandidate c' (List.mem_of_mem_filter hc')).2

/-- The hint names of the units of a pass end in the same way. -/
lemma suffix_of_mem_units {emitBootstrap : Bool} {cs : List Candidate} {u : SourceUnit}
    (h : u ∈ (passResult emitBootstrap cs).units) : ".g.cs".toList <:+ u.hintName.toList := by
  rw [units_passResult, List.mem_append] at h
  rcases h with h | h
  · cases emitBootstrap with
    | false => cases h
    | true =>
      obtain rfl := List.mem_singleton.1 h
      decide
  · obtain ⟨g, -, rfl⟩ := List.mem_map.1 h
    have hend : ".g.cs".toList <:+ "_GenerateBonsai.g.cs".toList := by decide
    refine hend.trans ?_
    rw [Group.standardUnit, hintName, String.toList_append]
    exact List.suffix_append _ _

end PropertyQuote
