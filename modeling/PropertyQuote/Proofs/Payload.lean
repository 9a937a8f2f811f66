import PropertyQuote.Proofs.Text
import PropertyQuote.Signature

/-!
# Payloads are read in one way only

A payload is the name of a function type, a labelled segment for each type argument, and the labelled expression.  The
label ends in the first colon that has a blank after it, since the names hold none, so names and expression are cut off
one by one from the left.  The expression comes last and may hold anything, labels included.

* `append_label_inj`: a name and the label after it are cut off in one way only.
* `append_afterName_inj`: all that stands before the expression is.
* `payload_eq_iff`: when two payloads are equal.
-/

namespace PropertyQuote

variable {name name' e e' : String} {names names' : List String} {i : Nat} {t t' : TypeRef}

/-! ## Labels -/

/-- A name that cannot run into the label after it: it holds no colon with a blank after it and does not end in a
colon. -/
structure IsPlainName (name : String) : Prop where
  colon_blank : ¬ [':', ' '] <:+: name.toList
  colon_last : ¬ [':'] <:+ name.toList

/-- What stands between a name and the colon after it. -/
structure IsLabel (label : String) : Prop where
  blank_first : ∃ rest, label.toList = ' ' :: rest
  colon_notMem : ':' ∉ label.toList

/-- A name without a colon is plain. -/
lemma isPlainName_of_notMem (h : ':' ∉ name.toList) : IsPlainName name where
  colon_blank hpair := h (hpair.subset List.mem_cons_self)
  colon_last hsuffix := h (hsuffix.subset List.mem_cons_self)

/-- The label in front of the expression. -/
lemma isLabel_expression : IsLabel " Expression" :=
  ⟨⟨_, rfl⟩, by decide⟩

/-- The label in front of a type argument. -/
lemma isLabel_argument (i : Nat) : IsLabel (" Argument " ++ toString i) := by
  constructor
  · rw [String.toList_append]
    exact ⟨_, rfl⟩
  · rw [String.toList_append]
    exact List.not_mem_append (by decide) (Text.notMem_toString rfl i)

/-- A plain name with a label after it still holds no colon with a blank after it. -/
lemma colon_blank_append_label {label : String} (hname : IsPlainName name) (hlabel : IsLabel label) :
    ¬ [':', ' '] <:+: (name ++ label).toList := by
  obtain ⟨rest, hrest⟩ := hlabel.blank_first
  have hcolon := hlabel.colon_notMem
  rw [hrest] at hcolon
  rw [String.toList_append, hrest]
  intro hpair
  rcases Text.pair_infix_append (by decide) (List.not_mem_of_not_mem_cons hcolon) hpair with hinside | hlast
  · exact hname.colon_blank hinside
  · exact hname.colon_last hlast

/-- A name and the label after it are cut off in one way only. -/
lemma append_label_inj {label label' rest rest' : String} (hname : IsPlainName name) (hname' : IsPlainName name')
    (hlabel : IsLabel label) (hlabel' : IsLabel label')
    (h : name ++ (label ++ ": " ++ rest) = name' ++ (label' ++ ": " ++ rest')) :
    name ++ label = name' ++ label' ∧ rest = rest' := by
  have htext (n l r : String) : (n ++ (l ++ ": " ++ r)).toList = (n ++ l).toList ++ ':' :: ' ' :: r.toList := by
    rw [← String.append_assoc, ← String.append_assoc, String.toList_append, String.toList_append, List.append_assoc]
    rfl
  have hcut := congrArg String.toList h
  rw [htext, htext] at hcut
  obtain ⟨hleft, hright⟩ := Text.append_pair_inj_first (by decide) (colon_blank_append_label hname hlabel)
    (colon_blank_append_label hname' hlabel') hcut
  exact ⟨String.toList_injective hleft, String.toList_injective hright⟩

/-- The label of the expression ends in a letter, that of an argument in a digit. -/
lemma expression_ne_argument (name name' : String) (i : Nat) :
    name ++ " Expression" ≠ name' ++ (" Argument " ++ toString i) := by
  intro h
  have hlast := congrArg (·.toList.getLast?) h
  simp only [String.toList_append, List.getLast?_append] at hlast
  cases hdigit : (toString i).toList.getLast? with
  | none =>
    rw [hdigit] at hlast
    exact absurd (Option.some.inj hlast : 'n' = ' ') (by decide)
  | some c =>
    rw [hdigit] at hlast
    obtain rfl : 'n' = c := Option.some.inj hlast
    exact Text.notMem_toString rfl i (List.mem_of_getLast? hdigit)

/-! ## Segments -/

/-- What a payload says after the name of the type, with arguments from position `i` on. -/
def afterName (i : Nat) (names : List String) (expression : String) : String :=
  argumentSegments i names ++ " Expression: " ++ expression

/-- After the last type argument there is the expression. -/
lemma afterName_nil (i : Nat) (e : String) : afterName i [] e = " Expression" ++ ": " ++ e :=
  rfl

/-- A type argument has its number in front. -/
lemma afterName_cons (i : Nat) (name : String) (names : List String) (e : String) :
    afterName i (name :: names) e = " Argument " ++ toString i ++ ": " ++ (name ++ afterName (i + 1) names e) := by
  simp only [afterName, argumentSegments, String.append_assoc]

/-- A name, the arguments after it and the expression are read in one way only. -/
lemma append_afterName_inj (hname : IsPlainName name) (hname' : IsPlainName name')
    (hnames : ∀ n ∈ names, IsPlainName n) (hnames' : ∀ n ∈ names', IsPlainName n)
    (h : name ++ afterName i names e = name' ++ afterName i names' e') :
    name = name' ∧ names = names' ∧ e = e' := by
  -- both sides count their arguments from the same position, so equal labels leave equal names before them
  induction names generalizing name name' names' i with
  | nil =>
    cases names' with
    | nil =>
      rw [afterName_nil, afterName_nil] at h
      obtain ⟨hleft, hright⟩ := append_label_inj hname hname' isLabel_expression isLabel_expression h
      exact ⟨(String.append_left_inj _).1 hleft, rfl, hright⟩
    | cons n' names' =>
      rw [afterName_nil, afterName_cons] at h
      obtain ⟨hleft, -⟩ := append_label_inj hname hname' isLabel_expression (isLabel_argument i) h
      exact absurd hleft (expression_ne_argument name name' i)
  | cons n names ih =>
    cases names' with
    | nil =>
      rw [afterName_nil, afterName_cons] at h
      obtain ⟨hleft, -⟩ := append_label_inj hname hname' (isLabel_argument i) isLabel_expression h
      exact absurd hleft.symm (expression_ne_argument name' name i)
    | cons n' names' =>
      obtain ⟨hn, hnames⟩ := List.forall_mem_cons.1 hnames
      obtain ⟨hn', hnames'⟩ := List.forall_mem_cons.1 hnames'
      rw [afterName_cons, afterName_cons] at h
      obtain ⟨hleft, hright⟩ := append_label_inj hname hname' (isLabel_argument i) (isLabel_argument i) h
      obtain ⟨rfl, rfl, rfl⟩ := ih hn hn' hnames hnames' hright
      exact ⟨(String.append_left_inj _).1 hleft, rfl, rfl⟩

/-! ## Payloads -/

namespace TypeRef

/-- The names of a function type cannot run into the labels of a payload, and the type has a name. -/
structure Separable (t : TypeRef) : Prop where
  named : t.name ≠ ""
  name_plain : IsPlainName t.name
  arguments_plain : ∀ a ∈ t.arguments, IsPlainName a.name

/-- The names of a type that its payloads show: none unless its values are functions. -/
def shown (t : TypeRef) : String × List String :=
  if t.isFunction then (t.name, t.arguments.map TypeRef.name) else ("", [])

/-- A function type is shown with its name and its arguments. -/
lemma shown_of_function (h : t.isFunction = true) : t.shown = (t.name, t.arguments.map TypeRef.name) :=
  if_pos h

/-- Another type is not shown. -/
lemma shown_of_no_function (h : t.isFunction = false) : t.shown = ("", []) :=
  if_neg (ne_true_of_eq_false h)

/-- What is shown of a type is plain, if the type can be told apart. -/
lemma shown_plain (h : t.isFunction = true → t.Separable) :
    IsPlainName t.shown.1 ∧ ∀ n ∈ t.shown.2, IsPlainName n := by
  cases hfunction : t.isFunction with
  | false =>
    rw [shown_of_no_function hfunction]
    exact ⟨isPlainName_of_notMem (by decide), fun n hn => absurd hn List.not_mem_nil⟩
  | true =>
    rw [shown_of_function hfunction]
    exact ⟨(h hfunction).name_plain, List.forall_mem_map.2 (h hfunction).arguments_plain⟩

/-- A named function type is told from a type that is none, and else the names tell. -/
lemma shown_eq_iff (h : t.isFunction = true → t.Separable) (h' : t'.isFunction = true → t'.Separable) :
    t.shown = t'.shown ↔
      (t.isFunction = false ∧ t'.isFunction = false) ∨
        (t.isFunction = true ∧ t'.isFunction = true ∧ t.name = t'.name ∧
          t.arguments.map TypeRef.name = t'.arguments.map TypeRef.name) := by
  cases hfunction : t.isFunction with
  | false =>
    rw [shown_of_no_function hfunction]
    cases hfunction' : t'.isFunction with
    | false =>
      rw [shown_of_no_function hfunction']
      exact ⟨fun _ => .inl ⟨rfl, rfl⟩, fun _ => rfl⟩
    | true =>
      rw [shown_of_function hfunction', Prod.mk.injEq]
      have hnamed := (h' hfunction').named
      simp [hnamed.symm]
  | true =>
    rw [shown_of_function hfunction]
    cases hfunction' : t'.isFunction with
    | false =>
      rw [shown_of_no_function hfunction', Prod.mk.injEq]
      have hnamed := (h hfunction).named
      simp [hnamed]
    | true =>
      rw [shown_of_function hfunction', Prod.mk.injEq]
      simp

end TypeRef

/-- A payload is what is shown of the type, with labels, and then the expression. -/
lemma payload_eq_append (t : TypeRef) (e : String) : payload t e = t.shown.1 ++ afterName 0 t.shown.2 e := by
  cases hfunction : t.isFunction with
  | false =>
    rw [TypeRef.shown_of_no_function hfunction, payload, TypeRef.descriptor, hfunction]
    rfl
  | true =>
    rw [TypeRef.shown_of_function hfunction, payload, TypeRef.descriptor, hfunction, afterName]
    simp only [if_true, String.append_assoc]

/-- Two payloads are equal exactly if the expressions are, and both types are function types with the same name and the
same names of their arguments, or neither is a function type. -/
theorem payload_eq_iff (ht : t.isFunction = true → t.Separable) (ht' : t'.isFunction = true → t'.Separable) :
    payload t e = payload t' e' ↔
      e = e' ∧
        ((t.isFunction = false ∧ t'.isFunction = false) ∨
          (t.isFunction = true ∧ t'.isFunction = true ∧ t.name = t'.name ∧
            t.arguments.map TypeRef.name = t'.arguments.map TypeRef.name)) := by
  rw [← TypeRef.shown_eq_iff ht ht', payload_eq_append, payload_eq_append]
  obtain ⟨hname, hnames⟩ := TypeRef.shown_plain ht
  obtain ⟨hname', hnames'⟩ := TypeRef.shown_plain ht'
  constructor
  · intro h
    obtain ⟨hfirst, hrest, he⟩ := append_afterName_inj hname hname' hnames hnames' h
    exact ⟨he, Prod.ext hfirst hrest⟩
  · rintro ⟨rfl, hshown⟩
    rw [hshown]

/-- A function type with arguments of the given names. -/
def funcOf (arguments : List String) : TypeRef :=
  .mk "Func" .delegate (arguments.map (.mk · .unknown []))

/-- A function type with plain arguments can be told apart. -/
lemma separable_funcOf {arguments : List String} (h : ∀ n ∈ arguments, IsPlainName n) : (funcOf arguments).Separable := by
  have hnamed : "Func" ≠ "" := by decide
  have hplain : IsPlainName "Func" := isPlainName_of_notMem (by decide)
  exact ⟨hnamed, hplain, List.forall_mem_map.2 h⟩

/-- Names that hold blanks, colons and the words of labels, beside an expression that starts with a label. -/
theorem payload_ne_of_label_words :
    (funcOf ["int Expression", "x:y"]).Separable ∧ (funcOf ["int", "x:y"]).Separable ∧
      payload (funcOf ["int Expression", "x:y"]) "1" ≠ payload (funcOf ["int", "x:y"]) " Expression: 1" := by
  have hfunc {name : String} (hname : ':' ∉ name.toList) : (funcOf [name, "x:y"]).Separable := by
    apply separable_funcOf
    exact List.forall_mem_cons.2 ⟨isPlainName_of_notMem hname, List.forall_mem_singleton.2 ⟨by decide, by decide⟩⟩
  have hwords : (funcOf ["int Expression", "x:y"]).Separable := hfunc (by decide)
  have hplain : (funcOf ["int", "x:y"]).Separable := hfunc (by decide)
  refine ⟨hwords, hplain, ?_⟩
  rw [ne_eq, payload_eq_iff (fun _ => hwords) (fun _ => hplain)]
  decide

end PropertyQuote
