import PropertyQuote.Proofs.CSharp.Outlines
import PropertyQuote.Proofs.CSharp.Words

/-!
# Names of declared types

The name of a type that is read from a source text is one word, so it holds no dot.  The trees that the reader
makes keep this, with directives or without, and so do outlines: the owners of all properties have simple
names.

* `Node.SimplyNamed`: the type declarations that an outline visits have simple names.
* `simplyNamed_parse`: the reader makes such trees.
* `Parser.NamesSimply`, `simple_owner`: with such a parser, the owners of the properties of a program have simple names.
-/

namespace PropertyQuote.CSharp

/-! ## Trees with simple names -/

/-- The type declarations that an outline visits have simple names. -/
inductive Node.SimplyNamed (source : Source) : Node → Prop
  | skipped {n : Node} : n.isSkipped = true → SimplyNamed source n
  | visited {n : Node} : ((declaredKind? n).isSome → '.' ∉ (nameOf source n).toList) →
      (∀ c ∈ n.children, SimplyNamed source c) → SimplyNamed source n

variable {source : Source}

/-- The nodes inside of a node that is visited. -/
lemma Node.SimplyNamed.children {n : Node} (h : n.SimplyNamed source)
    (hvisited : n.isSkipped = false) : ∀ c ∈ n.children, c.SimplyNamed source := by
  cases h with
  | skipped h =>
    rw [h] at hvisited
    cases hvisited
  | visited _ hchildren => exact hchildren

/-- The name of a node that is visited. -/
lemma Node.SimplyNamed.name {n : Node} (h : n.SimplyNamed source) (hvisited : n.isSkipped = false)
    (hdeclared : (declaredKind? n).isSome) : '.' ∉ (nameOf source n).toList := by
  cases h with
  | skipped h =>
    rw [h] at hvisited
    cases hvisited
  | visited hname _ => exact hname hdeclared

/-! ## Nodes that are not visited -/

/-- A node in another role is not visited either, unless it is a body then. -/
lemma isSkipped_withRole {n : Node} {role : Role} (h : n.isSkipped = true) (hrole : role ≠ .body) :
    (n.withRole role).isSkipped = true := by
  simp only [Node.isSkipped, Bool.and_eq_true] at h ⊢
  exact ⟨h.1, by simpa [Node.withRole, Node.role] using hrole⟩

/-- A list of type parameters is not visited. -/
lemma isSkipped_typeParameterList? {ts : List TokenTree} {n : Node} (h : typeParameterList? ts = some n) :
    n.isSkipped = true := by
  match ts with
  | [] => cases h
  | angle :: rest =>
    rw [typeParameterList?] at h
    split at h
    · cases h
      rfl
    · cases h

/-- One segment of a name is not visited. -/
lemma isSkipped_segmentAt {fuel : Nat} {ts rest : List TokenTree} {n : Node}
    (h : segmentAt fuel ts = some (n, rest)) : n.isSkipped = true := by
  match fuel, ts with
  | 0, _ => simp [segmentAt] at h
  | _ + 1, [] => simp [segmentAt] at h
  | fuel + 1, t :: after =>
    simp only [segmentAt] at h
    split at h
    · cases h
    · split at h
      · split at h
        · obtain ⟨_, _, hn⟩ := Option.map_eq_some_iff.1 h
          cases hn
          rfl
        · cases h
          rfl
      · cases h
        rfl

/-- A name with qualifiers is not visited. -/
lemma isSkipped_qualifiedFrom {fuel : Nat} {left : Node} {ts : List TokenTree}
    (h : left.isSkipped = true) : (qualifiedFrom fuel left ts).1.isSkipped = true := by
  induction fuel generalizing left ts with
  | zero => simpa [qualifiedFrom] using h
  | succ fuel ih =>
    match ts with
    | [] => simpa [qualifiedFrom] using h
    | t :: rest =>
      rw [qualifiedFrom]
      split
      case h_1 => exact h
      case h_2 kind role hkind =>
        split
        · refine ih ?_
          split_ifs at hkind <;> cases hkind <;> rfl
        · exact h

/-- A name is not visited. -/
lemma isSkipped_readName? {ts rest : List TokenTree} {n : Node} (h : readName? ts = some (n, rest)) :
    n.isSkipped = true := by
  match ts with
  | [] => simp [readName?, fuelFor, nameAt] at h
  | t :: after =>
    rw [readName?, fuelFor, nameAt] at h
    split at h
    · cases h
      rfl
    · split at h
      case h_1 n' rest' hsegment =>
        obtain rfl := congrArg Prod.fst (Option.some.inj h)
        exact isSkipped_qualifiedFrom (isSkipped_segmentAt hsegment)
      case h_2 => cases h

/-- A declaration with a name is visited if its kind is. -/
lemma isSkipped_namedNode? {kind : NodeKind} {start : Nat} {lead body : List Node} {ts : List TokenTree}
    {n : Node} (h : namedNode? kind start lead ts body = some n) (hkind : visits kind = false) :
    n.isSkipped = true := by
  unfold namedNode? at h
  split at h
  · split at h
    · cases h
      simp [Node.isSkipped, Node.plain, Node.kind, Node.role, hkind]
    · cases h
  · cases h

/-- A using directive is not visited. -/
lemma isSkipped_usingNode? {start : Nat} {isGlobal : Bool} {ts : List TokenTree} {n : Node}
    (h : usingNode? start isGlobal ts = some n) : n.isSkipped = true := by
  unfold usingNode? at h
  dsimp only at h
  split at h
  · split at h
    all_goals
      obtain ⟨_, -, h⟩ := Option.bind_eq_some_iff.1 h
      split at h
      · split at h
        · cases h
          rfl
        · cases h
      · cases h
  · cases h

/-- A property is not visited. -/
lemma isSkipped_propertyNode? {start : Nat} {lead : List Node} {ts : List TokenTree} {n : Node}
    (h : propertyNode? start lead ts = some n) : n.isSkipped = true := by
  obtain ⟨⟨type, afterType⟩, -, h⟩ := Option.bind_eq_some_iff.1 h
  obtain ⟨⟨name, afterName⟩, -, h⟩ := Option.bind_eq_some_iff.1 h
  dsimp only at h
  split at h
  · split_ifs at h
    · cases h
      rfl
    · cases h
      rfl
    · cases h
  · cases h

/-! ## Reading -/

/-- The name of a declaration is the first child in that role. -/
lemma nameOf_of_child? {n name : Node} (h : n.child? .name = some name) :
    nameOf source n = Name.normalised (source.slice name.start name.stop) := by
  rw [nameOf, h]
  rfl

/-- A declaration with a name that is one word is simply named. -/
lemma simplyNamed_namedNode? {kind : NodeKind} {start : Nat} {lead body : List Node}
    {ts : List TokenTree} {n : Node} (h : namedNode? kind start lead ts body = some n)
    (hts : ∀ t ∈ ts, t.Simple source) (hrole : ∀ c ∈ lead, c.role ≠ .name)
    (hlead : ∀ c ∈ lead, c.SimplyNamed source) (hbody : ∀ c ∈ body, c.SimplyNamed source) :
    n.SimplyNamed source := by
  match ts with
  | [] => cases h
  | t :: rest =>
    rw [namedNode?] at h
    split at h
    case isFalse => cases h
    case isTrue hword =>
      obtain rfl := Option.some.inj h
      refine .visited (fun _ => ?_) ?_
      · have hnone : lead.find? (·.role == .name) = none :=
          List.find?_eq_none.2 fun c hc => by simpa using hrole c hc
        have hname : (Node.plain kind start t.stop
            (lead ++ (t.node .identifier).withRole .name :: (typeParameterList? rest).toList ++
              body)).child? .name = some ((t.node .identifier).withRole .name) := by
          simp only [Node.child?, Node.plain, Node.children, List.append_assoc, List.cons_append,
            List.find?_append, hnone, List.find?_cons]
          rfl
        rw [nameOf_of_child? hname]
        exact (hts t List.mem_cons_self).simpleAt hword
      · intro c hc
        simp only [Node.plain, Node.children, List.append_assoc, List.cons_append, List.mem_append,
          List.mem_cons] at hc
        rcases hc with hc | rfl | hc | hc
        · exact hlead c hc
        · exact .skipped rfl
        · exact .skipped (isSkipped_typeParameterList? (Option.mem_toList.1 hc))
        · exact hbody c hc

/-- Leaving out the modifiers brings in no trees. -/
lemma mem_of_mem_takeModifiers {ts : List TokenTree} {t : TokenTree} (h : t ∈ (takeModifiers ts).2) :
    t ∈ ts := by
  induction ts with
  | nil => simp [takeModifiers] at h
  | cons u rest ih =>
    rw [takeModifiers] at h
    split at h
    · exact List.mem_cons_of_mem _ (ih h)
    · exact h

/-- The trees of an item after its attributes and modifiers. -/
lemma simple_takeModifiers {ts : List TokenTree} (hts : ∀ t ∈ ts, t.Simple source) :
    ∀ t ∈ (takeModifiers (takeAttributes ts).2).2, t.Simple source :=
  fun t ht => hts t ((List.dropWhile_sublist _).mem (mem_of_mem_takeModifiers ht))

/-- A declaration that is read from an item is not visited or simply named, if bodies are. -/
lemma simplyNamed_declarationAt_succ {fuel : Nat} {ts : List TokenTree} {n : Node}
    (hts : ∀ t ∈ ts, t.Simple source)
    (ih : ∀ t, t.Simple source → ((bodyAt fuel t).withRole .body).SimplyNamed source)
    (h : declarationAt (fuel + 1) ts = some n) : n.SimplyNamed source := by
  rw [declarationAt] at h
  dsimp only at h
  have hrest := simple_takeModifiers hts
  split at h
  case h_1 => cases h
  case h_2 t after hafter =>
    have hafter : ∀ u ∈ after, u.Simple source :=
      fun u hu => hrest u (hafter ▸ List.mem_cons_of_mem _ hu)
    have hbody : ∀ c ∈ (after.filter (·.isGroup '\x7b')).head?.toList.map fun b =>
        (bodyAt fuel b).withRole .body, c.SimplyNamed source := by
      intro c hc
      obtain ⟨b, hb, rfl⟩ := List.mem_map.1 hc
      have hmem := List.mem_of_mem_filter (List.mem_of_mem_head? (Option.mem_toList.1 hb))
      exact ih b (hafter b hmem)
    -- the first word says what is declared
    split at h
    · exact .skipped (isSkipped_usingNode? h)
    · split at h
      · split at h
        · exact .skipped (isSkipped_usingNode? h)
        · exact .skipped (isSkipped_propertyNode? h)
      · cases h
    · -- a namespace: its name may hold dots, but it declares no type
      obtain ⟨⟨name, _⟩, hname, rfl⟩ := Option.map_eq_some_iff.1 h
      have hname : (name.withRole .name).SimplyNamed source :=
        .skipped (isSkipped_withRole (isSkipped_readName? hname) (by decide))
      refine .visited (fun hdeclared => ?_) (List.forall_mem_cons.2 ⟨hname, hbody⟩)
      dsimp only [declaredKind?, Node.plain, Node.kind] at hdeclared
      split_ifs at hdeclared <;> cases hdeclared
    · exact .skipped (isSkipped_namedNode? h rfl)
    · cases h
    · -- a type, with one word or two before its name, or else a delegate or a property
      split at h
      · split at h
        · exact simplyNamed_namedNode? h (List.forall_mem_cons.1 hafter).2 (by simp [Node.role])
            (List.forall_mem_singleton.2 (.skipped rfl)) hbody
        · split at h
          · exact simplyNamed_namedNode? h (List.forall_mem_cons.1 hafter).2 (by simp) (by simp) hbody
          · exact simplyNamed_namedNode? h hafter (by simp) (by simp) hbody
      · exact simplyNamed_namedNode? h hafter (by simp) (by simp) hbody
      · split at h
        · obtain ⟨_, -, h⟩ := Option.bind_eq_some_iff.1 h
          exact .skipped (isSkipped_namedNode? h rfl)
        · exact .skipped (isSkipped_propertyNode? h)
    · exact .skipped (isSkipped_propertyNode? h)

/-- A body that is read without a look inside is simply named. -/
lemma simplyNamed_node_declarationList (t : TokenTree) :
    ((t.node .declarationList).withRole .body).SimplyNamed source :=
  .visited (fun h => by cases h) (fun _ hc => by cases hc)

/-- Declarations that are read from items of simple names are simply named, and so are bodies. -/
lemma simplyNamed_declarationAt (fuel : Nat) :
    (∀ ts n, (∀ t ∈ ts, t.Simple source) → declarationAt fuel ts = some n → n.SimplyNamed source) ∧
    (∀ t, t.Simple source → ((bodyAt fuel t).withRole .body).SimplyNamed source) := by
  induction fuel with
  | zero =>
    refine ⟨fun ts n _ h => ?_, fun t _ => ?_⟩
    · simp [declarationAt] at h
    · simpa [bodyAt] using simplyNamed_node_declarationList t
  | succ fuel ih =>
    refine ⟨fun ts n hts h => simplyNamed_declarationAt_succ hts ih.2 h, fun t ht => ?_⟩
    cases ht with
    | @leaf t ht => simpa [bodyAt] using simplyNamed_node_declarationList (.leaf t)
    | group hitems =>
      rw [bodyAt]
      refine .visited (fun h => by cases h) fun c hc => ?_
      obtain ⟨item, hitem, hdeclaration⟩ := List.mem_filterMap.1 hc
      exact ih.1 item c (TokenTree.Simple.items hitems item hitem) hdeclaration

/-! ## Directives -/

/-- Directives change neither the range nor the role nor the kind of a node. -/
lemma withDirectives_fields (directives : List Token) (n : Node) :
    (withDirectives directives n).kind = n.kind ∧ (withDirectives directives n).role = n.role ∧
      (withDirectives directives n).start = n.start ∧ (withDirectives directives n).stop = n.stop := by
  cases n
  rw [withDirectives]
  exact ⟨rfl, rfl, rfl, rfl⟩

/-- All nodes get their directives. -/
lemma allWithDirectives_eq (directives : List Token) (ns : List Node) :
    allWithDirectives directives ns = ns.map (withDirectives directives) := by
  induction ns with
  | nil => rw [allWithDirectives, List.map_nil]
  | cons n ns ih => rw [allWithDirectives, ih, List.map_cons]

/-- The children of a node with directives are its children with directives, and directives. -/
lemma mem_children_withDirectives {directives : List Token} {n c : Node}
    (h : c ∈ (withDirectives directives n).children) :
    (∃ m ∈ n.children, withDirectives directives m = c) ∨ c.isSkipped = true := by
  cases n
  rw [withDirectives, allWithDirectives_eq] at h
  simp only [Node.children] at h
  split at h
  · rw [List.mem_mergeSort, List.mem_append] at h
    rcases h with h | h
    · exact .inl (List.mem_map.1 h)
    · obtain ⟨d, -, rfl⟩ := List.mem_map.1 h
      exact .inr rfl
  · exact .inl (List.mem_map.1 h)

/-- The children of a node that does not count its parts. -/
lemma children_withDirectives {directives : List Token} {n : Node} (h : countsParts n.kind = false) :
    (withDirectives directives n).children = n.children.map (withDirectives directives) := by
  cases n
  rw [withDirectives, allWithDirectives_eq]
  simp only [Node.kind] at h
  simp [Node.children, h]

/-- Directives do not change the name of a declaration. -/
lemma nameOf_withDirectives {directives : List Token} {n : Node} (h : countsParts n.kind = false) :
    nameOf source (withDirectives directives n) = nameOf source n := by
  have htext (c : Node) : source.text (withDirectives directives c) = source.text c := by
    obtain ⟨-, -, hstart, hstop⟩ := withDirectives_fields directives c
    rw [Source.text, Source.text, hstart, hstop]
  have hchild : (withDirectives directives n).child? .name =
      (n.child? .name).map (withDirectives directives) := by
    rw [Node.child?, children_withDirectives h, List.find?_map]
    congr 2
    funext c
    exact congrArg (· == Role.name) (withDirectives_fields directives c).2.1
  have hname : (withDirectives directives n).children.find?
        (fun c => c.kind == .identifier || c.kind == .qualifiedName) =
      (n.children.find? fun c => c.kind == .identifier || c.kind == .qualifiedName).map
        (withDirectives directives) := by
    rw [children_withDirectives h, List.find?_map]
    congr 2
    funext c
    exact congrArg (fun k => k == NodeKind.identifier || k == .qualifiedName)
      (withDirectives_fields directives c).1
  -- the name is found by its role, or else by its kind
  unfold nameOf
  rw [hchild, hname]
  cases n.child? .name with
  | some name => exact congrArg Name.normalised (htext name)
  | none =>
    cases n.children.find? fun c => c.kind == .identifier || c.kind == .qualifiedName with
    | some name => exact congrArg Name.normalised (htext name)
    | none => rfl

/-- Whether a node declares a type is said by its kind. -/
lemma declaredKind?_isSome_congr {m n : Node} (h : m.kind = n.kind) :
    (declaredKind? m).isSome = (declaredKind? n).isSome := by
  unfold declaredKind?
  rw [h]
  split <;> rfl

/-- A type declaration does not count its parts. -/
lemma countsParts_eq_false {n : Node} (h : (declaredKind? n).isSome) : countsParts n.kind = false := by
  unfold declaredKind? at h
  split at h <;> simp_all [countsParts]

/-- Directives keep names simple. -/
lemma Node.SimplyNamed.withDirectives {n : Node} (h : n.SimplyNamed source) (directives : List Token) :
    (CSharp.withDirectives directives n).SimplyNamed source := by
  induction h with
  | @skipped n hskipped =>
    obtain ⟨hkind, hrole, -⟩ := withDirectives_fields directives n
    rw [isSkipped, ← hkind, ← hrole] at hskipped
    exact .skipped hskipped
  | @visited n hname _ ih =>
    obtain ⟨hkind, -⟩ := withDirectives_fields directives n
    refine .visited (fun hdeclared => ?_) fun c hc => ?_
    · rw [declaredKind?_isSome_congr hkind] at hdeclared
      rw [nameOf_withDirectives (countsParts_eq_false hdeclared)]
      exact hname hdeclared
    · rcases mem_children_withDirectives hc with ⟨m, hm, rfl⟩ | hc
      · exact ih m hm
      · exact .skipped hc

/-- The reader makes trees with simple names. -/
lemma simplyNamed_parse (text : List Char) : (parse text).SimplyNamed (Text.Utf8.encode text) := by
  have hcode : ∀ t ∈ (tokens text).filter (·.kind != .directive), t.Simple (Text.Utf8.encode text) :=
    fun t ht => simple_tokens text t (List.mem_of_mem_filter ht)
  have htrees : ∀ t ∈ arrange [] [] ((tokens text).filter (·.kind != .directive)),
      t.Simple (Text.Utf8.encode text) :=
    TokenTree.Simple.arrange (by simp) (by simp) hcode
  have hroot (fuel stop : Nat) : (Node.plain .compilationUnit 0 stop
      ((items (arrange [] [] ((tokens text).filter (·.kind != .directive)))).filterMap
        (declarationAt fuel))).SimplyNamed (Text.Utf8.encode text) := by
    refine .visited (fun h => by cases h) fun c hc => ?_
    obtain ⟨item, hitem, hdeclaration⟩ := List.mem_filterMap.1 hc
    exact (simplyNamed_declarationAt fuel).1 item c (TokenTree.Simple.items htrees item hitem)
      hdeclaration
  unfold parse
  dsimp only
  split
  · exact hroot _ _
  · exact (hroot _ _).withDirectives _

/-- The tree of a text is looked into. -/
lemma isSkipped_parse (text : List Char) : (parse text).isSkipped = false := by
  unfold parse
  dsimp only
  split
  · rfl
  · exact isSkipped_of_visits (by rw [(withDirectives_fields ..).1]; rfl)

/-! ## Outlines -/

/-- The symbol of a type declaration has the name of the declaration. -/
lemma name_typeSymbol (heading : TypeHeading) (home : String) (owner : Option TypeSymbol) :
    (typeSymbol heading home owner).name = heading.name := by
  cases owner <;> rfl

/-- A property belongs to the type around it. -/
lemma owner_of_property? {path home : String} {t : TypeSymbol} {n : Node} {entry : PropertyEntry}
    (h : property? path source home t n = some entry) : entry.owner = t := by
  obtain ⟨name, -, rfl⟩ := Option.map_eq_some_iff.1 h
  rfl

/-- Simple names are handed down. -/
lemma handedDown_simplyNamed (path : String) :
    HandedDown path source (Node.SimplyNamed source) (fun _ => True) (fun t => '.' ∉ t.name.toList)
      fun entry => '.' ∉ entry.owner.name.toList where
  child := Node.SimplyNamed.children
  inner _ := trivial
  type hn hkind _ _ := by
    have hdeclared := Option.isSome_of_eq_some hkind
    rw [name_typeSymbol]
    exact hn.name (isSkipped_of_visits (visits_of_declaredKind? hdeclared)) hdeclared
  property _ ht h := by
    rw [owner_of_property? h]
    exact ht

/-- A parser that gives simple names to the types of every text. -/
def Parser.NamesSimply (parse : Parser) : Prop :=
  ∀ text, ∀ n ∈ (parse text).children, n.SimplyNamed (Text.Utf8.encode text)

/-- The parser that the program is run with names types simply. -/
lemma namesSimply_parse : Parser.NamesSimply parse :=
  fun text => (simplyNamed_parse text).children (isSkipped_parse text)

/-- The owners of the properties of a program that is read from texts have simple names. -/
lemma Parser.NamesSimply.simple_owner {parse : Parser} (hsimple : parse.NamesSimply)
    {texts : List (String × String)} {p : Property} (h : p ∈ (Compilation.ofTexts parse texts).properties) :
    '.' ∉ p.entry.owner.name.toList := by
  obtain ⟨f, hf, hentry⟩ := entry_mem_ofFiles h
  obtain ⟨⟨path, text⟩, -, rfl⟩ := List.mem_map.1 hf
  exact forall_entries_outline (handedDown_simplyNamed path) trivial (by simp) _ (hsimple text.toList) p.entry hentry

end PropertyQuote.CSharp
