import Mathlib.Data.List.Basic
import PropertyQuote.CSharp.Compilation
import PropertyQuote.CSharp.Reader

/-!
# What holds of all properties of an outline

An outline is made by a walk through a syntax tree.  What holds of the nodes on the way, of the namespaces and of
the types around a property is handed down, and so it holds where the property stands.

* `HandedDown`: what a step of the walk has to keep.
* `forall_entries_outline`: then it holds of all properties of the outline.
* `entry_mem_ofFiles`: the properties of a program are those of the outlines of its files.
-/

namespace PropertyQuote.CSharp

/-! ## Nodes that are visited -/

/-- The kinds of nodes that an outline looks into. -/
def visits : NodeKind → Bool
  | .compilationUnit | .namespaceDeclaration | .fileScopedNamespace | .declarationList => true
  | .classDeclaration | .structDeclaration | .interfaceDeclaration => true
  | .recordDeclaration | .recordStructDeclaration => true
  | _ => false

/-- Nodes that an outline does not look into.  It looks into a body whatever its kind. -/
def Node.isSkipped (n : Node) : Bool :=
  !visits n.kind && n.role != .body

/-- A node of a visited kind is not skipped. -/
lemma isSkipped_of_visits {n : Node} (h : visits n.kind = true) : n.isSkipped = false := by
  rw [Node.isSkipped, h]
  rfl

/-- A body is not skipped. -/
lemma isSkipped_of_body {n : Node} (h : n.role = .body) : n.isSkipped = false := by
  rw [Node.isSkipped, h]
  exact Bool.and_false _

/-- The kind of a type declaration is visited. -/
lemma visits_of_declaredKind? {n : Node} (h : (declaredKind? n).isSome) : visits n.kind = true := by
  unfold declaredKind? at h
  split at h <;> simp_all [visits]

/-! ## Properties of an outline -/

/-- The properties of an outline. -/
def entriesIn : List Item → List PropertyEntry
  | [] => []
  | .property entry :: rest => entry :: entriesIn rest
  | .block items :: rest => entriesIn items ++ entriesIn rest
  | .using .. :: rest => entriesIn rest
  | .type _ :: rest => entriesIn rest

/-- The entries of outlines that follow each other follow each other. -/
lemma entriesIn_append (items items' : List Item) :
    entriesIn (items ++ items') = entriesIn items ++ entriesIn items' := by
  induction items with
  | nil => simp [entriesIn]
  | cons item rest ih => cases item <;> simp [entriesIn, ih]

/-- So do their types. -/
lemma typesIn_append (items items' : List Item) : typesIn (items ++ items') = typesIn items ++ typesIn items' := by
  induction items with
  | nil => simp [typesIn]
  | cons item rest ih => cases item <;> simp [typesIn, ih]

/-- So do their directives for all files. -/
lemma globalsIn_append (items items' : List Item) :
    globalsIn (items ++ items') = globalsIn items ++ globalsIn items' := by
  induction items with
  | nil => simp [globalsIn]
  | cons item rest ih =>
    cases item with
    | «using» isGlobal u => cases isGlobal <;> simp [globalsIn, ih]
    | type t => simp [globalsIn, ih]
    | property e => simp [globalsIn, ih]
    | block items => simp [globalsIn, ih]

/-- The second of two outlines goes on with the scope after the first. -/
lemma Scope.after_append (s : Scope) (items items' : List Item) :
    s.after (items ++ items') = (s.after items).after items' := by
  induction items generalizing s with
  | nil => rw [List.nil_append, Scope.after]
  | cons item rest ih =>
    cases item with
    | «using» isGlobal u => cases isGlobal <;> simp [Scope.after, ih]
    | type t => simp [Scope.after, ih]
    | property e => simp [Scope.after, ih]
    | block items => simp [Scope.after, ih]

/-- Its properties see the scope after the first. -/
lemma propertiesIn_append (final current : Scope) (items items' : List Item) :
    propertiesIn final current (items ++ items') =
      propertiesIn final current items ++ propertiesIn final (current.after items) items' := by
  induction items generalizing current with
  | nil => simp [propertiesIn, Scope.after]
  | cons item rest ih =>
    cases item with
    | «using» isGlobal u => cases isGlobal <;> simp [propertiesIn, Scope.after, ih]
    | type t => simp [propertiesIn, Scope.after, ih]
    | property e => simp [propertiesIn, Scope.after, ih]
    | block items => simp [propertiesIn, Scope.after, ih]

/-- Using directives in force do not matter for what the properties are. -/
lemma map_entry_propertiesIn (final current : Scope) (items : List Item) :
    (propertiesIn final current items).map Property.entry = entriesIn items := by
  fun_induction propertiesIn final current items <;> simp_all [entriesIn]

/-- Each entry is one property. -/
lemma length_propertiesIn (final current : Scope) (items : List Item) :
    (propertiesIn final current items).length = (entriesIn items).length := by
  rw [← map_entry_propertiesIn final current, List.length_map]

/-- Using directives are no properties. -/
lemma entriesIn_using? (source : Source) (n : Node) : entriesIn (using? source n).toList = [] := by
  unfold using?
  repeat' split
  all_goals simp [entriesIn]

/-- Enumerations and delegates are no properties. -/
lemma entriesIn_plainType? (source : Source) (home : String) (owner : Option TypeSymbol) (kind : TypeKind)
    (arity : Nat) (n : Node) : entriesIn (plainType? source home owner kind arity n).toList = [] := by
  unfold plainType?
  dsimp only
  split <;> simp [entriesIn]

/-- The entries of an outline of properties alone. -/
lemma entriesIn_map_property (entries : List PropertyEntry) :
    entriesIn (entries.map .property) = entries := by
  induction entries with
  | nil => rw [List.map_nil, entriesIn]
  | cons entry entries ih => rw [List.map_cons, entriesIn, ih]

/-! ## The walk -/

/-- What a step of the walk keeps: `Good` holds of nodes, `Home` of the namespace and `Owner` of the type
around a place, and `Kept` of the properties. -/
structure HandedDown (path : String) (source : Source) (Good : Node → Prop) (Home : String → Prop)
    (Owner : TypeSymbol → Prop) (Kept : PropertyEntry → Prop) : Prop where
  child : ∀ {n : Node}, Good n → n.isSkipped = false → ∀ c ∈ n.children, Good c
  inner : ∀ {n : Node} {home : String}, Home home → Home (Name.join home (nameOf source n))
  type : ∀ {n : Node} {kind : TypeKind} {home : String} {owner : Option TypeSymbol}, Good n →
    declaredKind? n = some kind → Home home → (∀ t ∈ owner, Owner t) →
    Owner (typeSymbol ⟨nameOf source n, kind.word, typeParameters source n⟩ home owner)
  property : ∀ {n : Node} {home : String} {t : TypeSymbol} {entry : PropertyEntry}, Home home → Owner t →
    property? path source home t n = some entry → Kept entry

section Walk
variable {path : String} {source : Source} {Good : Node → Prop} {Home : String → Prop}
  {Owner : TypeSymbol → Prop} {Kept : PropertyEntry → Prop}

mutual

/-- What is handed down holds of all properties in the outline of a node. -/
lemma forall_entries_outline (h : HandedDown path source Good Home Owner Kept) {home : String}
    {owner : Option TypeSymbol} (hhome : Home home) (howner : ∀ t ∈ owner, Owner t) :
    (n : Node) → (∀ c ∈ n.children, Good c) →
      ∀ entry ∈ entriesIn (outline path source home owner n), Kept entry
  | .mk _ _ _ _ _ children, hgood => by
    rw [outline]
    exact forall_entries_outlineAll h hhome howner children hgood

/-- The same for some nodes, one after the other. -/
lemma forall_entries_outlineAll (h : HandedDown path source Good Home Owner Kept) {home : String}
    {owner : Option TypeSymbol} (hhome : Home home) (howner : ∀ t ∈ owner, Owner t) :
    (ns : List Node) → (∀ n ∈ ns, Good n) →
      ∀ entry ∈ entriesIn (outlineAll path source home owner ns), Kept entry
  | [], _ => by
    rw [outlineAll, entriesIn]
    exact fun _ => nofun
  | n :: rest, hgood => by
    obtain ⟨hn, hrest⟩ := List.forall_mem_cons.1 hgood
    have htail {home : String} (hhome : Home home) :
        ∀ entry ∈ entriesIn (outlineAll path source home owner rest), Kept entry :=
      forall_entries_outlineAll h hhome howner rest hrest
    have hinside (hvisited : visits n.kind = true) : ∀ c ∈ n.children, Good c :=
      h.child hn (isSkipped_of_visits hvisited)
    have hnone : ∀ t ∈ (none : Option TypeSymbol), Owner t := nofun
    rw [outlineAll]
    split
    case h_1 hkind =>
      dsimp only
      rw [entriesIn_append, List.forall_mem_append]
      exact ⟨forall_entries_outline h (h.inner hhome) hnone n (hinside (by rw [hkind]; rfl)),
        htail (h.inner hhome)⟩
    case h_2 hkind =>
      rw [entriesIn, List.forall_mem_append]
      exact ⟨forall_entries_outlineBody h (h.inner hhome) hnone n (hinside (by rw [hkind]; rfl)),
        htail hhome⟩
    case h_3 =>
      rw [entriesIn_append, entriesIn_using?]
      exact htail hhome
    case h_4 =>
      rw [entriesIn_append, entriesIn_plainType?]
      exact htail hhome
    case h_5 =>
      rw [entriesIn_append, entriesIn_plainType?]
      exact htail hhome
    case h_6 =>
      rw [entriesIn_append, entriesIn_map_property, List.forall_mem_append]
      refine ⟨?_, htail hhome⟩
      intro entry hentry
      obtain ⟨t, ht, hproperty⟩ := Option.bind_eq_some_iff.1 (Option.mem_toList.1 hentry)
      exact h.property hhome (howner t ht) hproperty
    case h_7 hkind =>
      rw [entriesIn_append, List.forall_mem_append]
      exact ⟨forall_entries_outline h hhome howner n (hinside (by rw [hkind]; rfl)), htail hhome⟩
    case h_8 =>
      split
      case h_1 => exact htail hhome
      case h_2 kind hkind =>
        have hvisited := visits_of_declaredKind? (n := n) (by rw [hkind]; rfl)
        dsimp only
        split
        · exact htail hhome
        · -- the type is the owner of what stands in its body
          rw [List.cons_append, entriesIn, entriesIn_append, List.forall_mem_append]
          refine ⟨forall_entries_outlineBody h hhome ?_ n (hinside hvisited), htail hhome⟩
          rintro t ⟨⟩
          exact h.type hn hkind hhome howner

/-- The same for the body of a node. -/
lemma forall_entries_outlineBody (h : HandedDown path source Good Home Owner Kept) {home : String}
    {owner : Option TypeSymbol} (hhome : Home home) (howner : ∀ t ∈ owner, Owner t) :
    (n : Node) → (∀ c ∈ n.children, Good c) →
      ∀ entry ∈ entriesIn (outlineBody path source home owner n), Kept entry
  | .mk _ _ _ _ _ children, hgood => by
    rw [outlineBody]
    exact forall_entries_outlineFirstBody h hhome howner children hgood

/-- The same for the first body among some children. -/
lemma forall_entries_outlineFirstBody (h : HandedDown path source Good Home Owner Kept) {home : String}
    {owner : Option TypeSymbol} (hhome : Home home) (howner : ∀ t ∈ owner, Owner t) :
    (ns : List Node) → (∀ n ∈ ns, Good n) →
      ∀ entry ∈ entriesIn (outlineFirstBody path source home owner ns), Kept entry
  | [], _ => by
    rw [outlineFirstBody, entriesIn]
    exact fun _ => nofun
  | n :: rest, hgood => by
    obtain ⟨hn, hrest⟩ := List.forall_mem_cons.1 hgood
    rw [outlineFirstBody]
    split
    case isTrue hrole =>
      exact forall_entries_outline h hhome howner n (h.child hn (isSkipped_of_body (beq_iff_eq.1 hrole)))
    case isFalse => exact forall_entries_outlineFirstBody h hhome howner rest hrest

end

end Walk

/-! ## Programs -/

/-- The properties of a program are those of the outlines of its files. -/
lemma entry_mem_ofFiles {files : List File} {p : Property}
    (h : p ∈ (Compilation.ofFiles files).properties) : ∃ f ∈ files, p.entry ∈ entriesIn f.outline := by
  simp only [Compilation.ofFiles, List.mem_flatMap, List.mem_map, List.mem_mergeSort] at h
  obtain ⟨items, ⟨f, hf, rfl⟩, hp⟩ := h
  refine ⟨f, hf, ?_⟩
  rw [← map_entry_propertiesIn (Scope.after {} f.outline) {}]
  exact List.mem_map_of_mem hp

/-- The program that is read from some texts with their paths. -/
def Compilation.ofTexts (parse : Parser) (texts : List (String × String)) : Compilation :=
  ofFiles (texts.map fun (path, text) => File.ofText parse path text)

end PropertyQuote.CSharp
