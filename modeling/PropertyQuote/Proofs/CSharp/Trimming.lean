import PropertyQuote.Proofs.CSharp.Walk

/-!
# Trees without one of their directives

A directive that is taken out of a tree leaves no trace in the nodes above it: their names, their type parameters and
their sorts are read from other children, which stay where they are.

* `Node.dropAt`: a tree without the node at a place.
* `Trimmed`: children from which a directive was taken, or from one of which one was taken further below.
* `Trimmed.nameOf_eq`, `Trimmed.typeParameters_eq`, `Trimmed.sort_eq`: what stays.
-/

namespace PropertyQuote.CSharp

variable {source : Source} {n n' u : Node} {ns ns' rest : List Node} {i : Nat} {place : List Nat}

/-! ## Taking a node out -/

/-- The node without the one at a place below it. -/
def Node.dropAt : List Nat → Node → Node
  | [], n => n
  | [i], .mk kind role named start stop children => .mk kind role named start stop (children.eraseIdx i)
  | i :: j :: place, .mk kind role named start stop children =>
    .mk kind role named start stop (children.modify i (dropAt (j :: place)))

/-- Some nodes without the one at a place below the node with the given index, or without that node itself. -/
def dropIn (i : Nat) (place : List Nat) (ns : List Node) : List Node :=
  match place with
  | [] => ns.eraseIdx i
  | j :: place => ns.modify i (Node.dropAt (j :: place))

/-- A node below is dropped from the children. -/
lemma children_dropAt (i : Nat) (place : List Nat) (n : Node) :
    (n.dropAt (i :: place)).children = dropIn i place n.children := by
  cases n
  cases place <;> rfl

/-- The node itself stays where it is and what it is. -/
lemma fields_dropAt (place : List Nat) (n : Node) :
    (n.dropAt place).kind = n.kind ∧ (n.dropAt place).role = n.role ∧
      (n.dropAt place).start = n.start ∧ (n.dropAt place).stop = n.stop := by
  cases n
  match place with
  | [] => exact ⟨rfl, rfl, rfl, rfl⟩
  | [_] => exact ⟨rfl, rfl, rfl, rfl⟩
  | _ :: _ :: _ => exact ⟨rfl, rfl, rfl, rfl⟩

/-- The first node itself is dropped. -/
lemma dropIn_zero_nil : dropIn 0 [] (n :: rest) = rest :=
  rfl

/-- Something below the first node is dropped. -/
lemma dropIn_zero_cons (hplace : place ≠ []) : dropIn 0 place (n :: rest) = n.dropAt place :: rest := by
  cases place with
  | nil => exact absurd rfl hplace
  | cons j place => rfl

/-- Something in or below a later node is dropped. -/
lemma dropIn_succ : dropIn (i + 1) place (n :: rest) = n :: dropIn i place rest := by
  cases place <;> rfl

/-! ## Nodes that look the same from above -/

/-- Nodes that look the same to the nodes above them. -/
structure Alike (source : Source) (n n' : Node) : Prop where
  kind : n'.kind = n.kind
  role : n'.role = n.role
  text : source.text n' = source.text n
  parameter : parameterName? source n' = parameterName? source n
  parameters : (n'.children.filter (·.kind == .typeParameter)).filterMap (parameterName? source) =
    (n.children.filter (·.kind == .typeParameter)).filterMap (parameterName? source)

/-- A directive in no role is taken out of some nodes, or one of the nodes is replaced by one that looks the same. -/
inductive Trimmed (source : Source) : List Node → List Node → Prop
  | drop {u : Node} {ns : List Node} :
    u.kind = .usingDirective → u.role = .other → Trimmed source (u :: ns) ns
  | change {n n' : Node} {ns : List Node} :
    Alike source n n' → Trimmed source (n :: ns) (n' :: ns)
  | skip {n : Node} {ns ns' : List Node} :
    Trimmed source ns ns' → Trimmed source (n :: ns) (n :: ns')

namespace Trimmed

/-- What is found among the nodes looks the same. -/
lemma find?_map {β : Type} {q : Node → Bool} {v : Node → β} (h : Trimmed source ns ns')
    (hdrop : ∀ u : Node, u.kind = .usingDirective → u.role = .other → q u = false)
    (hq : ∀ n n', Alike source n n' → q n' = q n) (hv : ∀ n n', Alike source n n' → v n' = v n) :
    (ns'.find? q).map v = (ns.find? q).map v := by
  induction h with
  | drop hkind hrole => rw [List.find?_cons, hdrop _ hkind hrole]
  | @change n n' ns halike =>
    rw [List.find?_cons, List.find?_cons, hq n n' halike]
    cases q n with
    | true => exact congrArg some (hv n n' halike)
    | false => rfl
  | @skip n ns ns' _ ih =>
    rw [List.find?_cons, List.find?_cons]
    cases q n with
    | true => rfl
    | false => exact ih

/-- What looks the same about the child in a role stays. -/
lemma child?_map {β : Type} {v : Node → β} {r : Role} (h : Trimmed source n.children n'.children) (hr : r ≠ .other)
    (hv : ∀ n n', Alike source n n' → v n' = v n) : (n'.child? r).map v = (n.child? r).map v := by
  refine h.find?_map ?_ ?_ hv
  · intro u _ hrole
    rw [hrole]
    exact beq_false_of_ne hr.symm
  · intro n n' halike
    rw [halike.role]

/-- What looks the same about the first child of a kind stays, unless it is a directive. -/
lemma ofKind?_map {β : Type} {v : Node → β} {k : NodeKind} (h : Trimmed source n.children n'.children)
    (hk : k ≠ .usingDirective) (hv : ∀ n n', Alike source n n' → v n' = v n) :
    (n'.ofKind? k).map v = (n.ofKind? k).map v := by
  refine h.find?_map ?_ ?_ hv
  · intro u hkind _
    rw [hkind]
    exact beq_false_of_ne hk.symm
  · intro n n' halike
    rw [halike.kind]

/-- Children of other kinds are still there. -/
lemma has_eq {k : NodeKind} (h : Trimmed source n.children n'.children) (hk : k ≠ .usingDirective) :
    n'.has k = n.has k := by
  have hfound := h.ofKind?_map (v := fun _ => ()) hk fun _ _ _ => rfl
  have hsome := congrArg Option.isSome hfound
  rw [Option.isSome_map, Option.isSome_map, Bool.eq_iff_iff, Node.ofKind?, Node.ofKind?, List.find?_isSome,
    List.find?_isSome] at hsome
  rw [Bool.eq_iff_iff, Node.has, Node.has, List.any_eq_true, List.any_eq_true]
  exact hsome

/-- The name of a node stays. -/
lemma nameOf_eq (h : Trimmed source n.children n'.children) : nameOf source n' = nameOf source n := by
  have htext (n n' : Node) (halike : Alike source n n') :
      Name.normalised (source.text n') = Name.normalised (source.text n) := by
    rw [halike.text]
  -- a name is a child in the role of the name, or else a child of one of two kinds, and a directive is neither
  have hrole := h.child?_map (r := .name) nofun htext
  have hkind := h.find?_map (q := fun c => c.kind == .identifier || c.kind == .qualifiedName) ?_ ?_ htext
  · have hform (n : Node) : nameOf source n =
        (((n.child? .name).map fun c => Name.normalised (source.text c)).or
          ((n.children.find? fun c => c.kind == .identifier || c.kind == .qualifiedName).map
            fun c => Name.normalised (source.text c))).getD "" := by
      unfold nameOf
      cases n.child? .name with
      | some name => rfl
      | none => cases n.children.find? fun c => c.kind == .identifier || c.kind == .qualifiedName <;> rfl
    rw [hform, hform, hrole, hkind]
  · intro u hkind _
    rw [hkind]
    rfl
  · intro n n' halike
    rw [halike.kind]

/-- The name of a type parameter stays. -/
lemma parameterName?_eq (h : Trimmed source n.children n'.children) :
    parameterName? source n' = parameterName? source n := by
  have htext (n n' : Node) (halike : Alike source n n') : source.text n' = source.text n := halike.text
  have hrole := h.child?_map (r := .name) nofun htext
  have hkind := h.ofKind?_map (k := .identifier) nofun htext
  rw [parameterName?, parameterName?, Option.map_or, Option.map_or, hrole, hkind]

/-- The names of some type parameters stay. -/
lemma parameters_eq (h : Trimmed source ns ns') :
    (ns'.filter (·.kind == .typeParameter)).filterMap (parameterName? source) =
      (ns.filter (·.kind == .typeParameter)).filterMap (parameterName? source) := by
  induction h with
  | drop hkind _ =>
    rw [List.filter_cons_of_neg]
    rw [hkind]
    decide
  | @change n n' ns halike =>
    rw [List.filter_cons, List.filter_cons, halike.kind]
    split
    · rw [List.filterMap_cons, List.filterMap_cons, halike.parameter]
    · rfl
  | @skip n ns ns' _ ih =>
    rw [List.filter_cons, List.filter_cons]
    split
    · rw [List.filterMap_cons, List.filterMap_cons, ih]
    · exact ih

/-- The type parameters of a node stay. -/
lemma typeParameters_eq (h : Trimmed source n.children n'.children) :
    typeParameters source n' = typeParameters source n := by
  have hlist := h.ofKind?_map (k := .typeParameterList) nofun fun _ _ halike => halike.parameters
  have hform (n : Node) : typeParameters source n =
      ((n.ofKind? .typeParameterList).map fun list =>
        (list.children.filter (·.kind == .typeParameter)).filterMap (parameterName? source)).getD [] := by
    unfold typeParameters
    cases n.ofKind? .typeParameterList <;> rfl
  rw [hform, hform, hlist]

/-- The sort of a node stays. -/
lemma sort_eq (h : Trimmed source n.children n'.children) (hkind : n'.kind = n.kind) : n'.sort = n.sort := by
  have hword : n'.has .structWord = n.has .structWord := h.has_eq nofun
  unfold Node.sort declaredKind?
  rw [hkind, hword]

/-- A node looks the same from above after its children were trimmed. -/
lemma alike (h : Trimmed source n.children (n.dropAt place).children) : Alike source n (n.dropAt place) := by
  obtain ⟨hkind, hrole, hstart, hstop⟩ := fields_dropAt place n
  refine ⟨hkind, hrole, ?_, h.parameterName?_eq, h.parameters_eq⟩
  rw [Source.text, Source.text, hstart, hstop]

end Trimmed

end PropertyQuote.CSharp
