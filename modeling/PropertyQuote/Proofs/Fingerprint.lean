import PropertyQuote.Proofs.Conservation
import PropertyQuote.Proofs.Json
import PropertyQuote.Proofs.UnitDecoding
import PropertyQuote.Proofs.Utf8

/-!
# Fingerprints and units

The text under a fingerprint gives back what it records of every candidate.  It does not record all that the
units are made from: of the type under which a candidate is collected it has the display name only.  Passes with
equal texts have equal units if those types agree in their nesting, namespace and heading, and well-named
units are equal exactly if they say the same.

* `map_record_eq_of_fingerprintText_eq`: the text gives back its records.
* `fingerprintText_eq_iff`: the text tells all that it records.
* `groups_view_congr`: what groups are made from.
* `units_eq_iff_of_fingerprintText_eq`: when equal texts mean equal units.
-/

namespace PropertyQuote

/-! ## Records -/

/-- A record can be read back. -/
lemma readable_record (k : Nat) (c : Candidate) : Json.Readable (k + 1) c.record := by
  refine .obj (show ["descriptor", "expression", "name", "owner", "static"].Nodup by decide) ?_
  intro f hf
  simp only [List.mem_cons, List.not_mem_nil, or_false] at hf
  rcases hf with rfl | rfl | rfl | rfl | rfl
  · exact .str _
  · cases c.declaration.expression? with
    | none => exact .null
    | some e => exact .str e
  · exact .str _
  · exact .str _
  · exact .bool _

/-- The text under a fingerprint gives back its records. -/
lemma map_record_eq_of_fingerprintText_eq {cs cs' : List Candidate}
    (h : fingerprintText cs = fingerprintText cs') :
    cs.map Candidate.record = cs'.map Candidate.record := by
  have hreadable (cs : List Candidate) :
      Json.Readable Json.mostOpen (.arr (cs.map Candidate.record)) := by
    refine Json.Readable.arr (k := 949) fun v hv => ?_
    obtain ⟨c, -, rfl⟩ := List.mem_map.1 hv
    exact readable_record 948 c
  exact Json.arr.inj (Json.render_injective _ (hreadable cs) (hreadable cs') h)

/-- A missing expression is told from every text. -/
lemma expression_inj {e e' : Option String} :
    (e.map Json.str).getD .null = (e'.map Json.str).getD .null ↔ e = e' := by
  cases e <;> cases e' <;> simp

/-- A record says what the fingerprint takes from a candidate. -/
lemma record_eq_iff {c c' : Candidate} :
    c.record = c'.record ↔
      c.symbol.type.descriptor = c'.symbol.type.descriptor ∧
        c.declaration.expression? = c'.declaration.expression? ∧ c.name = c'.name ∧
        c.symbol.owner.displayName = c'.symbol.owner.displayName ∧
        c.symbol.isStatic = c'.symbol.isStatic := by
  simp [Candidate.record, expression_inj]

/-- Two candidates agree in all that the fingerprint records of them.  A missing expression agrees with no text. -/
structure Candidate.RecordedAlike (c c' : Candidate) : Prop where
  owner : c.symbol.owner.displayName = c'.symbol.owner.displayName
  name : c.name = c'.name
  isStatic : c.symbol.isStatic = c'.symbol.isStatic
  descriptor : c.symbol.type.descriptor = c'.symbol.type.descriptor
  expression : c.declaration.expression? = c'.declaration.expression?

/-- Candidates are recorded alike exactly if their records are the same. -/
lemma recordedAlike_iff {c c' : Candidate} : c.RecordedAlike c' ↔ c.record = c'.record := by
  rw [record_eq_iff]
  constructor
  · intro h
    exact ⟨h.descriptor, h.expression, h.name, h.owner, h.isStatic⟩
  · rintro ⟨hdescriptor, hexpression, hname, howner, hstatic⟩
    exact ⟨howner, hname, hstatic, hdescriptor, hexpression⟩

/-- Two lists have the same records if and only if they are equally long and agree at every position. -/
lemma map_record_eq_iff {cs cs' : List Candidate} :
    cs.map Candidate.record = cs'.map Candidate.record ↔
      cs.length = cs'.length ∧
        ∀ (i : Nat) (c c' : Candidate), cs[i]? = some c → cs'[i]? = some c' → c.RecordedAlike c' := by
  constructor
  · intro h
    have hlength := congrArg List.length h
    rw [List.length_map, List.length_map] at hlength
    refine ⟨hlength, fun i c c' hc hc' => recordedAlike_iff.2 ?_⟩
    have hi := congrArg (·[i]?) h
    simp only [List.getElem?_map, hc, hc', Option.map_some] at hi
    exact Option.some.inj hi
  · rintro ⟨hlength, hall⟩
    apply List.ext_getElem
    · rw [List.length_map, List.length_map, hlength]
    · intro i hi hi'
      rw [List.length_map] at hi hi'
      rw [List.getElem_map, List.getElem_map]
      exact recordedAlike_iff.1 (hall i _ _ (List.getElem?_eq_getElem hi) (List.getElem?_eq_getElem hi'))

/-- The texts under the fingerprints of two lists of candidates are equal exactly if the lists are equally long and
agree, position by position, in what the fingerprint records; and the bytes that are digested are equal exactly if the
texts are. -/
theorem fingerprintText_eq_iff {cs cs' : List Candidate} :
    (fingerprintText cs = fingerprintText cs' ↔
      cs.length = cs'.length ∧
        ∀ (i : Nat) (c c' : Candidate), cs[i]? = some c → cs'[i]? = some c' → c.RecordedAlike c') ∧
    (Text.Utf8.encodeText (fingerprintText cs) = Text.Utf8.encodeText (fingerprintText cs') ↔
      fingerprintText cs = fingerprintText cs') := by
  refine ⟨?_, Text.Utf8.encodeText_injective, fun h => by rw [h]⟩
  rw [← map_record_eq_iff]
  constructor
  · exact map_record_eq_of_fingerprintText_eq
  · intro hrecords
    rw [fingerprintText, fingerprintText, hrecords]

/-- Candidates with the same record get the same member. -/
lemma member?_congr {c c' : Candidate} (h : c.record = c'.record) : c.member? = c'.member? := by
  obtain ⟨hdescriptor, hexpression, hname, -, hstatic⟩ := record_eq_iff.1 h
  rw [Candidate.member?, Candidate.member?, hexpression, hname, hstatic]
  simp only [payload, hdescriptor]

/-! ## Owners -/

namespace TypeSymbol

/-- What a pass reads of an owner besides its display name: whether it stands directly in its namespace, the
namespace, and the heading. -/
def shape (t : TypeSymbol) : Bool × String × TypeHeading :=
  (t.isTopLevel, t.home, t.heading)

/-- The owner of a shape that stands directly in its namespace. -/
def ofShape (shape : Bool × String × TypeHeading) : TypeSymbol :=
  .inNamespace shape.2.2 shape.2.1 shape.2.1

/-- An owner that stands directly in its namespace is known by its shape. -/
lemma ofShape_shape {t : TypeSymbol} (ht : t.isTopLevel = true) : ofShape t.shape = t := by
  cases t with
  | nested => cases ht
  | inNamespace heading home container =>
    obtain rfl : container = home := beq_iff_eq.1 ht
    rfl

/-- The key of an owner is made from its shape and its display name. -/
lemma groupKey_congr {t t' : TypeSymbol} (hshape : t.shape = t'.shape)
    (hname : t.displayName = t'.displayName) : t.groupKey = t'.groupKey := by
  obtain ⟨htop, hhome, hheading⟩ :
      t.isTopLevel = t'.isTopLevel ∧ t.home = t'.home ∧ t.heading = t'.heading := by
    simpa [shape] using hshape
  simp only [groupKey, key, name, arity, htop, hhome, hheading, hname]

end TypeSymbol

/-! ## Groups -/

/-- What a pass reads of a candidate: its key, the shape of its owner, and its member. -/
def Candidate.view (c : Candidate) : OwnerKey × (Bool × String × TypeHeading) × Option Member :=
  (c.key, c.owner.shape, c.member?)

/-- What a unit is made from. -/
def Group.view (g : Group) : (Bool × String × TypeHeading) × List Member :=
  (g.owner.shape, g.members)

/-- The group of a key is made from what a pass reads of the candidates. -/
lemma groupOf?_view_congr {cs cs' : List Candidate} (h : cs.map Candidate.view = cs'.map Candidate.view)
    (k : OwnerKey) : (groupOf? cs k).map Group.view = (groupOf? cs' k).map Group.view := by
  have hfilter (cs : List Candidate) : (cs.filter (·.key == k)).map Candidate.view =
      (cs.map Candidate.view).filter (·.1 == k) := by
    rw [List.filter_map]
    rfl
  have hviews : (cs.filter (·.key == k)).map Candidate.view =
      (cs'.filter (·.key == k)).map Candidate.view := by
    rw [hfilter, hfilter, h]
  have hmembers (cs : List Candidate) : cs.filterMap Candidate.member? =
      (cs.map Candidate.view).filterMap (·.2.2) := by
    rw [List.filterMap_map]
    rfl
  unfold groupOf?
  cases hcs : cs.filter (·.key == k) with
  | nil =>
    rw [hcs, List.map_nil] at hviews
    rw [List.map_eq_nil_iff.1 hviews.symm]
  | cons c rest =>
    cases hcs' : cs'.filter (·.key == k) with
    | nil =>
      rw [hcs, hcs'] at hviews
      cases hviews
    | cons c' rest' =>
      rw [hcs, hcs'] at hviews
      have hshape : c.owner.shape = c'.owner.shape :=
        congrArg (·.2.1) (List.cons.inj hviews).1
      simp only [Option.map_some, Group.view, Group.members, hmembers, hviews, hshape]

/-- The groups are made from what a pass reads of the candidates. -/
lemma groups_view_congr {cs cs' : List Candidate} (h : cs.map Candidate.view = cs'.map Candidate.view) :
    (groups cs).map Group.view = (groups cs').map Group.view := by
  have hkeys : ownerKeys cs = ownerKeys cs' := by
    have hmap (cs : List Candidate) : cs.map Candidate.key = (cs.map Candidate.view).map (·.1) := by
      rw [List.map_map]
      rfl
    rw [ownerKeys, ownerKeys, hmap, hmap, h]
  rw [groups_eq, groups_eq, List.map_filterMap, List.map_filterMap, hkeys]
  exact List.filterMap_congr fun k _ => groupOf?_view_congr h k

/-- The owners and members of units are made from what a pass reads of the candidates. -/
lemma emittableGroups_congr {cs cs' : List Candidate} (h : cs.map Candidate.view = cs'.map Candidate.view) :
    (emittableGroups cs).map (fun g => (g.owner, g.members)) =
      (emittableGroups cs').map (fun g => (g.owner, g.members)) := by
  have hviews (cs : List Candidate) : (emittableGroups cs).map (fun g => (g.owner, g.members)) =
      (((groups cs).map Group.view).filter (·.1.1)).map fun v => (TypeSymbol.ofShape v.1, v.2) := by
    rw [List.filter_map, List.map_map]
    refine List.map_congr_left fun g hg => ?_
    -- an owner that gets a unit stands directly in its namespace, so its shape gives it back
    have htop : g.owner.isTopLevel = true := (List.mem_filter.1 hg).2
    exact congrArg (·, g.members) (TypeSymbol.ofShape_shape htop).symm
  rw [hviews, hviews, groups_view_congr h]

/-! ## Units -/

/-- What a unit says: its names, the words that introduce its type, and its members. -/
structure Sheet where
  hintName : String
  home : String
  keyword : String
  declarationName : String
  members : List Member
deriving DecidableEq

/-- What the unit of a group says. -/
def Group.sheet (qualified : Bool) (g : Group) : Sheet :=
  ⟨hintName qualified g.owner, g.owner.home, g.owner.keyword, g.owner.declarationName, g.members⟩

/-- What the units of a pass say. -/
def sheets (cs : List Candidate) : List Sheet :=
  (emittableGroups cs).map fun g => g.sheet (needsQualification (unitOwners cs) g.owner)

/-- Well-named units are equal exactly if they say the same. -/
lemma standardUnit_eq_iff {isEnd : Char → Bool} (hends : LineEnds isEnd) {g g' : Group}
    (hg : g.WellNamed isEnd) (hg' : g'.WellNamed isEnd) (qualified qualified' : Bool) :
    g.standardUnit qualified = g'.standardUnit qualified' ↔ g.sheet qualified = g'.sheet qualified' := by
  constructor
  · intro h
    obtain ⟨hhint, htext, hhome, hname⟩ := SourceUnit.mk.inj h
    obtain ⟨-, hheader, hmembers⟩ := standardText_injective hends hg hg' htext
    rw [TypeSymbol.header, TypeSymbol.header, hname] at hheader
    have hkeyword := (String.append_left_inj _).1 ((String.append_left_inj _).1 hheader)
    rw [Group.sheet, Group.sheet, hhint, hhome, hkeyword, hname, hmembers]
  · intro h
    obtain ⟨hhint, hhome, hkeyword, hname, hmembers⟩ := Sheet.mk.inj h
    simp only [Group.standardUnit, Group.standardText, unitLines, TypeSymbol.header, hhint, hhome,
      hkeyword, hname, hmembers]

/-- Passes with well-named units have the same units exactly if the units say the same. -/
lemma units_eq_iff {isEnd : Char → Bool} (hends : LineEnds isEnd) {cs cs' : List Candidate}
    (hcs : ∀ g ∈ emittableGroups cs, g.WellNamed isEnd)
    (hcs' : ∀ g ∈ emittableGroups cs', g.WellNamed isEnd) (emitBootstrap : Bool) :
    (passResult emitBootstrap cs).units = (passResult emitBootstrap cs').units ↔
      sheets cs = sheets cs' := by
  rw [units_passResult, units_passResult, List.append_cancel_left_eq]
  exact map_eq_map_iff fun g hg g' hg' => standardUnit_eq_iff hends (hcs g hg) (hcs' g' hg') _ _

/-- Passes that read the same of their candidates have the same units. -/
lemma units_congr {cs cs' : List Candidate} (h : cs.map Candidate.view = cs'.map Candidate.view)
    (emitBootstrap : Bool) :
    (passResult emitBootstrap cs).units = (passResult emitBootstrap cs').units := by
  have hgroups := emittableGroups_congr h
  have howners : unitOwners cs = unitOwners cs' := by
    have hmap (cs : List Candidate) : unitOwners cs =
        ((emittableGroups cs).map fun g => (g.owner, g.members)).map Prod.fst := by
      rw [List.map_map]
      rfl
    rw [hmap, hmap, hgroups]
  have hunits (owners : List TypeSymbol) (gs : List Group) :
      (gs.map fun g => g.standardUnit (needsQualification owners g.owner)) =
        (gs.map fun g => (g.owner, g.members)).map fun (t, ms) =>
          ⟨hintName (needsQualification owners t) t, String.join ((unitLines t ms).map (· ++ "\n")),
            t.home, t.declarationName⟩ := by
    rw [List.map_map]
    rfl
  rw [units_passResult, units_passResult, howners, hunits, hunits, hgroups]

/-! ## Equal fingerprints -/

/-- The type that declares the property is the one that the symbol names. -/
def Occurrence.SelfOwned (o : Occurrence) : Prop :=
  ∀ r ∈ o.resolution, r.owner = r.symbol.owner

instance : DecidablePred Occurrence.SelfOwned := fun o =>
  inferInstanceAs (Decidable (∀ r ∈ o.resolution, r.owner = r.symbol.owner))

/-- The candidates of such declarations are collected under the types that their symbols name. -/
lemma owner_of_mem_discover {marker : String} {program : List Occurrence}
    (h : ∀ o ∈ program, o.SelfOwned) : ∀ c ∈ discover marker program, c.owner = c.symbol.owner := by
  intro c hc
  obtain ⟨o, ho, hoc⟩ := List.mem_filterMap.1 hc
  obtain ⟨-, -, attributes, hresolution⟩ := candidate?_eq_some_iff.1 hoc
  exact h o ho _ hresolution

/-- Records and the shapes of the owners are all that a pass reads. -/
lemma map_view_eq {cs cs' : List Candidate} (hcs : ∀ c ∈ cs, c.owner = c.symbol.owner)
    (hcs' : ∀ c ∈ cs', c.owner = c.symbol.owner)
    (hrecords : cs.map Candidate.record = cs'.map Candidate.record)
    (hshapes : cs.map (·.owner.shape) = cs'.map (·.owner.shape)) :
    cs.map Candidate.view = cs'.map Candidate.view := by
  induction cs generalizing cs' with
  | nil => rw [List.map_eq_nil_iff.1 hrecords.symm]
  | cons c cs ih =>
    cases cs' with
    | nil => cases hrecords
    | cons c' cs' =>
      obtain ⟨hc, hcs⟩ := List.forall_mem_cons.1 hcs
      obtain ⟨hc', hcs'⟩ := List.forall_mem_cons.1 hcs'
      obtain ⟨hrecord, hrecords⟩ := List.cons.inj hrecords
      rw [List.map_cons, List.map_cons, List.cons.injEq] at hshapes
      obtain ⟨hshape, hshapes⟩ := hshapes
      -- the record has the display name of the owner, the shape has the rest of its key
      obtain ⟨-, -, -, hname, -⟩ := record_eq_iff.1 hrecord
      rw [← hc, ← hc'] at hname
      have hkey : c.key = c'.key := TypeSymbol.groupKey_congr hshape hname
      have hview : c.view = c'.view := by
        rw [Candidate.view, Candidate.view, hkey, hshape, member?_congr hrecord]
      rw [List.map_cons, List.map_cons, hview, ih hcs hcs' hrecords hshapes]

/-- Passes over programs with equal fingerprint texts have equal units if the owners agree in their shapes,
candidate by candidate; if the units are well named, they are equal exactly if they say the same. -/
theorem units_eq_iff_of_fingerprintText_eq {marker : String} {p q : List Occurrence}
    (hp : ∀ o ∈ p, o.SelfOwned) (hq : ∀ o ∈ q, o.SelfOwned)
    (htext : fingerprintText (discover marker p) = fingerprintText (discover marker q))
    (emitBootstrap : Bool) :
    ∃ r r', generate { marker, emitBootstrap } p = .ok r ∧
      generate { marker, emitBootstrap } q = .ok r' ∧
      (r.candidates.map (·.owner.shape) = r'.candidates.map (·.owner.shape) → r.units = r'.units) ∧
      ∀ isEnd, LineEnds isEnd → (∀ g ∈ emittableGroups r.candidates, g.WellNamed isEnd) →
        (∀ g ∈ emittableGroups r'.candidates, g.WellNamed isEnd) →
          (r.units = r'.units ↔ sheets r.candidates = sheets r'.candidates) := by
  refine ⟨_, _, generate_standardTemplate marker emitBootstrap p,
    generate_standardTemplate marker emitBootstrap q, fun hshapes => ?_, ?_⟩
  · exact units_congr (map_view_eq (owner_of_mem_discover hp) (owner_of_mem_discover hq)
      (map_record_eq_of_fingerprintText_eq htext) hshapes) emitBootstrap
  · intro isEnd hends hg hg'
    exact units_eq_iff hends hg hg' emitBootstrap

/-- A program with one marked property, in a type with the given type parameters. -/
def programWith (parameters : List String) : List Occurrence :=
  [⟨⟨"P", ["M"], [⟨"get", .expression, some "1"⟩], "", 0⟩,
    some (.ofSymbol ⟨"P", false, .mk "int" .unknown [], .inNamespace ⟨"C", "class", parameters⟩ "" "",
      ["M"], true⟩)⟩]

/-- A type parameter changes the unit of its type and leaves the fingerprint text as it is. -/
theorem fingerprintText_misses_parameters :
    (∀ o ∈ programWith [], o.SelfOwned) ∧ (∀ o ∈ programWith ["T"], o.SelfOwned) ∧
    fingerprintText (discover "M" (programWith [])) =
      fingerprintText (discover "M" (programWith ["T"])) ∧
    ∃ r r', generate { marker := "M" } (programWith []) = .ok r ∧
      generate { marker := "M" } (programWith ["T"]) = .ok r' ∧ r.units ≠ r'.units := by
  have hplain : ∀ o ∈ programWith [], o.SelfOwned := by decide
  have hgeneric : ∀ o ∈ programWith ["T"], o.SelfOwned := by decide
  have htext : fingerprintText (discover "M" (programWith [])) =
      fingerprintText (discover "M" (programWith ["T"])) := rfl
  obtain ⟨r, r', hr, hr', -, hiff⟩ := units_eq_iff_of_fingerprintText_eq hplain hgeneric htext true
  refine ⟨hplain, hgeneric, htext, r, r', hr, hr', ?_⟩
  obtain rfl := Except.ok.inj ((generate_standardTemplate ..).symm.trans hr)
  obtain rfl := Except.ok.inj ((generate_standardTemplate ..).symm.trans hr')
  have hends : LineEnds Text.endsLine := ⟨rfl, fun _ h => h⟩
  rw [ne_eq, hiff Text.endsLine hends (by decide) (by decide)]
  decide

end PropertyQuote
