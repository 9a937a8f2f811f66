import PropertyQuote.CSharp.Registry
import PropertyQuote.Proofs.CSharp.DirectiveScope

/-!
# Declarations and their numbers

The properties of a program are numbered as they are recorded, through all files and all namespaces in them.  No number
is left out or given twice, so a number stands for one property declaration of the trees, and a program answers for
this one alone, also where others look the same.

* `Registry.Holds`: what is known of a registry after some properties; `Registry.Holds.enter` is one step of recording.
* `Registry.ofFiles_eq`: recording the files of a program is recording its properties one after the other.
* `Compilation.symbolOf?_eq_resolve?`: an answer by number is the answer by index.
* `occurrences_eq`: a pass sees each declaration as it is answered for.
* `symbolOf?_by_number`: exactly which declarations have a symbol, and which one.
-/

namespace PropertyQuote.CSharp

variable {files : List File} {r : Registry} {ps : List Property} {here : Property} {number : Int}

namespace Registry

/-! ## Recording properties -/

/-- A registry holds some properties: they are listed in order with the numbers from one on, and each is found under its
number. -/
structure Holds (r : Registry) (ps : List Property) : Prop where
  listed : r.declarations = ps.mapIdx fun i here => ⟨i + 1, here.entry.declaration⟩
  found : ∀ number here, r.property? number = some here ↔ ∃ i : Nat, number = i + 1 ∧ ps[i]? = some here

/-- The empty registry holds no properties. -/
lemma holds_empty : Holds {} [] where
  listed := rfl
  found number here := by simp [property?]

/-- A property that is recorded has the next number, and all others keep theirs. -/
lemma property?_enter (r : Registry) (here : Property) (number : Int) : (r.enter here).property? number =
    if (r.declarations.length : Int) + 1 = number then some here else r.property? number := by
  rw [property?, enter, property?]
  dsimp only
  split
  case isTrue heq =>
    rw [List.find?_cons_of_pos (by simpa using heq)]
    rfl
  case isFalse hne => rw [List.find?_cons_of_neg (by simpa using hne)]

/-- What is recorded gets the next number, and all numbers before it stay. -/
lemma Holds.enter (h : Holds r ps) (here : Property) : Holds (r.enter here) (ps ++ [here]) := by
  have hlength : r.declarations.length = ps.length := by rw [h.listed, List.length_mapIdx]
  constructor
  · rw [List.mapIdx_concat, ← h.listed, ← hlength]
    rfl
  · intro number here'
    rw [property?_enter, hlength]
    split
    case isTrue heq =>
      subst heq
      rw [Option.some.injEq]
      constructor
      · rintro rfl
        exact ⟨ps.length, rfl, List.getElem?_concat_length⟩
      · rintro ⟨i, hi, hget⟩
        obtain rfl : i = ps.length := by omega
        rw [List.getElem?_concat_length] at hget
        exact Option.some.inj hget
    case isFalse hne =>
      rw [h.found]
      refine exists_congr fun i => and_congr_right fun hi => ?_
      rw [List.getElem?_append]
      split
      case isTrue => rfl
      case isFalse hlt =>
        -- the index is beyond the last one, which belongs to another number
        have hnone : ps[i]? = none := List.getElem?_eq_none (by omega)
        have hnone' : [here][i - ps.length]? = none := List.getElem?_eq_none (by simp; omega)
        rw [hnone, hnone']

/-- Recording properties one after the other holds all of them. -/
lemma Holds.foldl_enter (h : Holds r ps) (qs : List Property) : Holds (qs.foldl Registry.enter r) (ps ++ qs) := by
  induction qs generalizing r ps with
  | nil => rwa [List.append_nil]
  | cons here qs ih =>
    rw [List.foldl_cons, List.append_cons]
    exact ih (h.enter here)

/-- Recording an outline is recording its properties one after the other, through all namespaces in it. -/
lemma enterAll_eq (final current : Scope) (r : Registry) (items : List Item) :
    r.enterAll final current items = (propertiesIn final current items).foldl enter r := by
  fun_induction enterAll final current r items with
  | case1 => rw [propertiesIn, List.foldl_nil]
  | case2 _ _ _ _ _ ih => rw [propertiesIn, ih]
  | case3 _ _ _ _ _ ih => rw [propertiesIn, ih]
  | case4 _ _ _ _ _ ih => rw [propertiesIn, ih]
  | case5 _ _ _ _ _ ih => rw [propertiesIn, List.foldl_cons, ih]
  | case6 _ _ _ _ _ ihitems ihrest => rw [propertiesIn, List.foldl_append, ihrest, ihitems]

/-- Recording the files of a program is recording its properties one after the other. -/
lemma ofFiles_eq (files : List File) :
    Registry.ofFiles files = (Compilation.ofFiles files).properties.foldl enter {} := by
  rw [Compilation.properties_ofFiles, List.foldl_flatMap, ofFiles, byPath]
  simp only [enterAll_eq, File.properties]

/-- The registry of a program holds its properties. -/
lemma holds_ofFiles (files : List File) : Holds (Registry.ofFiles files) (Compilation.ofFiles files).properties := by
  rw [ofFiles_eq]
  exact holds_empty.foldl_enter _

end Registry

/-! ## Answers by number -/

namespace Compilation

/-- A declaration has the symbol of the property with its number, if that is declared so. -/
lemma symbolOf?_eq_some_iff {x : NumberedDeclaration} {symbol : PropertySymbol} :
    (ofFiles files).symbolOf? (.ofFiles files) x = some symbol ↔
      ∃ (i : Nat) (here : Property), x.number = i + 1 ∧ (ofFiles files).properties[i]? = some here ∧
        here.entry.declaration = x.declaration ∧ (ofFiles files).symbol? here = some symbol := by
  have hfound := (Registry.holds_ofFiles files).found x.number
  rw [symbolOf?]
  cases hproperty : (Registry.ofFiles files).property? x.number with
  | none =>
    refine iff_of_false (fun h => by cases h) ?_
    rintro ⟨i, here, hi, hget, -⟩
    rw [(hfound here).2 ⟨i, hi, hget⟩] at hproperty
    cases hproperty
  | some here =>
    obtain ⟨i, hi, hget⟩ := (hfound here).1 hproperty
    dsimp only
    rw [Option.ite_none_right_eq_some]
    constructor
    · rintro ⟨hdeclared, hsymbol⟩
      exact ⟨i, here, hi, hget, hdeclared, hsymbol⟩
    · rintro ⟨j, here', hj, hget', hdeclared, hsymbol⟩
      obtain rfl : i = j := by omega
      obtain rfl := Option.some.inj (hget.symm.trans hget')
      exact ⟨hdeclared, hsymbol⟩

/-- Numbers count the properties: a program answers by number as it does by index. -/
lemma symbolOf?_eq_resolve? (x : NumberedDeclaration) :
    (ofFiles files).symbolOf? (.ofFiles files) x = (ofFiles files).resolve? x.number x.declaration := by
  refine Option.ext fun symbol => ?_
  rw [symbolOf?_eq_some_iff, resolve?]
  split
  case isTrue hlt =>
    refine iff_of_false ?_ (fun h => by cases h)
    rintro ⟨i, -, hi, -⟩
    omega
  case isFalse hge =>
    have hnumber : x.number = ((x.number.toNat - 1 : Nat) : Int) + 1 := by omega
    constructor
    · rintro ⟨i, here, hi, hget, hdeclared, hsymbol⟩
      obtain rfl : x.number.toNat - 1 = i := by omega
      rw [hget]
      dsimp only
      rw [if_pos hdeclared, hsymbol]
    · intro hsome
      split at hsome
      case h_1 here hget =>
        rw [Option.ite_none_right_eq_some] at hsome
        exact ⟨_, here, hnumber, hget, hsome.1, hsome.2⟩
      case h_2 => cases hsome

/-- A pass sees each declaration that is handed out with the symbol that it is answered for with. -/
lemma occurrences_eq (files : List File) :
    (ofFiles files).occurrences = (Registry.ofFiles files).declarations.map fun x =>
      ⟨x.declaration, ((ofFiles files).symbolOf? (.ofFiles files) x).map Resolution.ofSymbol⟩ := by
  rw [(Registry.holds_ofFiles files).listed, occurrences]
  refine List.ext_getElem? fun i => ?_
  rw [List.getElem?_map, List.getElem?_map, List.getElem?_mapIdx]
  cases hget : (ofFiles files).properties[i]? with
  | none => rfl
  | some here =>
    have hsymbol : (ofFiles files).symbolOf? (.ofFiles files) ⟨i + 1, here.entry.declaration⟩ =
        (ofFiles files).symbol? here := by
      refine Option.ext fun symbol => ?_
      rw [symbolOf?_eq_some_iff]
      constructor
      · rintro ⟨j, here', hj, hget', -, hsymbol⟩
        obtain rfl : i = j := by
          dsimp only at hj
          omega
        obtain rfl := Option.some.inj (hget.symm.trans hget')
        exact hsymbol
      · exact fun hsymbol => ⟨i, here, rfl, hget, rfl, hsymbol⟩
    rw [Option.map_some, Option.map_some, Option.map_some, hsymbol]

end Compilation

/-! ## The declarations of the trees -/

/-- The property declarations that are recorded, with their files: over the files in the order of their paths, and
within a file in the order of the walk. -/
def recordedVisits (files : List File) : List (File × Visit) :=
  (byPath files).flatMap fun f => (f.visits.filter Visit.isProperty).map (f, ·)

/-- The declarations that are recorded are, one by one, the properties of the program. -/
lemma forall₂_recordedVisits (files : List File) :
    List.Forall₂ (fun (x : File × Visit) here =>
        property? x.1.path x.1.source here.entry.home here.entry.owner x.2.node = some here.entry)
      (recordedVisits files) (Compilation.ofFiles files).properties := by
  rw [Compilation.properties_ofFiles, recordedVisits]
  induction byPath files with
  | nil => exact .nil
  | cons f l ih =>
    rw [List.flatMap_cons, List.flatMap_cons]
    exact List.rel_append (List.forall₂_map_left_iff.2 (located_file f)) ih

/-- What a number stands for: the declaration that is handed out with it, the node in the tree of a file, and what is
known of the property. -/
structure RecordedAs (files : List File) (number : Int) (f : File) (v : Visit) (here : Property) : Prop where
  listed : (Registry.ofFiles files).declarations[(number - 1).toNat]? = some ⟨number, here.entry.declaration⟩
  visited : (recordedVisits files)[(number - 1).toNat]? = some (f, v)
  known : (Compilation.ofFiles files).properties[(number - 1).toNat]? = some here
  entry : property? f.path f.source here.entry.home here.entry.owner v.node = some here.entry

/-- The numbers from one up to the number of declarations stand for something. -/
lemma exists_recordedAs (hpos : 1 ≤ number) (hle : number ≤ (recordedVisits files).length) :
    ∃ f v here, RecordedAs files number f v here := by
  have hall := forall₂_recordedVisits files
  have hlt : (number - 1).toNat < (recordedVisits files).length := by omega
  have hlt' : (number - 1).toNat < (Compilation.ofFiles files).properties.length := hall.length_eq ▸ hlt
  have hnumber : (((number - 1).toNat : Nat) : Int) + 1 = number := by omega
  refine ⟨_, _, _, ?_, List.getElem?_eq_getElem hlt, List.getElem?_eq_getElem hlt', hall.get hlt hlt'⟩
  rw [(Registry.holds_ofFiles files).listed, List.getElem?_mapIdx, List.getElem?_eq_getElem hlt', Option.map_some,
    hnumber]

/-- Two declarations agree in all that is compared: everything but their numbers. -/
structure Agree (d d' : PropertyDeclaration) : Prop where
  name : d.name = d'.name
  attributeNames : d.attributeNames = d'.attributeNames
  accessors : d.accessors = d'.accessors
  path : d.path = d'.path
  line : d.line = d'.line

/-- Declarations that agree are the same. -/
lemma agree_iff {d d' : PropertyDeclaration} : Agree d d' ↔ d = d' := by
  constructor
  · intro h
    cases d
    cases d'
    obtain ⟨rfl, rfl, rfl, rfl, rfl⟩ := h
    rfl
  · rintro rfl
    exact ⟨rfl, rfl, rfl, rfl, rfl⟩

/-- A property has the type of its node, and it is static if a word of its node makes it so. -/
lemma fields_of_property? {path : String} {source : Source} {home : String} {owner : TypeSymbol} {n : Node}
    {e : PropertyEntry} (h : property? path source home owner n = some e) :
    e.type = n.child? .type ∧ e.isStatic = n.children.any (makesStatic source) := by
  obtain ⟨name, -, rfl⟩ := Option.map_eq_some_iff.1 h
  exact ⟨rfl, rfl⟩

/-- The declarations that are handed out have the numbers from one on, in order.  A declaration has a symbol exactly if
its number is one of these, it agrees with the declaration of this number, and the node of that declaration has a type.
Then the symbol is that of this declaration, whatever other declarations look like. -/
theorem symbolOf?_by_number (files : List File) :
    (Registry.ofFiles files).declarations.map (·.number) =
      (List.range (recordedVisits files).length).map (fun i : Nat => (i : Int) + 1) ∧
    ∀ x symbol, (Compilation.ofFiles files).symbolOf? (.ofFiles files) x = some symbol ↔
      1 ≤ x.number ∧ x.number ≤ (recordedVisits files).length ∧
      ∃ f v here t, RecordedAs files x.number f v here ∧ Agree x.declaration here.entry.declaration ∧
        v.node.child? .type = some t ∧
        symbol = {
          name := x.declaration.name
          isStatic := v.node.children.any (makesStatic f.source)
          type := (Compilation.ofFiles files).resolveType here t
          owner := here.entry.owner
          attributes := here.entry.declaration.attributeNames.filterMap ((Compilation.ofFiles files).attribute? here)
          hasGetter := x.declaration.getter?.isSome } := by
  have hlength := (forall₂_recordedVisits files).length_eq
  constructor
  · rw [(Registry.holds_ofFiles files).listed, hlength]
    refine List.ext_getElem? fun i => ?_
    rw [List.getElem?_map, List.getElem?_mapIdx, List.getElem?_map]
    by_cases hi : i < (Compilation.ofFiles files).properties.length
    · rw [List.getElem?_eq_getElem hi, List.getElem?_range hi]
      rfl
    · rw [List.getElem?_eq_none (Nat.not_lt.1 hi), List.getElem?_eq_none (by simpa using hi)]
      rfl
  intro x symbol
  rw [Compilation.symbolOf?_eq_some_iff]
  constructor
  · rintro ⟨i, here, hi, hget, hdeclared, hsymbol⟩
    obtain ⟨hlt, -⟩ := List.getElem?_eq_some_iff.1 hget
    have hpos : 1 ≤ x.number := by omega
    have hle : x.number ≤ (recordedVisits files).length := by omega
    obtain ⟨f, v, here', hrecorded⟩ := exists_recordedAs hpos hle
    obtain rfl : (x.number - 1).toNat = i := by omega
    obtain rfl := Option.some.inj (hget.symm.trans hrecorded.known)
    obtain ⟨htype, hstatic⟩ := fields_of_property? hrecorded.entry
    obtain ⟨t, ht, rfl⟩ := Option.map_eq_some_iff.1 hsymbol
    refine ⟨hpos, hle, f, v, here, t, hrecorded, agree_iff.2 hdeclared.symm, htype ▸ ht, ?_⟩
    rw [← hstatic, ← hdeclared]
  · rintro ⟨hpos, -, f, v, here, t, hrecorded, hagree, ht, rfl⟩
    obtain ⟨htype, hstatic⟩ := fields_of_property? hrecorded.entry
    refine ⟨_, here, by omega, hrecorded.known, (agree_iff.1 hagree).symm, ?_⟩
    rw [Compilation.symbol?, htype, ht, ← hstatic, agree_iff.1 hagree]
    rfl

end PropertyQuote.CSharp
