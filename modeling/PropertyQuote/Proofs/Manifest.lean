import Mathlib.Data.List.Nodup
import Mathlib.Data.List.Perm.Subperm
import PropertyQuote.Project.Output
import PropertyQuote.Proofs.Json.Names
import PropertyQuote.Proofs.Utf8

/-!
# Manifests read back

A manifest that is written lists the same units and the same fingerprint when it is read, and no manifest lists
a unit twice.  So two lists of units with digests are the same if one is the other in another order.

* `unitsOfBytes_text`, `fingerprintOfBytes?_text`: a written manifest reads back.
* `nodup_of_unitsOfBytes`: no manifest lists a unit twice.
* `DigestMap.same_iff_perm`: when two maps record the same.
-/

namespace PropertyQuote

/-! ## Written texts have no carriage return -/

namespace Json

/-- Hexadecimal digits are no carriage returns. -/
lemma return_notMem_hex (count n : Nat) : '\r' ∉ Text.hex count n := by
  intro h
  have hline := Text.endsLine_of_mem_hex h
  revert hline
  decide

/-- A carriage return is escaped. -/
lemma return_notMem_escape (ascii : Bool) (c : Char) : '\r' ∉ escape ascii c := by
  unfold escape
  split
  case h_8 hreturn _ _ _ =>
    split
    · unfold numbered
      split
      · simp [return_notMem_hex]
      · simp [return_notMem_hex]
    · simpa using Ne.symm hreturn
  all_goals decide

/-- A quoted text has none. -/
lemma return_notMem_quoted (ascii : Bool) (s : String) : '\r' ∉ quoted ascii s := by
  simp [quoted, return_notMem_escape]

/-- Brackets around items without carriage returns add none. -/
lemma return_notMem_enclose {style : Style} {depth : Nat} {opening closing : Char}
    {items : List (List Char)} (hopening : opening ≠ '\r') (hclosing : closing ≠ '\r')
    (hitems : ∀ item ∈ items, '\r' ∉ item) : '\r' ∉ style.enclose depth opening closing items := by
  have hlead (depth : Nat) : '\r' ∉ style.lead depth := by
    unfold Style.lead
    split <;> simp
  have hcomma : '\r' ∉ style.comma := by
    unfold Style.comma
    split <;> decide
  unfold Style.enclose
  split
  · simp [hopening.symm, hclosing.symm]
  · have hjoined : '\r' ∉ style.comma.intercalate (items.map (style.lead (depth + 1) ++ ·)) := by
      refine Text.notMem_intercalate hcomma fun item hitem => ?_
      obtain ⟨text, htext, rfl⟩ := List.mem_map.1 hitem
      simp [hlead, hitems text htext]
    simp [hopening.symm, hclosing.symm, hlead, hjoined]

/-- The digits of a number have none. -/
lemma return_notMem_toString (n : Int) : '\r' ∉ (toString n).toList := by
  cases n with
  | ofNat k => exact Text.notMem_toString rfl k
  | negSucc k =>
    rw [show toString (Int.negSucc k) = "-" ++ toString (k + 1) from rfl, String.toList_append]
    exact List.not_mem_append (by decide) (Text.notMem_toString rfl (k + 1))

mutual

/-- A written value holds no carriage return. -/
lemma return_notMem_chars (style : Style) (depth : Nat) : (v : Json) → '\r' ∉ chars style depth v
  | .null => by
    rw [chars]
    decide
  | .bool b => by
    rw [chars]
    cases b <;> decide
  | .int n => by
    rw [chars]
    exact return_notMem_toString n
  | .float _ => by
    rw [chars]
    decide
  | .str s => by
    rw [chars]
    exact return_notMem_quoted _ s
  | .arr items => by
    rw [chars]
    exact return_notMem_enclose (by decide) (by decide) (return_notMem_itemChars style (depth + 1) items)
  | .obj fields => by
    rw [chars]
    exact return_notMem_enclose (by decide) (by decide) (return_notMem_fieldChars style (depth + 1) fields)

/-- The items of a list have none. -/
lemma return_notMem_itemChars (style : Style) (depth : Nat) :
    (items : List Json) → ∀ item ∈ itemChars style depth items, '\r' ∉ item
  | [] => by
    rw [itemChars]
    exact fun _ => nofun
  | v :: items => by
    rw [itemChars]
    exact List.forall_mem_cons.2
      ⟨return_notMem_chars style depth v, return_notMem_itemChars style depth items⟩

/-- The fields of an object have none. -/
lemma return_notMem_fieldChars (style : Style) (depth : Nat) :
    (fields : List (String × Json)) → ∀ item ∈ fieldChars style depth fields, '\r' ∉ item
  | [] => by
    rw [fieldChars]
    exact fun _ => nofun
  | (name, v) :: fields => by
    rw [fieldChars]
    refine List.forall_mem_cons.2 ⟨?_, return_notMem_fieldChars style depth fields⟩
    simp [return_notMem_quoted, return_notMem_chars style depth v]

end

/-- The number one reads back. -/
lemma readsBack_one (k : Nat) : ReadsBack k (.int 1) := by
  intro style depth m rest hm _ hrest
  rw [chars]
  exact run_word_value hm hrest (by decide) (List.all_eq_true.1 (by decide)) rfl

end Json

namespace Project

variable {m n : DigestMap} {name digest : String}

/-! ## Digests by name -/

namespace DigestMap

/-- Under distinct names, the digest of a name is the one that is listed. -/
lemma digest?_eq_some_iff (hm : (m.map Prod.fst).Nodup) :
    m.digest? name = some digest ↔ (name, digest) ∈ m := by
  induction m with
  | nil => simp [digest?]
  | cons e m ih =>
    obtain ⟨name', digest'⟩ := e
    rw [List.map_cons, List.nodup_cons] at hm
    by_cases heq : name' = name
    · subst heq
      have hnot : (name', digest) ∉ m := fun h => hm.1 (List.mem_map.2 ⟨_, h, rfl⟩)
      simp [digest?, hnot, eq_comm]
    · have hcons : digest? ((name', digest') :: m) name = digest? m name := by
        simp [digest?, heq]
      rw [hcons, ih hm.2, List.mem_cons]
      simp [Ne.symm heq]

/-- Exactly the listed names have a digest. -/
lemma digest?_isSome_iff : (m.digest? name).isSome = true ↔ name ∈ m.map Prod.fst := by
  simp [digest?]

/-- Two maps record the same exactly if one is the other in another order. -/
lemma same_iff_perm (hm : (m.map Prod.fst).Nodup) (hn : (n.map Prod.fst).Nodup) :
    m.same n = true ↔ m.Perm n := by
  have hall : (m.all fun e => n.digest? e.1 == some e.2) = true ↔ m ⊆ n := by
    rw [List.all_eq_true]
    constructor
    · intro h e he
      exact (digest?_eq_some_iff hn).1 (beq_iff_eq.1 (h e he))
    · intro h e he
      exact beq_iff_eq.2 ((digest?_eq_some_iff hn).2 (h he))
  have hsame : m.same n = true ↔ m.length = n.length ∧ m ⊆ n := by
    rw [← hall, same, Bool.and_eq_true, beq_iff_eq]
  rw [hsame]
  constructor
  · rintro ⟨hlength, hsub⟩
    have hnodup : m.Nodup := List.Nodup.of_map _ hm
    exact (List.subperm_of_subset hnodup hsub).perm_of_length_le (Nat.le_of_eq hlength.symm)
  · intro h
    exact ⟨h.length_eq, h.subset⟩

/-- Sorting keeps what is listed. -/
lemma sorted_perm (m : DigestMap) : m.sorted.Perm m :=
  List.mergeSort_perm _ _

/-- Sorting keeps names distinct. -/
lemma nodup_sorted (hm : (m.map Prod.fst).Nodup) : (m.sorted.map Prod.fst).Nodup :=
  (m.sorted_perm.map _).nodup_iff.2 hm

/-- Recording a name keeps names distinct. -/
lemma nodup_record (hm : (m.map Prod.fst).Nodup) : ((m.record name digest).map Prod.fst).Nodup := by
  rw [record, List.map_append, List.map_singleton, List.nodup_append]
  refine ⟨hm.sublist (List.filter_sublist.map _), List.pairwise_singleton _ _, ?_⟩
  rintro a ha b hb rfl
  obtain rfl := List.mem_singleton.1 hb
  obtain ⟨e, he, rfl⟩ := List.mem_map.1 ha
  simp at he

end DigestMap

/-- No unit has two digests. -/
lemma nodup_unitDigests (units : List SourceUnit) : ((unitDigests units).map Prod.fst).Nodup := by
  have hfold (m : DigestMap) (hm : (m.map Prod.fst).Nodup) :
      ((units.foldl (fun m u => m.record u.hintName (textDigest u.text)) m).map Prod.fst).Nodup := by
    induction units generalizing m with
    | nil => exact hm
    | cons u units ih => exact ih _ (DigestMap.nodup_record hm)
  exact hfold [] List.nodup_nil

/-- Every unit has a digest, and nothing else has one. -/
lemma mem_unitDigests {units : List SourceUnit} :
    name ∈ (unitDigests units).map Prod.fst ↔ name ∈ units.map SourceUnit.hintName := by
  have hrecord (m : DigestMap) (u : SourceUnit) :
      name ∈ (m.record u.hintName (textDigest u.text)).map Prod.fst ↔
        name ∈ m.map Prod.fst ∨ name = u.hintName := by
    rw [DigestMap.record, List.map_append, List.mem_append, List.map_singleton, List.mem_singleton]
    constructor
    · rintro (h | h)
      · obtain ⟨e, he, rfl⟩ := List.mem_map.1 h
        exact .inl (List.mem_map_of_mem (List.mem_of_mem_filter he))
      · exact .inr h
    · rintro (h | h)
      · by_cases hname : name = u.hintName
        · exact .inr hname
        · obtain ⟨e, he, rfl⟩ := List.mem_map.1 h
          exact .inl (List.mem_map_of_mem (List.mem_filter.2 ⟨he, by simpa using hname⟩))
      · exact .inr h
  have hfold (m : DigestMap) :
      name ∈ (units.foldl (fun m u => m.record u.hintName (textDigest u.text)) m).map Prod.fst ↔
        name ∈ m.map Prod.fst ∨ name ∈ units.map SourceUnit.hintName := by
    induction units generalizing m with
    | nil => simp
    | cons u units ih => rw [List.foldl_cons, ih, hrecord, List.map_cons, List.mem_cons, or_assoc]
  rw [unitDigests, hfold]
  simp

namespace Manifest

/-! ## Reading a manifest -/

/-- A manifest as it is written. -/
def value (m : Manifest) : Json :=
  .obj [("fingerprint", .str m.fingerprint),
    ("units", .obj (m.units.sorted.map fun (name, digest) => (name, .str digest))), ("version", .int 1)]

/-- The value that the bytes of a manifest are read as. -/
def valueOfBytes? (bytes : List UInt8) : Option Json :=
  ((Text.Utf8.decode? bytes).map (Json.read ∘ Text.unifyNewlines)).bind Except.toOption

/-- The fingerprint that the bytes of a manifest record. -/
def fingerprintOfBytes? (bytes : List UInt8) : Option Json :=
  (valueOfBytes? bytes).bind (·.field? "fingerprint")

/-- The value of a manifest with distinct names reads back. -/
lemma readsBack_value {m : Manifest} (hm : (m.units.map Prod.fst).Nodup) :
    Json.ReadsBack Json.mostOpen m.value := by
  have hunits : Json.ReadsBack (Json.mostOpen - 1)
      (.obj (m.units.sorted.map fun (name, digest) => (name, .str digest))) := by
    refine Json.ReadsBack.obj (k := Json.mostOpen - 2) ?_ ?_
    · rw [List.map_map]
      exact DigestMap.nodup_sorted hm
    · intro f hf
      obtain ⟨e, -, rfl⟩ := List.mem_map.1 hf
      exact Json.readsBack (.str e.2)
  refine Json.ReadsBack.obj (k := Json.mostOpen - 1)
    (show ["fingerprint", "units", "version"].Nodup by decide) ?_
  intro f hf
  simp only [List.mem_cons, List.not_mem_nil, or_false] at hf
  rcases hf with rfl | rfl | rfl
  · exact Json.readsBack (.str _)
  · exact hunits
  · exact Json.readsBack_one _

/-- The bytes of a manifest are read as what was written. -/
lemma read_text {m : Manifest} (hm : (m.units.map Prod.fst).Nodup) :
    (Text.Utf8.decode? (Text.Utf8.encodeText m.text)).map (Json.read ∘ Text.unifyNewlines) =
      some (.ok m.value) := by
  have htext : m.text.toList = Json.chars .indented 0 m.value := String.toList_ofList
  rw [Text.Utf8.encodeText, Text.Utf8.decode?_encode, htext, Option.map_some, Function.comp_apply,
    Text.unifyNewlines_of_notMem (Json.return_notMem_chars _ _ _), (readsBack_value hm).read]

/-- A written manifest lists its units. -/
lemma unitsOfBytes_text {m : Manifest} (hm : (m.units.map Prod.fst).Nodup) :
    unitsOfBytes (Text.Utf8.encodeText m.text) = .ok m.units.sorted := by
  have hunits (us : DigestMap) :
      unitsOf (.obj (us.map fun (name, digest) => (name, .str digest))) = us := by
    rw [unitsOf, List.filterMap_map]
    exact List.filterMap_some
  rw [unitsOfBytes, read_text hm]
  exact congrArg Except.ok (hunits _)

/-- A written manifest has its fingerprint. -/
lemma fingerprintOfBytes?_text {m : Manifest} (hm : (m.units.map Prod.fst).Nodup) :
    fingerprintOfBytes? (Text.Utf8.encodeText m.text) = some (.str m.fingerprint) := by
  rw [fingerprintOfBytes?, valueOfBytes?, read_text hm]
  rfl

/-- The names that are listed are some of the names of the fields. -/
lemma map_fst_unitsOf_sublist (fields : List (String × Json)) :
    ((unitsOf (.obj fields)).map Prod.fst).Sublist (fields.map Prod.fst) := by
  induction fields with
  | nil => exact .slnil
  | cons f fields ih =>
    obtain ⟨name, v⟩ := f
    cases v with
    | str s => exact ih.cons_cons _
    | _ => exact ih.cons _

/-- A value with distinct fields lists distinct units. -/
lemma nodup_unitsOf {v : Json} (h : v.Tidy) : ((unitsOf v).map Prod.fst).Nodup := by
  cases h with
  | obj hnames _ => exact hnames.sublist (map_fst_unitsOf_sublist _)
  | _ => exact List.nodup_nil

/-- The value of a field has distinct fields where the whole has. -/
lemma tidy_field? {v w : Json} {name : String} (h : v.Tidy) (hw : v.field? name = some w) : w.Tidy := by
  cases h with
  | obj _ hfields =>
    obtain ⟨f, hf, rfl⟩ := Option.map_eq_some_iff.1 hw
    exact hfields f (List.mem_of_find?_eq_some hf)
  | _ => cases hw

/-- No manifest lists a unit twice. -/
lemma nodup_of_unitsOfBytes {bytes : List UInt8} (h : unitsOfBytes bytes = .ok m) :
    (m.map Prod.fst).Nodup := by
  unfold unitsOfBytes at h
  split at h
  case h_1 v hv =>
    cases h
    obtain ⟨s, -, hread⟩ := Option.map_eq_some_iff.1 hv
    have htidy := Json.tidy_read hread
    unfold unitsOfValue
    split
    · cases hunits : v.field? "units" with
      | none => exact List.nodup_nil
      | some w => exact nodup_unitsOf (tidy_field? htidy hunits)
    · exact List.nodup_nil
  case h_2 => cases h
  case h_3 =>
    cases h
    exact List.nodup_nil

end Manifest

end Project

end PropertyQuote
