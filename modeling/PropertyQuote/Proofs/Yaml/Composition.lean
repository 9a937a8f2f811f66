import Mathlib.Data.List.Basic
import PropertyQuote.Yaml.Document

/-!
# How a text is composed

Composition takes the tokens of a text from the first to the last.  Each step takes only tokens of its own sort.  So a
text that can be composed is one document: a head, the tokens of one node, and marks of its end.

* `Takes`: what a step of composition takes.
* `nodesTake`: nodes take no marks of documents.
* `SingleDocument`, `singleDocument_of_compose`: the tokens of a text that can be composed.
* `loadsOnly_standard`: texts that have a value are single documents.
-/

namespace PropertyQuote.Yaml

section Steps

variable {σ α β : Type} {x : StateT σ (Except Error) α} {f : α → StateT σ (Except Error) β} {s s' : σ} {a : α} {b : β}
  {e : Error}

/-- After a step that succeeds the rest goes on with its answer. -/
lemma run_bind_of_ok (h : x.run s = .ok (a, s')) : (x >>= f).run s = (f a).run s' := by
  rw [StateT.run_bind, h]
  rfl

/-- After a step that fails nothing is done. -/
lemma run_bind_of_error (h : x.run s = .error e) : (x >>= f).run s = .error e := by
  rw [StateT.run_bind, h]
  rfl

/-- What two steps achieve, the first does in part and the second goes on from there. -/
lemma run_bind_ok (h : (x >>= f).run s = .ok (b, s')) :
    ∃ a s₁, x.run s = .ok (a, s₁) ∧ (f a).run s₁ = .ok (b, s') := by
  cases hx : x.run s with
  | error =>
    rw [run_bind_of_error hx] at h
    cases h
  | ok r =>
    rw [run_bind_of_ok hx] at h
    exact ⟨r.1, r.2, rfl, h⟩

end Steps

variable {α β : Type} {pre pre' allowed allowed' : Token → Prop} {x : Compose α} {f : α → Compose β}
  {c c' : Composer} {a : α} {e : Error} {t : Token} {fuel : Nat}

/-- The next token; behind the last one there is the end of the text. -/
def Composer.next (c : Composer) : Token :=
  c.ahead.headD .streamEnd

/-- A next token that is not the end is the first of the tokens ahead. -/
lemma ahead_of_next (ht : t ≠ .streamEnd) (h : c.next = t) : c.ahead = t :: c.ahead.drop 1 := by
  rw [Composer.next] at h
  cases hahead : c.ahead with
  | nil =>
    rw [hahead] at h
    exact absurd h.symm ht
  | cons s rest =>
    rw [hahead] at h
    rw [← h]
    rfl

/-- A look ahead answers with the next token, and it fails only at a fault in the text. -/
lemma run_peek (c : Composer) :
    Compose.peek.run c = .ok (c.next, c) ∨ ∃ e, c.next = .fault e ∧ Compose.peek.run c = .error e := by
  obtain ⟨ahead, graph, anchors⟩ := c
  cases ahead with
  | nil => exact .inl rfl
  | cons t rest =>
    cases t with
    | fault e => exact .inr ⟨e, rfl, rfl⟩
    | _ => exact .inl rfl

/-! ## What a step takes -/

/-- A step that starts at a token with `pre` takes tokens that are allowed. -/
structure Takes (pre allowed : Token → Prop) (x : Compose α) : Prop where
  taken : ∀ {c a c'}, pre c.next → x.run c = .ok (a, c') → ∃ ts, c.ahead = ts ++ c'.ahead ∧ ∀ t ∈ ts, allowed t

/-- A step that does not fail and leaves the tokens ahead as they are. -/
def Stays (x : Compose α) : Prop :=
  ∀ c, ∃ a c', x.run c = .ok (a, c') ∧ c'.ahead = c.ahead

namespace Takes

/-- A step may start at fewer tokens and be allowed more. -/
lemma mono (h : Takes pre allowed x) (hpre : ∀ t, pre' t → pre t) (hallowed : ∀ t, allowed t → allowed' t) :
    Takes pre' allowed' x where
  taken hc hok := by
    obtain ⟨ts, heq, hts⟩ := h.taken (hpre _ hc) hok
    exact ⟨ts, heq, fun t ht => hallowed t (hts t ht)⟩

/-- A step that may start anywhere may start at a token in question. -/
lemma anywhere (h : Takes (fun _ => True) allowed x) : Takes pre allowed x :=
  h.mono (fun _ _ => trivial) fun _ => id

/-- A failure takes nothing. -/
lemma malformed : Takes pre allowed (Compose.malformed : Compose α) where
  taken _ hok := by cases hok

/-- Of two steps, the second may start at any token. -/
lemma bind (hx : Takes pre allowed x) (hf : ∀ a, Takes (fun _ => True) allowed (f a)) :
    Takes pre allowed (x >>= f) where
  taken hc hok := by
    obtain ⟨a, c₁, hfirst, hsecond⟩ := run_bind_ok hok
    obtain ⟨ts, heq, hts⟩ := hx.taken hc hfirst
    obtain ⟨ts', heq', hts'⟩ := (hf a).taken trivial hsecond
    refine ⟨ts ++ ts', by rw [heq, heq', List.append_assoc], ?_⟩
    exact List.forall_mem_append.2 ⟨hts, hts'⟩

/-- What follows a step that stays where it is starts at the same token. -/
lemma bind_of_stays (hx : Stays x) (hf : ∀ a, Takes pre allowed (f a)) : Takes pre allowed (x >>= f) where
  taken {c _ _} hc hok := by
    obtain ⟨a, c₁, hrun, hahead⟩ := hx c
    rw [run_bind_of_ok hrun] at hok
    rw [← hahead]
    refine (hf a).taken ?_ hok
    rwa [Composer.next, hahead]

/-- An answer alone takes nothing. -/
protected lemma pure : Takes pre allowed (pure a : Compose α) where
  taken _ hok := by
    cases hok
    exact ⟨[], rfl, fun _ hmem => absurd hmem List.not_mem_nil⟩

/-- A step that leaves the tokens ahead takes none. -/
lemma of_stays (h : Stays x) : Takes pre allowed x := by
  rw [← bind_pure x]
  exact bind_of_stays h fun _ => .pure

/-- The state is looked at without a token being taken. -/
lemma get_bind {f : Composer → Compose β} (hf : ∀ c, Takes pre allowed (f c)) : Takes pre allowed (get >>= f) :=
  bind_of_stays (fun c => ⟨c, c, rfl, rfl⟩) hf

/-- What follows a check of something else than the tokens. -/
lemma after_check {refused : Prop} [Decidable refused] {f : Unit → Compose β} (hf : Takes pre allowed (f ())) :
    Takes pre allowed (if refused then Compose.malformed >>= f else f ()) := by
  split
  · exact malformed
  · exact hf

/-- What follows a step that is not always taken. -/
lemma after_step {wanted : Prop} [Decidable wanted] {y : Compose Unit} {f : Unit → Compose β}
    (hy : Takes (fun _ => True) allowed y) (hf : Takes (fun _ => True) allowed (f ())) :
    Takes pre allowed (if wanted then y >>= f else f ()) := by
  split
  · exact .bind hy.anywhere fun _ => hf
  · exact hf.anywhere

/-- What follows a look at the next token starts at this token. -/
lemma peek_bind {f : Token → Compose β} (hf : ∀ t, Takes (· = t) allowed (f t)) :
    Takes pre allowed (Compose.peek >>= f) where
  taken {c _ _} _ hok := by
    rcases run_peek c with hrun | ⟨e, -, hrun⟩
    · rw [run_bind_of_ok hrun] at hok
      exact (hf c.next).taken rfl hok
    · rw [run_bind_of_error hrun] at hok
      cases hok

/-- One token is taken, namely the one that the step starts at. -/
lemma drop (hend : t ≠ .streamEnd) (ht : allowed t) : Takes (· = t) allowed Compose.drop where
  taken hc hok := by
    cases hok
    exact ⟨[t], ahead_of_next hend hc, List.forall_mem_singleton.2 ht⟩

/-- A token that is wanted is taken if it is next. -/
lemma accept (hend : t ≠ .streamEnd) (ht : allowed t) : Takes pre allowed (Compose.accept t) := by
  rw [Compose.accept]
  refine .peek_bind fun s => ?_
  split
  case isTrue hs =>
    obtain rfl := eq_of_beq hs
    exact .bind (.drop hend ht) fun _ => .pure
  case isFalse => exact .pure

/-- A token that must be next is taken. -/
lemma expect (hend : t ≠ .streamEnd) (ht : allowed t) : Takes pre allowed (Compose.expect t) := by
  rw [Compose.expect]
  refine .bind (.accept hend ht) fun _ => ?_
  split
  · exact .malformed
  · exact .pure

/-- A comparison with the next token takes nothing. -/
lemma isAt (ts : List Token) : Takes pre allowed (Compose.isAt ts) := by
  rw [Compose.isAt]
  exact .peek_bind fun _ => .pure

/-- A node is added to the graph without a token being taken. -/
lemma add (anchor : Option String) (n : Node) : Takes pre allowed (Compose.add anchor n) :=
  .of_stays fun _ => ⟨_, _, rfl, rfl⟩

/-- A collection takes what is taken by reading its content. -/
lemma collection {anchor : Option String} {tag : String} {hollow : Content} {read : Compose Content}
    (h : Takes (fun _ => True) allowed read) : Takes pre allowed (Compose.collection anchor tag hollow read) := by
  rw [Compose.collection]
  refine .bind (.add anchor _) fun i => .bind h fun content => .bind (.of_stays fun c => ?_) fun _ => .pure
  exact ⟨_, _, rfl, rfl⟩

/-- A tag is spelled out without a token being taken. -/
lemma fullTag (handles : List (String × String)) (tag : Option (Option String × String)) :
    Takes pre allowed (Compose.fullTag handles tag) := by
  unfold Compose.fullTag
  split
  · exact .pure
  · exact .pure
  · split
    · exact .pure
    · exact .malformed

end Takes

/-! ## Nodes -/

/-- Whether a token stands outside of nodes: between documents, at the end, or where the text is at fault. -/
def Token.isMark : Token → Bool
  | .directive _ => true
  | .documentStart => true
  | .documentEnd => true
  | .streamEnd => true
  | .fault _ => true
  | _ => false

/-- A step that takes only tokens of nodes. -/
abbrev TakesContent (x : Compose α) : Prop :=
  Takes (fun _ => True) (·.isMark = false) x

/-- An anchor and a tag belong to a node. -/
lemma takesContent_properties : TakesContent Compose.properties := by
  rw [Compose.properties]
  refine .peek_bind fun t => ?_
  split
  · refine .bind (.drop (by simp) rfl) fun _ => .peek_bind fun t => ?_
    split
    · exact .bind (.drop (by simp) rfl) fun _ => .pure
    · exact .pure
  · refine .bind (.drop (by simp) rfl) fun _ => .peek_bind fun t => ?_
    split
    · exact .bind (.drop (by simp) rfl) fun _ => .pure
    · exact .pure
  · exact .pure

/-- What the steps that read nodes take, with the same fuel for all of them. -/
structure NodesTake (handles : List (String × String)) (fuel : Nat) : Prop where
  node : ∀ block indentless, TakesContent (node handles fuel block indentless)
  nodeUnless : ∀ block indentless stops, TakesContent (nodeUnless handles fuel block indentless stops)
  valueUnless : ∀ block indentless stops, TakesContent (valueUnless handles fuel block indentless stops)
  blockItems : TakesContent (blockItems handles fuel)
  indentlessItems : TakesContent (indentlessItems handles fuel)
  blockEntries : TakesContent (blockEntries handles fuel)
  flowItems : ∀ first, TakesContent (flowItems handles fuel first)
  flowEntries : ∀ first, TakesContent (flowEntries handles fuel first)

section Nodes

variable {handles : List (String × String)}

/-- One more level: an alias, or the properties of a node and then a collection or a scalar. -/
lemma NodesTake.node_succ (h : NodesTake handles fuel) (block indentless : Bool) :
    TakesContent (Yaml.node handles (fuel + 1) block indentless) := by
  rw [Yaml.node]
  refine .peek_bind fun t => ?_
  split
  · refine .bind (.drop (by simp) rfl) fun _ => .get_bind fun c => ?_
    split
    · exact .pure
    · exact .malformed
  · refine .bind takesContent_properties.anywhere fun ⟨anchor, written⟩ => ?_
    refine .bind (.fullTag handles written) fun tag => .peek_bind fun t => .get_bind fun c => ?_
    dsimp only
    -- The token that was looked at last is known until one of the branches takes it.
    refine .after_check ?_
    split
    · exact .collection (.bind h.indentlessItems fun _ => .pure)
    · split
      · exact .bind (.drop (by simp) rfl) fun _ => .add _ _
      · exact .bind (.drop (by simp) rfl) fun _ => .collection (.bind (h.flowItems true) fun _ => .pure)
      · exact .bind (.drop (by simp) rfl) fun _ => .collection (.bind (h.flowEntries true) fun _ => .pure)
      · exact .after_check (.bind (.drop (by simp) rfl) fun _ => .collection (.bind h.blockItems fun _ => .pure))
      · exact .after_check (.bind (.drop (by simp) rfl) fun _ => .collection (.bind h.blockEntries fun _ => .pure))
      · exact .after_check (.add _ _)

/-- One more item between square brackets. -/
lemma NodesTake.flowItems_succ (h : NodesTake handles fuel) (first : Bool) :
    TakesContent (Yaml.flowItems handles (fuel + 1) first) := by
  rw [Yaml.flowItems]
  refine .bind (.accept (by simp) rfl) fun ended => ?_
  split
  · exact .pure
  · refine .after_step (.expect (by simp) rfl) (.bind (.accept (by simp) rfl) fun keyed => ?_)
    split
    · refine .bind (.collection ?_) fun i => .bind (h.flowItems false) fun _ => .pure
      exact .bind (h.nodeUnless ..) fun k => .bind (h.valueUnless ..) fun v => .pure
    · refine .bind (.accept (by simp) rfl) fun ended => ?_
      split
      · exact .pure
      · exact .bind (h.node ..) fun i => .bind (h.flowItems false) fun _ => .pure

/-- One more entry between braces. -/
lemma NodesTake.flowEntries_succ (h : NodesTake handles fuel) (first : Bool) :
    TakesContent (Yaml.flowEntries handles (fuel + 1) first) := by
  rw [Yaml.flowEntries]
  refine .bind (.accept (by simp) rfl) fun ended => ?_
  split
  · exact .pure
  · refine .after_step (.expect (by simp) rfl) (.bind (.accept (by simp) rfl) fun keyed => ?_)
    split
    · refine .bind (h.nodeUnless ..) fun k => .bind (h.valueUnless ..) fun v => ?_
      exact .bind (h.flowEntries false) fun _ => .pure
    · refine .bind (.accept (by simp) rfl) fun ended => ?_
      split
      · exact .pure
      · exact .bind (h.node ..) fun k => .bind (.add ..) fun v => .bind (h.flowEntries false) fun _ => .pure

/-- One more item of a sequence, up to the end of its block. -/
lemma NodesTake.blockItems_succ (h : NodesTake handles fuel) : TakesContent (Yaml.blockItems handles (fuel + 1)) := by
  rw [Yaml.blockItems]
  refine .bind (.accept (by simp) rfl) fun more => ?_
  split
  · exact .bind (h.nodeUnless ..) fun i => .bind h.blockItems fun _ => .pure
  · exact .bind (.expect (by simp) rfl) fun _ => .pure

/-- One more item of a sequence that has no block of its own. -/
lemma NodesTake.indentlessItems_succ (h : NodesTake handles fuel) :
    TakesContent (Yaml.indentlessItems handles (fuel + 1)) := by
  rw [Yaml.indentlessItems]
  refine .bind (.accept (by simp) rfl) fun more => ?_
  split
  · exact .bind (h.nodeUnless ..) fun i => .bind h.indentlessItems fun _ => .pure
  · exact .pure

/-- One more entry of a mapping, up to the end of its block. -/
lemma NodesTake.blockEntries_succ (h : NodesTake handles fuel) :
    TakesContent (Yaml.blockEntries handles (fuel + 1)) := by
  rw [Yaml.blockEntries]
  refine .bind (.accept (by simp) rfl) fun more => ?_
  split
  · refine .bind (h.nodeUnless ..) fun k => .bind (h.valueUnless ..) fun v => ?_
    exact .bind h.blockEntries fun _ => .pure
  · exact .bind (.expect (by simp) rfl) fun _ => .pure

/-- Nodes take no marks of documents.  All functions that read them are covered at once, since each of them calls others
with less fuel. -/
lemma nodesTake (handles : List (String × String)) (fuel : Nat) : NodesTake handles fuel := by
  induction fuel with
  | zero => constructor <;> intros <;> exact .malformed
  | succ fuel h =>
    constructor
    case node => exact h.node_succ
    case nodeUnless =>
      intro block indentless stops
      rw [Yaml.nodeUnless]
      refine .bind (.isAt stops) fun stopped => ?_
      split
      · exact .add ..
      · exact h.node ..
    case valueUnless =>
      intro block indentless stops
      rw [Yaml.valueUnless]
      refine .bind (.accept (by simp) rfl) fun written => ?_
      split
      · exact h.nodeUnless ..
      · exact .add ..
    case blockItems => exact h.blockItems_succ
    case indentlessItems => exact h.indentlessItems_succ
    case blockEntries => exact h.blockEntries_succ
    case flowItems => exact h.flowItems_succ
    case flowEntries => exact h.flowEntries_succ

end Nodes

/-! ## Documents -/

/-- The directives in front of a document are all that is read as such. -/
lemma takes_directives (versioned : Bool) (handles : List (String × String)) :
    Takes (fun _ => True) (∃ d, · = .directive d) (directives fuel versioned handles) := by
  induction fuel generalizing versioned handles with
  | zero => exact .malformed
  | succ fuel ih =>
    rw [directives]
    refine .peek_bind fun t => ?_
    split
    · exact .bind (.drop (by simp) ⟨_, rfl⟩) fun _ => .after_check (ih ..)
    · exact .bind (.drop (by simp) ⟨_, rfl⟩) fun _ => .after_check (ih ..)
    · exact .bind (.drop (by simp) ⟨_, rfl⟩) fun _ => ih ..
    · exact .pure

/-- Only marks of its end are skipped after a document. -/
lemma takes_documentEnds : Takes (fun _ => True) (· = .documentEnd) (documentEnds fuel) := by
  induction fuel with
  | zero => exact .pure
  | succ fuel ih =>
    rw [documentEnds]
    refine .bind (.accept (by simp) rfl) fun more => ?_
    split
    · exact ih
    · exact .pure

/-! ## A single document -/

/-- The head of a document: nothing, or directives and the mark of its start. -/
def IsHead (ts : List Token) : Prop :=
  ts = [] ∨ ∃ ds, ts = ds ++ [.documentStart] ∧ ∀ t ∈ ds, ∃ d, t = .directive d

/-- The tokens of a text that has at most one document: its head, the tokens of one node, and marks of its end, with
nothing after them. -/
def SingleDocument (ts : List Token) : Prop :=
  ∃ head body ends rest, ts = head ++ body ++ ends ++ rest ∧ IsHead head ∧ (∀ t ∈ body, t.isMark = false) ∧
    (∀ t ∈ ends, t = .documentEnd) ∧ rest.headD .streamEnd = .streamEnd

/-- A look ahead changes nothing. -/
lemma eq_of_run_peek (h : Compose.peek.run c = .ok (t, c')) : t = c.next ∧ c' = c := by
  rcases run_peek c with hrun | ⟨e, -, hrun⟩
  · rw [hrun] at h
    cases h
    exact ⟨rfl, rfl⟩
  · rw [hrun] at h
    cases h

/-- A token that is expected was the first of the tokens ahead. -/
lemma ahead_of_expect (hend : t ≠ .streamEnd) {u : Unit} (h : (Compose.expect t).run c = .ok (u, c')) :
    c.ahead = t :: c'.ahead := by
  rw [Compose.expect, Compose.accept, bind_assoc] at h
  obtain ⟨s, c₁, hpeek, h⟩ := run_bind_ok h
  obtain ⟨rfl, rfl⟩ := eq_of_run_peek hpeek
  split at h
  case isTrue hs =>
    cases h
    exact ahead_of_next hend (eq_of_beq hs)
  case isFalse => cases h

/-- A document with a mark of its start is a head with the tokens of a node. -/
lemma ahead_of_explicitDocument {i : Nat} (h : (explicitDocument fuel).run c = .ok (i, c')) :
    ∃ head body, c.ahead = head ++ body ++ c'.ahead ∧ IsHead head ∧ ∀ t ∈ body, t.isMark = false := by
  rw [explicitDocument] at h
  obtain ⟨handles, c₁, hdirectives, h⟩ := run_bind_ok h
  obtain ⟨ds, hds, hall⟩ := (takes_directives false []).taken trivial hdirectives
  obtain ⟨u, c₂, hexpect, h⟩ := run_bind_ok h
  have hstart := ahead_of_expect (by simp) hexpect
  obtain ⟨t, c₃, hpeek, h⟩ := run_bind_ok h
  obtain ⟨rfl, rfl⟩ := eq_of_run_peek hpeek
  have hbody : ∃ body, c₃.ahead = body ++ c'.ahead ∧ ∀ t ∈ body, t.isMark = false := by
    have hadd : TakesContent (Compose.add none emptyNode) := .add ..
    dsimp only at h
    split at h
    · exact hadd.taken trivial h
    · split at h
      · exact hadd.taken trivial h
      · exact ((nodesTake handles fuel).node true false).taken trivial h
  obtain ⟨body, hb, hcontent⟩ := hbody
  refine ⟨ds ++ [.documentStart], body, ?_, .inr ⟨ds, rfl, hall⟩, hcontent⟩
  rw [hds, hstart, hb, List.append_assoc, List.append_assoc]
  rfl

/-- Marks of the end follow a document, and then the text ends. -/
lemma ahead_of_finish {u : Unit} (h : (finish fuel).run c = .ok (u, c')) :
    ∃ ends, c.ahead = ends ++ c'.ahead ∧ (∀ t ∈ ends, t = .documentEnd) ∧ c'.next = .streamEnd := by
  rw [finish] at h
  obtain ⟨u, c₁, hends, h⟩ := run_bind_ok h
  obtain ⟨ends, heq, hall⟩ := takes_documentEnds.taken trivial hends
  rw [Compose.isAt, bind_assoc] at h
  obtain ⟨t, c₂, hpeek, h⟩ := run_bind_ok h
  obtain ⟨rfl, rfl⟩ := eq_of_run_peek hpeek
  rw [pure_bind] at h
  split at h
  case isTrue =>
    -- Another document is never read to its end.
    obtain ⟨_, _, -, hlast⟩ := run_bind_ok h
    cases hlast
  case isFalse hended =>
    cases h
    refine ⟨ends, heq, hall, ?_⟩
    simpa using hended

/-- A head and a node, after which the text ends. -/
lemma singleDocument_of_finish {head body : List Token} {i : Nat} {r : Option Nat} {ahead : List Token}
    (heq : ahead = head ++ body ++ c.ahead) (hhead : IsHead head) (hbody : ∀ t ∈ body, t.isMark = false)
    (h : (finish fuel >>= fun _ => pure (some i) : Compose (Option Nat)).run c = .ok (r, c')) :
    SingleDocument ahead := by
  obtain ⟨u, c₁, hfinish, -⟩ := run_bind_ok h
  obtain ⟨ends, hends, hall, hlast⟩ := ahead_of_finish hfinish
  refine ⟨head, body, ends, c₁.ahead, ?_, hhead, hbody, hall, hlast⟩
  rw [heq, hends, ← List.append_assoc]

/-- Reading a document succeeds only if it is the only one. -/
lemma singleDocument_of_document {r : Option Nat} (h : (document fuel).run c = .ok (r, c')) :
    SingleDocument c.ahead := by
  rw [document] at h
  obtain ⟨t, c₁, hpeek, hrest⟩ := run_bind_ok h
  obtain ⟨hnext, rfl⟩ := eq_of_run_peek hpeek
  split at hrest
  · exact ⟨[], [], [], c₁.ahead, rfl, .inl rfl, by simp, by simp, hnext.symm⟩
  · dsimp only at hrest
    split at hrest
    · obtain ⟨i, c₂, hdocument, hlast⟩ := run_bind_ok hrest
      obtain ⟨head, body, heq, hhead, hbody⟩ := ahead_of_explicitDocument hdocument
      exact singleDocument_of_finish heq hhead hbody hlast
    · obtain ⟨i, c₂, hdocument, hlast⟩ := run_bind_ok hrest
      obtain ⟨head, body, heq, hhead, hbody⟩ := ahead_of_explicitDocument hdocument
      exact singleDocument_of_finish heq hhead hbody hlast
    · obtain ⟨i, c₂, hnode, hlast⟩ := run_bind_ok hrest
      obtain ⟨body, heq, hbody⟩ := ((nodesTake standardHandles fuel).node true false).taken trivial hnode
      exact singleDocument_of_finish heq (.inl rfl) hbody hlast

/-- A text that can be composed has at most one document. -/
lemma singleDocument_of_compose {text : List Char} {r : Option Nat × Graph} (h : compose text = .ok r) :
    SingleDocument (tokens text) := by
  rw [compose] at h
  dsimp only at h
  cases hrun : (document (6 * (tokens text).length + 6)).run { ahead := tokens text } with
  | ok => exact singleDocument_of_document hrun
  | error =>
    rw [hrun] at h
    cases h

/-- A text that has a value is a single document. -/
lemma singleDocument_of_load {text : List Char} {v : Value} (h : load text = .ok v) : SingleDocument (tokens text) := by
  cases hcompose : compose text with
  | error =>
    rw [load, hcompose] at h
    cases h
  | ok r => exact singleDocument_of_compose hcompose

/-- Only texts of one kind have a value. -/
def Loader.LoadsOnly (yaml : Loader) (kind : List Char → Prop) : Prop :=
  ∀ text v, yaml.load text = .ok v → kind text

/-- The loader that the program is run with loads single documents only. -/
lemma loadsOnly_standard : Loader.standard.LoadsOnly fun text => SingleDocument (tokens text) :=
  fun _ _ => singleDocument_of_load

end PropertyQuote.Yaml
