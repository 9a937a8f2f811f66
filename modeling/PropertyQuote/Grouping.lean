import PropertyQuote.Candidate

/-!
# Groups of candidates

Candidates are collected under the type that owns them.  Owners keep the order of their first candidate,
candidates keep their order, and owners inside another type are set apart because no second part of them
can be written.
-/

namespace PropertyQuote

/-- An owner with its candidates. -/
structure Group where
  owner : TypeSymbol
  candidates : List Candidate
deriving Repr

/-- What is known after some candidates: the keys in the order of their first candidates, and by key the owner of the
first candidate and all candidates so far.  In a table the latest entry of a key counts. -/
structure Ledger where
  order : List OwnerKey := []
  owners : List (OwnerKey × TypeSymbol) := []
  members : List (OwnerKey × List Candidate) := []

namespace Ledger

/-- Opens an entry for the key of a candidate, unless there is one already. -/
def opened (l : Ledger) (c : Candidate) : Ledger :=
  if (l.owners.lookup c.key).isSome then l
  else ⟨l.order ++ [c.key], (c.key, c.owner) :: l.owners, (c.key, []) :: l.members⟩

/-- Enters a candidate behind those of its key. -/
def enter (l : Ledger) (c : Candidate) : Ledger :=
  let l := l.opened c
  { l with members := (c.key, (l.members.lookup c.key).getD [] ++ [c]) :: l.members }

/-- The group of a key. -/
def group? (l : Ledger) (key : OwnerKey) : Option Group :=
  match l.owners.lookup key, l.members.lookup key with
  | some owner, some candidates => some ⟨owner, candidates⟩
  | _, _ => none

end Ledger

/-- All groups of some candidates, which are entered one after the other. -/
def groups (cs : List Candidate) : List Group :=
  let ledger := cs.foldl Ledger.enter {}
  ledger.order.filterMap ledger.group?

/-- The groups for which a unit can be written. -/
def emittableGroups (cs : List Candidate) : List Group :=
  (groups cs).filter (·.owner.isTopLevel)

/-- The groups of nested owners. -/
def nestedGroups (cs : List Candidate) : List Group :=
  (groups cs).filter (!·.owner.isTopLevel)

/-- Why the candidates of a nested owner are skipped. -/
def nestedReason : String :=
  "owning type is not declared directly in a namespace"

/-- What the log says about a nested owner. -/
def Group.nestedReport (g : Group) : Log.Entry :=
  ⟨"grouping", .debug, "Skipping " ++ toString g.candidates.length ++ " candidate(s) on " ++
    g.owner.displayName ++ ": " ++ nestedReason⟩

/-- The log of a grouping. -/
def groupingLog (cs : List Candidate) : List Log.Entry :=
  (nestedGroups cs).map Group.nestedReport

end PropertyQuote
