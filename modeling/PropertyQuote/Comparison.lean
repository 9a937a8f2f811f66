/-!
# Comparing trees

Trees whose nodes hold lists of trees are compared level by level, so that equality of them can be decided.
-/

namespace PropertyQuote

/-- Decides whether two lists are equal, if this can be decided of the elements of the first one. -/
def decideEqAll {α : Type} :
    (as bs : List α) → ((a : α) → a ∈ as → (b : α) → Decidable (a = b)) → Decidable (as = bs)
  | [], [], _ => isTrue rfl
  | [], _ :: _, _ => isFalse (List.cons_ne_nil _ _).symm
  | _ :: _, [], _ => isFalse (List.cons_ne_nil _ _)
  | a :: as, b :: bs, decideEq =>
    match decideEq a List.mem_cons_self b,
        decideEqAll as bs fun c hc => decideEq c (List.mem_cons_of_mem a hc) with
    | isTrue hfirst, isTrue hrest => isTrue (by rw [hfirst, hrest])
    | isFalse hne, _ => isFalse fun h => hne (List.cons.inj h).1
    | _, isFalse hne => isFalse fun h => hne (List.cons.inj h).2

end PropertyQuote
