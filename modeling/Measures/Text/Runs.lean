/-!
# Sets of code points as runs

A character class is written as its maximal runs, each a first and a last code point, in rising
order. Membership is one walk along the list that ends at the first run beginning after the code
point, so a common character is decided within a few steps of a long table.
-/

namespace Measures.Text

/-- Whether `n` lies in one of the runs. The runs stand in rising order. -/
def inRuns : List (Nat × Nat) → Nat → Bool
  | [], _ => false
  | (first, last) :: rest, n =>
    if n < first then false else if n ≤ last then true else inRuns rest n

/-- What the walk accepts lies between the ends of a run. -/
theorem exists_run_of_inRuns : ∀ (runs : List (Nat × Nat)) (n : Nat), inRuns runs n = true →
    ∃ r ∈ runs, r.1 ≤ n ∧ n ≤ r.2
  | [], _, h => by simp [inRuns] at h
  | (first, last) :: rest, n, h => by
    unfold inRuns at h
    split at h
    · cases h
    · rename_i hf
      split at h
      · rename_i hl
        exact ⟨_, List.mem_cons_self, Nat.le_of_not_lt hf, hl⟩
      · obtain ⟨r, hr, hn⟩ := exists_run_of_inRuns rest n h
        exact ⟨r, List.mem_cons_of_mem _ hr, hn⟩

end Measures.Text
