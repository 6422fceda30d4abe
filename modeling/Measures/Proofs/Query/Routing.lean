import Measures.Query.Route

/-!
# Routing by places

Which word names the source is a matter of places: it is the second word or the third, and which of
the two depends on the number of words and, where that leaves it open, on the last word but one. The
target is named by the last word in any case.

* `Flagged`, `sourcePlace`: the word that is looked at, and the place that follows from it;
* `SameRoute.sourcePlace_eq`: when two lists of words have the source in the same place;
* `unitWords_eq`: routing picks the word at that place and the last word.
-/

namespace Measures.Query

/-- The last word but one is a connector that is taken at its word. -/
def Flagged (tokens : List String) : Prop := ∃ w ∈ connectors, tokens[tokens.length - 2]? = some w

instance (tokens : List String) : Decidable (Flagged tokens) :=
  decidable_of_iff (connectors.any fun w => tokens[tokens.length - 2]? = some w)
    (by simp [Flagged])

/-- The place of the word that names the source, where the first place is 0. -/
def sourcePlace (tokens : List String) : Nat :=
  if tokens.length = 4 then 1
  else if tokens.length = 6 ∨ Flagged tokens then 2
  else 1

/-- Routing does not tell the two lists apart: four words and six go by their number, fewer than two
    make no question, and otherwise the last word but one is flagged in both or in neither. -/
def SameRoute (tokens tokens' : List String) : Prop :=
  tokens.length = 4 ∨ tokens.length = 6 ∨ tokens.length < 2 ∨ (Flagged tokens ↔ Flagged tokens')

theorem SameRoute.symm {tokens tokens' : List String} (h : SameRoute tokens tokens')
    (hn : tokens.length = tokens'.length) : SameRoute tokens' tokens := by
  unfold SameRoute at h ⊢
  rwa [← hn, Iff.comm]

/-- **Lists that routing does not tell apart** have the source in the same place. -/
theorem SameRoute.sourcePlace_eq {tokens tokens' : List String} (h : SameRoute tokens tokens')
    (hn : tokens.length = tokens'.length) (h2 : 2 ≤ tokens.length) :
    sourcePlace tokens = sourcePlace tokens' := by
  unfold sourcePlace
  rw [← hn]
  rcases h with h4 | h6 | hshort | hflag
  · rw [if_pos h4, if_pos h4]
  · simp [h6]
  · omega
  · simp only [hflag]

/-- The last two of a list, seen from its end. -/
theorem last_two_of_reverse {tokens more : List String} {last connector : String}
    (h : tokens.reverse = last :: connector :: more) :
    tokens.getLast? = some last ∧ tokens[tokens.length - 2]? = some connector := by
  obtain rfl := List.reverse_eq_iff.mp h
  constructor <;> simp

/-- **Routing picks the word at the place of the source and the last word.** -/
theorem unitWords_eq {tokens : List String} (h : 2 ≤ tokens.length) :
    unitWords tokens = do return (← tokens[sourcePlace tokens]?, ← tokens.getLast?) := by
  unfold unitWords sourcePlace
  by_cases h4 : tokens.length = 4
  · rw [if_pos h4, if_pos h4, List.getLast?_eq_getElem?, h4]
  · rw [if_neg h4, if_neg h4]
    by_cases h6 : tokens.length = 6
    · rw [if_pos h6, if_pos (.inl h6), List.getLast?_eq_getElem?, h6]
    · rw [if_neg h6]
      match hr : tokens.reverse with
      | [] | [_] =>
        have hlen := congrArg List.length hr
        simp only [List.length_reverse, List.length_cons, List.length_nil] at hlen
        omega
      | last :: connector :: more =>
        obtain ⟨hlast, hconn⟩ := last_two_of_reverse hr
        have hflag : Flagged tokens ↔ connector ∈ connectors := by simp [Flagged, hconn]
        simp only [hlast, hflag, h6, false_or]
        split <;> rfl

end Measures.Query
