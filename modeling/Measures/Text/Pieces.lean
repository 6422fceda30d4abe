/-!
# Cutting a text at separators

`pieces` cuts a list of characters at every separator, so that neighbouring separators leave an
empty piece between them; `List.intercalate` puts pieces together again. All word splitting of the
library is said with these two.
-/

namespace Measures.Text

/-- The pieces between the separators, empty ones included: one more than there are separators. -/
def pieces (sep : Char → Bool) : List Char → List (List Char)
  | [] => [[]]
  | c :: rest =>
    if sep c then [] :: pieces sep rest
    else match pieces sep rest with
      | [] => [[c]]
      | piece :: more => (c :: piece) :: more

theorem pieces_ne_nil (sep : Char → Bool) : ∀ cs : List Char, pieces sep cs ≠ []
  | [] => by simp [pieces]
  | c :: rest => by
    unfold pieces
    split
    · simp
    · split <;> simp

/-- No piece holds a separator. -/
theorem not_sep_of_mem_pieces (sep : Char → Bool) : ∀ (cs : List Char),
    ∀ piece ∈ pieces sep cs, ∀ c ∈ piece, sep c = false
  | [] => by simp [pieces]
  | d :: rest => by
    have ih := not_sep_of_mem_pieces sep rest
    unfold pieces
    split
    · intro piece hp c hc
      rcases List.mem_cons.mp hp with rfl | hp
      · cases hc
      · exact ih piece hp c hc
    · rename_i hd
      split
      · intro piece hp c hc
        simp only [List.mem_singleton] at hp
        subst hp
        simp only [List.mem_singleton] at hc
        subst hc
        simpa using hd
      · rename_i head more hm
        intro piece hp c hc
        rcases List.mem_cons.mp hp with rfl | hp
        · rcases List.mem_cons.mp hc with rfl | hc
          · simpa using hd
          · exact ih head (by simp [hm]) c hc
        · exact ih piece (by simp [hm, hp]) c hc

end Measures.Text
