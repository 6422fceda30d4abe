import Measures.Answer
import Measures.Proofs.Decimal.RoundTrip
import Measures.Proofs.Notation

/-!
# Numbers of answers as amounts of questions

A number of an answer can be typed as the amount of another question if it has the point in its
place, and then it is the very same number, the sign of a zero included. In exponent form it cannot,
since the grammar of amounts has no sign after the exponent letter; nor can what is infinite or no
number.

* `isAmount_of_isPositional`, `not_isAmount_of_isExponential`: what the grammar makes of the shapes;
* `ofLine_writeNumber`: written numbers as amounts.
-/

namespace Measures

open Text (IsDigits IsLetters)
open Decimal (IsAmount IsWhole IsPositional IsExponential signText numeral?)

namespace Decimal

/-! ## 1. Shapes and the grammar -/

theorem isWhole_signText {ds : List Char} (negative : Bool) (h : IsDigits ds) :
    IsWhole (signText negative ++ ds) := by
  cases negative with
  | true => exact .inr ⟨ds, rfl, h⟩
  | false => exact .inl h

/-- **A number with the point in its place is an amount.** -/
theorem isAmount_of_isPositional {cs : List Char} (h : IsPositional cs) : IsAmount cs := by
  obtain ⟨negative, number, whole, places, rfl, rfl, hw, hp⟩ := h
  refine .inr ⟨signText negative ++ whole, '.', places, ?_, isWhole_signText negative hw, ?_, hp⟩
  · rw [List.append_assoc]
  · decide

/-- A minus can only start an amount. -/
theorem IsAmount.minus_not_mem {c : Char} {cs : List Char} (h : IsAmount (c :: cs)) : '-' ∉ cs := by
  have hwhole : ∀ {ds : List Char}, IsWhole (c :: ds) → '-' ∉ ds := by
    intro ds hw hm
    rcases hw with hd | ⟨es, he, hd⟩
    · exact hd.not_mem (by decide) (List.mem_cons_of_mem c hm)
    · obtain ⟨_, rfl⟩ := List.cons.inj he
      exact hd.not_mem (by decide) hm
  rcases h with hw | ⟨whole, mark, places, he, hw, hmark, hp⟩
  · exact hwhole hw
  · have hne : whole ≠ [] := IsAmount.ne_nil (.inl hw)
    obtain ⟨d, more, rfl⟩ := List.exists_cons_of_ne_nil hne
    obtain ⟨rfl, rfl⟩ := List.cons.inj he
    intro hm
    rcases List.mem_append.mp hm with hm | hm
    · exact hwhole hw hm
    · rcases List.mem_cons.mp hm with rfl | hm
      · exact absurd hmark (by decide)
      · exact hp.not_mem (by decide) hm

/-- **A number in exponent form is no amount**: its exponent has a sign. -/
theorem not_isAmount_of_isExponential {cs : List Char} (h : IsExponential cs) : ¬ IsAmount cs := by
  obtain ⟨negative, number, mantissa, sign, digits, rfl, hn⟩ := h
  have hne : signText negative ++ mantissa ≠ [] := by
    refine List.append_ne_nil_of_right_ne_nil _ ?_
    rcases hn.mantissa with hm | ⟨whole, places, hp⟩
    · exact hm.1
    · rw [hp.eq]
      simp
  obtain ⟨c, cs, hcs⟩ := List.exists_cons_of_ne_nil hne
  rw [hn.eq, ← List.append_assoc, hcs]
  intro ha
  have hsign : sign ∈ cs ++ 'e' :: sign :: digits := by simp
  rcases hn.sign with rfl | rfl
  · exact ha.minus_not_mem hsign
  · rcases ha.chars '+' (List.mem_cons_of_mem c hsign) with hc | hc
    · exact absurd hc (by decide)
    · exact absurd hc (by decide)

/-- The name of a number is no amount. -/
theorem not_isAmount_of_mem {cs : List Char} (h : 'n' ∈ cs) : ¬ IsAmount cs := by
  intro ha
  rcases ha.chars 'n' h with hc | hc
  · exact absurd hc (by decide)
  · exact absurd hc (by decide)

theorem not_isAmount_write {f : Decimal.Format} {x : Float} (hx : x.isFinite = false) :
    ¬ IsAmount (f.write x).toList := by
  have he : exponentField x = 2047 := by
    refine Decidable.byContradiction fun he => ?_
    rw [(Double.isFinite_iff x).mpr he] at hx
    cases hx
  by_cases hs : significandField x = 0
  · rw [write_infinite he hs]
    exact not_isAmount_of_mem (by simp)
  · rw [write_undefined he hs]
    exact not_isAmount_of_mem (by simp)

end Decimal

/-! ## 2. Questions -/

namespace Query

variable {x : Float} {a b : String}

/-- The words of a question with a written number as its amount. -/
theorem words_written (x : Float) (ha : IsLetters a.toList) (hb : IsLetters b.toList) :
    (∀ t ∈ [writeNumber x, a, "to", b], IsToken t) ∧
      Text.words (writeNumber x ++ " " ++ a ++ " to " ++ b) = [writeNumber x, a, "to", b] := by
  have htokens : ∀ t ∈ [writeNumber x, a, "to", b], IsToken t := by
    intro t ht
    simp only [List.mem_cons, List.not_mem_nil, or_false] at ht
    rcases ht with rfl | rfl | rfl | rfl
    · exact ⟨Decimal.write_ne_nil _ x, fun c hc => Decimal.isBlank_of_mem_write hc⟩
    · exact isToken_of_isLetters ha
    · exact isToken_of_isLetters (by decide)
    · exact isToken_of_isLetters hb
  have hline : writeNumber x ++ " " ++ a ++ " to " ++ b =
      String.intercalate " " [writeNumber x, a, "to", b] := by
    rw [← String.toList_inj]
    simp
  exact ⟨htokens, by rw [hline, Text.words_intercalate htokens]⟩

theorem ofLine_written (ha : IsLetters a.toList) (hb : IsLetters b.toList)
    (hx : IsAmount (writeNumber x).toList) :
    ofLine (writeNumber x ++ " " ++ a ++ " to " ++ b) = .ok ⟨x, a, b⟩ := by
  obtain ⟨htokens, hwords⟩ := words_written x ha hb
  have hquestion : IsQuestion (writeNumber x :: ([a] ++ "to" :: [b])) :=
    isQuestion_of_sides hx (.one a) (.one b) (by simpa using ha) (by simpa using hb) (by decide)
      ((isConnector_iff _).mp (by decide))
  rw [ofLine, hwords]
  exact ofWords_eq htokens hquestion (Decimal.read?_write _ x) rfl

theorem ofLine_not_amount (ha : IsLetters a.toList) (hb : IsLetters b.toList)
    (hx : ¬ IsAmount (writeNumber x).toList) :
    ofLine (writeNumber x ++ " " ++ a ++ " to " ++ b) = .error .malformed := by
  obtain ⟨htokens, hwords⟩ := words_written x ha hb
  rw [ofLine, hwords]
  refine ofWords_of_not_isQuestion htokens fun hq => hx ?_
  exact hq.words.1

/-- **A written number is an amount exactly if it has the point in its place.** The text of a finite
    number denotes a decimal fraction. If that is zero or lies between the fourth place after the
    point and the sixteenth before it, the text has the point in its place, and typed before two
    words of letters it asks for this very number, the sign of a zero included. Otherwise the text is
    in exponent form, and the line is malformed, as it is for an infinity and for what is no
    number. -/
theorem ofLine_writeNumber (x : Float) {a b : String} (ha : IsLetters a.toList)
    (hb : IsLetters b.toList) :
    (x.isFinite = true → ∃ negative d e,
      numeral? (writeNumber x).toList = some (.finite negative d e) ∧
        if d = 0 ∨ (10 : ℚ) ^ (-4 : Int) ≤ d * 10 ^ e ∧ (d : ℚ) * 10 ^ e < 10 ^ (16 : Int) then
          IsPositional (writeNumber x).toList ∧
            ofLine (writeNumber x ++ " " ++ a ++ " to " ++ b) = .ok ⟨x, a, b⟩
        else
          IsExponential (writeNumber x).toList ∧
            ofLine (writeNumber x ++ " " ++ a ++ " to " ++ b) = .error .malformed) ∧
    (x.isFinite = false →
      ofLine (writeNumber x ++ " " ++ a ++ " to " ++ b) = .error .malformed) := by
  constructor
  · intro hx
    obtain ⟨negative, d, e, hread, _, hshape⟩ :=
      Decimal.exists_numeral?_write numberFormat ((Double.isFinite_iff x).mp hx)
    refine ⟨negative, d, e, hread, ?_⟩
    change if d = 0 ∨ (10 : ℚ) ^ (-4 : Int) ≤ d * 10 ^ e ∧ (d : ℚ) * 10 ^ e < 10 ^ (16 : Int) then
      IsPositional (writeNumber x).toList else IsExponential (writeNumber x).toList at hshape
    split at hshape
    · rename_i hd
      rw [if_pos hd]
      exact ⟨hshape, ofLine_written ha hb (Decimal.isAmount_of_isPositional hshape)⟩
    · rename_i hd
      rw [if_neg hd]
      exact ⟨hshape, ofLine_not_amount ha hb (Decimal.not_isAmount_of_isExponential hshape)⟩
  · exact fun hx => ofLine_not_amount ha hb (Decimal.not_isAmount_write hx)

/-- A negative zero is typed as it is printed; ten to the sixteenth is printed in exponent form. -/
theorem ofLine_writeNumber_bounds :
    IsLetters "km".toList ∧ IsLetters "mi".toList ∧
      (-0.0 : Float).isFinite = true ∧ (1e16 : Float).isFinite = true ∧
      ofLine (writeNumber (-0.0) ++ " " ++ "km" ++ " to " ++ "mi") = .ok ⟨-0.0, "km", "mi"⟩ ∧
      ofLine (writeNumber 1e16 ++ " " ++ "km" ++ " to " ++ "mi") = .error .malformed := by
  have hkm : IsLetters "km".toList := by decide
  have hmi : IsLetters "mi".toList := by decide
  have hzero : numeral? (writeNumber (-0.0)).toList = some (.finite true 0 (-1)) := by
    decide +kernel
  have hlarge : numeral? (writeNumber 1e16).toList = some (.finite false 1 16) := by
    decide +kernel
  refine ⟨hkm, hmi, rfl, rfl, ?_, ?_⟩
  · obtain ⟨_, _, _, hread, h⟩ := (ofLine_writeNumber (-0.0) hkm hmi).1 rfl
    rw [hzero] at hread
    cases hread
    rw [if_pos (.inl rfl)] at h
    exact h.2
  · obtain ⟨_, _, _, hread, h⟩ := (ofLine_writeNumber 1e16 hkm hmi).1 rfl
    rw [hlarge] at hread
    cases hread
    rw [if_neg (by norm_num)] at h
    exact h.2

end Query

end Measures
