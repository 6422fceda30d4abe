import Measures.Proofs.Decimal.Reading

/-!
# Numerals in any letter case

There are letters in a numeral at two places, the mark of its exponent and the names of what is not
finite, and neither place tells small letters from capitals. So a numeral may be lower-cased before
it is read.

* `numeral?_map_toLower`: a lower-cased numeral is the same numeral, or none if it was none;
* `read?_of_sameLetters`: texts that differ in the case of ASCII letters only write the same double.
-/

namespace Measures.Decimal

/-! ## 1. Digits and signs -/

theorem map_toLower_of_digits {ds : List Char} (h : ∀ c ∈ ds, c.isDigit = true) :
    ds.map Char.toLower = ds :=
  (List.map_congr_left fun c hc => Text.toLower_of_isDigit (h c hc)).trans (List.map_id' ds)

theorem isDigit_comp_toLower : Char.isDigit ∘ Char.toLower = Char.isDigit :=
  funext Text.isDigit_toLower

theorem takeWhile_map_toLower (cs : List Char) :
    (cs.map Char.toLower).takeWhile Char.isDigit = cs.takeWhile Char.isDigit := by
  rw [List.takeWhile_map, isDigit_comp_toLower]
  exact map_toLower_of_digits fun _ hc => List.mem_takeWhile_imp hc

theorem dropWhile_map_toLower (cs : List Char) :
    (cs.map Char.toLower).dropWhile Char.isDigit =
      (cs.dropWhile Char.isDigit).map Char.toLower := by
  rw [List.dropWhile_map, isDigit_comp_toLower]

theorem splitSign_map_toLower (cs : List Char) :
    splitSign (cs.map Char.toLower) = ((splitSign cs).1, (splitSign cs).2.map Char.toLower) := by
  cases cs with
  | nil => rfl
  | cons c rest =>
    by_cases hm : c = '-'
    · subst hm
      rfl
    · by_cases hp : c = '+'
      · subst hp
        rfl
      · have hm' : c.toLower ≠ '-' := fun h => hm (Text.eq_of_toLower_eq h (by decide))
        have hp' : c.toLower ≠ '+' := fun h => hp (Text.eq_of_toLower_eq h (by decide))
        simp [splitSign, hm, hp, hm', hp']

/-! ## 2. Exponents and fractions -/

theorem integer?_map_toLower (cs : List Char) :
    integer? (cs.map Char.toLower) = integer? cs := by
  have hall : ∀ ds : List Char, (ds.map Char.toLower).all Char.isDigit = ds.all Char.isDigit :=
    fun ds => by rw [List.all_map, isDigit_comp_toLower]
  unfold integer?
  rw [splitSign_map_toLower]
  simp only [hall, ne_eq, List.map_eq_nil_iff]
  split
  · rename_i h
    rw [map_toLower_of_digits (List.all_eq_true.mp h.2)]
  · rfl

/-- The mark of an exponent may be of either case. -/
theorem isExponentMark_toLower (c : Char) :
    (c.toLower = 'e' ∨ c.toLower = 'E') ↔ (c = 'e' ∨ c = 'E') := by
  cases h : c.isAlpha with
  | false => rw [Text.toLower_of_not_isAlpha h]
  | true =>
    exact Text.forall_ascii
      (fun c => (c.toLower = 'e' ∨ c.toLower = 'E') ↔ (c = 'e' ∨ c = 'E')) (by decide)
      (Text.toNat_lt_of_isAlpha h)

theorem exponent?_map_toLower (cs : List Char) :
    exponent? (cs.map Char.toLower) = exponent? cs := by
  cases cs with
  | nil => rfl
  | cons c rest =>
    simp only [List.map_cons, exponent?, isExponentMark_toLower, integer?_map_toLower]

theorem fraction?_map_toLower (cs : List Char) :
    fraction? (cs.map Char.toLower) = fraction? cs := by
  unfold fraction?
  rw [takeWhile_map_toLower, dropWhile_map_toLower]
  cases cs.dropWhile Char.isDigit with
  | nil => rfl
  | cons c rest =>
    by_cases hc : c = '.'
    · subst hc
      have hpoint : Char.toLower '.' = '.' := by decide
      simp only [List.map_cons, hpoint, takeWhile_map_toLower, dropWhile_map_toLower,
        exponent?_map_toLower]
    · have hc' : c.toLower ≠ '.' := fun h => hc (Text.eq_of_toLower_eq h (by decide))
      have hexp : exponent? (c.toLower :: rest.map Char.toLower) = exponent? (c :: rest) :=
        exponent?_map_toLower (c :: rest)
      simp [hc, hc', hexp]

/-! ## 3. Numerals -/

/-- **A lower-cased numeral is the same numeral.** -/
theorem numeral?_map_toLower (cs : List Char) :
    numeral? (cs.map Char.toLower) = numeral? cs := by
  have hname : ∀ ds : List Char, (ds.map Char.toLower).map Char.toLower = ds.map Char.toLower := by
    intro ds
    rw [List.map_map]
    exact List.map_congr_left fun c _ => Text.toLower_toLower c
  unfold numeral?
  rw [splitSign_map_toLower]
  simp only [hname, fraction?_map_toLower]

theorem isMargin_toLower (c : Char) : isMargin c.toLower = isMargin c := by
  cases h : c.isAlpha with
  | false => rw [Text.toLower_of_not_isAlpha h]
  | true =>
    exact Text.forall_ascii (fun c => isMargin c.toLower = isMargin c) (by decide)
      (Text.toNat_lt_of_isAlpha h)

theorem withoutMargins_map_toLower (cs : List Char) :
    withoutMargins (cs.map Char.toLower) = (withoutMargins cs).map Char.toLower := by
  have hmargin : isMargin ∘ Char.toLower = isMargin := funext isMargin_toLower
  simp only [withoutMargins, List.dropWhile_map, ← List.map_reverse, hmargin]

/-- **Texts that differ in the case of ASCII letters only write the same double.** -/
theorem read?_of_sameLetters {s t : String}
    (h : s.toList.map Char.toLower = t.toList.map Char.toLower) : read? s = read? t := by
  have hlow : ∀ cs : List Char,
      numeral? (withoutMargins (cs.map Char.toLower)) = numeral? (withoutMargins cs) := fun cs => by
    rw [withoutMargins_map_toLower, numeral?_map_toLower]
  rw [read?, read?, ← hlow s.toList, ← hlow t.toList, h]

end Measures.Decimal
