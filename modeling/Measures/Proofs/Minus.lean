import Measures.Proofs.Double.Sign
import Measures.Proofs.Query.Written
import Measures.Proofs.Scaling

/-!
# When a minus is shown

A length or a weight below zero is refused, and yet the sentence of an answer can show a minus: a
negative zero is not below zero. It comes from a minus before a numeral that is read as zero, be it a
zero or too small for a double, and it stays a negative zero through the conversion. No other length
or weight is shown with a minus.

* `Decimal.head?_write_iff`: the numbers that are written with a minus;
* `Decimal.read?_eq_negZero_iff`: the amounts that are read as a negative zero;
* `standard_minus_iff`: the lines whose answer shows a minus;
* `exists_minus_shown`: a distance below zero that is answered.
-/

namespace Measures

open Text (IsDigits)
open Decimal (IsAmount isNegative)

/-! ## 1. Numbers with a minus -/

namespace Decimal

variable {x : Float}

theorem head?_signText_iff {negative : Bool} {cs : List Char} (h : cs.head? ≠ some '-') :
    (signText negative ++ cs).head? = some '-' ↔ negative = true := by
  cases negative with
  | true => exact iff_of_true rfl rfl
  | false => exact iff_of_false h Bool.false_ne_true

theorem head?_digits {ds : List Char} (h : IsDigits ds) (rest : List Char) :
    (ds ++ rest).head? ≠ some '-' := by
  obtain ⟨c, more, rfl, hc⟩ := h.exists_cons
  intro he
  exact Text.ne_of_isDigit hc (by decide) (Option.some.inj he)

/-- **A number is written with a minus exactly if it has a sign.** -/
theorem head?_write_iff (f : Format) (x : Float) :
    (f.write x).toList.head? = some '-' ↔ isNegative x = true := by
  by_cases he : exponentField x = 2047
  · by_cases hs : significandField x = 0
    · rw [write_infinite he hs]
      exact head?_signText_iff (by decide)
    · rw [write_undefined he hs, ← undefined_eq he hs]
      exact iff_of_false (by decide) Bool.false_ne_true
  · by_cases hs : significand x = 0
    · rw [write_zero he hs]
      exact head?_signText_iff (by decide)
    · have hs : 0 < significand x := Nat.pos_of_ne_zero hs
      obtain ⟨c, hc, htext, _⟩ := exists_shortest f he hs
      obtain ⟨⟨ds, rest, hdigits, hds⟩, _⟩ := f.exists_fraction?_text hc c.exponent
      rw [write_shortest he hs, htext, hdigits]
      exact head?_signText_iff (head?_digits hds rest)

/-! ## 2. Amounts with a minus -/

/-- An amount is a sign and a numeral without one, which is read by itself as the same decimal
    fraction. -/
theorem IsAmount.exists_numeral? {cs : List Char} (h : IsAmount cs) :
    ∃ negative number d e, cs = signText negative ++ number ∧ number.head? ≠ some '-' ∧
      ∀ n, numeral? (signText n ++ number) = some (.finite n d e) := by
  have hdigits : ∃ negative ds rest, cs = signText negative ++ (ds ++ rest) ∧ IsDigits ds := by
    rcases h with (hd | ⟨ds, rfl, hd⟩) | ⟨whole, mark, places, rfl, hd | ⟨ds, rfl, hd⟩, _⟩
    · exact ⟨false, cs, [], by simp [signText], hd⟩
    · exact ⟨true, ds, [], by simp [signText], hd⟩
    · exact ⟨false, whole, mark :: places, rfl, hd⟩
    · exact ⟨true, ds, mark :: places, rfl, hd⟩
  obtain ⟨negative, ds, rest, rfl, hd⟩ := hdigits
  have hsome := isSome_numeral? h
  rw [numeral?_signed negative hd, Option.isSome_map] at hsome
  obtain ⟨⟨d, e⟩, hfraction⟩ := Option.isSome_iff_exists.mp hsome
  refine ⟨negative, ds ++ rest, d, e, rfl, head?_digits hd rest, fun n => ?_⟩
  rw [numeral?_signed n hd, hfraction]
  rfl

/-- A minus makes a negative zero of a zero only. -/
theorem neg_eq_negZero_iff (hx : isNegative x = false) : -x = -0.0 ↔ x = 0.0 := by
  constructor
  · intro h
    by_cases he : exponentField x = 2047
    · exfalso
      by_cases hs : significandField x = 0
      · rw [← signed_infinite_eq he hs, hx] at h
        exact absurd h (by decide)
      · rw [← undefined_eq he hs] at h
        exact absurd h (by decide)
    · by_cases hs : significand x = 0
      · have hzero := signed_zero_eq hs
        rw [hx] at hzero
        exact hzero.symm
      · have hs : 0 < significand x := Nat.pos_of_ne_zero hs
        have hc := Double.isCanonical he hs
        have hparts := Double.ofParts_eq he hs
        rw [hx] at hparts
        rw [← hparts, neg_ofParts] at h
        obtain ⟨_, _, hsig, _⟩ := Double.fields_of_toNat (x := Double.ofParts true hc) hc
          (Double.toNat_pack hc)
        rw [h] at hsig
        exact absurd hsig (Nat.ne_of_lt hs)
  · rintro rfl
    rfl

/-- **An amount is read as a negative zero** exactly if it is a minus and a numeral that is read as
    zero. -/
theorem read?_eq_negZero_iff {text : String} (h : IsAmount text.toList) {x : Float}
    (hx : read? text = some x) :
    x = -0.0 ↔ ∃ rest, text = "-" ++ rest ∧ read? rest = some 0.0 := by
  obtain ⟨negative, number, d, e, htext, hhead, hread⟩ := h.exists_numeral?
  have hblank : ∀ c ∈ text.toList, Text.isBlank c = false := fun c hc => (h.ascii c hc).2.2
  have hnumber : ∀ {rest : String}, rest.toList = number → read? rest = some (magnitude d e) := by
    intro rest hrest
    rw [read?_of_not_blank fun c hc => hblank c (htext ▸ List.mem_append_right _ (hrest ▸ hc)),
      hrest]
    exact congrArg (Option.map Numeral.value) (hread false)
  rw [read?_of_not_blank hblank, htext, hread negative] at hx
  have hx : signed negative (magnitude d e) = x := Option.some.inj hx
  have hsign := Double.isNegative_magnitude d e
  constructor
  · intro hzero
    rw [hzero] at hx
    cases negative with
    | false =>
      rw [show magnitude d e = -0.0 from hx] at hsign
      cases hsign
    | true =>
      refine ⟨String.ofList number, ?_, ?_⟩
      · rw [← String.toList_inj, htext]
        simp [signText]
      · rw [hnumber (String.toList_ofList (l := number)), (neg_eq_negZero_iff hsign).mp hx]
  · rintro ⟨rest, hrest, hzero⟩
    have hlist : '-' :: rest.toList = signText negative ++ number := by
      rw [← htext, hrest, String.toList_append]
      rfl
    cases negative with
    | false => exact absurd (congrArg List.head? hlist).symm hhead
    | true =>
      have he := hnumber (List.cons.inj hlist).2
      rw [hzero] at he
      rw [← hx, ← Option.some.inj he]
      rfl

end Decimal

/-! ## 3. Answers with a minus -/

/-- The number is written with a minus. -/
def ShowsMinus (x : Float) : Prop := (writeNumber x).toList.head? = some '-'

/-- The first word of the line is a minus and a numeral that is read as zero. -/
def Query.TypesMinusZero (line : String) : Prop :=
  ∃ rest more, Text.words line = ("-" ++ rest) :: more ∧ Decimal.read? rest = some 0.0

theorem Query.typesMinusZero_iff {line : String} {q : Query} (hq : Query.ofLine line = .ok q) :
    Query.TypesMinusZero line ↔ q.amount = -0.0 := by
  have hquestion := (Query.isQuestion_of_ofWords (fun _ => Query.isToken_of_mem_words) hq)
  obtain ⟨first, more, hwords, hread⟩ := Query.read?_of_ofLine hq
  rw [hwords] at hquestion
  rw [Decimal.read?_eq_negZero_iff hquestion.words.1 hread]
  constructor
  · rintro ⟨rest, more', hline, hzero⟩
    rw [hwords] at hline
    exact ⟨rest, (List.cons.inj hline).1, hzero⟩
  · rintro ⟨rest, rfl, hzero⟩
    exact ⟨rest, more, hwords, hzero⟩

namespace Catalog

variable {c : Catalog} {line : String} {q : Query} {u v : Measure} {a : Answer}

/-- All lengths and weights of the catalog have a size: a finite number above zero. -/
def Sized (c : Catalog) : Prop :=
  ∀ m ∈ c.measures, m.category = .length ∨ m.category = .weight → Double.IsPositive m.scale

/-- What is answered is not below zero, unless it is neither a length nor a weight. -/
theorem not_lt_zero_of_answer (h : c.answer line = .ok a) (hq : Query.ofLine line = .ok q)
    (ha : c.Asks q u v) (hl : u.category = .length ∨ u.category = .weight) : ¬ q.amount < 0.0 := by
  intro hx
  have hc : u.category ≠ .temperature := by rcases hl with hl | hl <;> simp [hl]
  rw [answer_of_resolve_error hq (resolve_of_negative ha hx hc)] at h
  cases h

/-- **Signs in an answer about lengths or weights**: the amount has one only as a negative zero, and
    then the value is a negative zero as well; otherwise neither has. -/
theorem sign_of_answer (hc : c.Sized) (h : c.answer line = .ok a) (hq : Query.ofLine line = .ok q)
    (ha : c.Asks q u v) (hl : u.category = .length ∨ u.category = .weight)
    (hcat : u.category = v.category) :
    (a.amount = -0.0 ∧ a.value = -0.0) ∨
      (isNegative a.amount = false ∧ isNegative a.value = false) := by
  obtain ⟨hamount, hvalue⟩ := value_of_answer h hq ha hl
  have hu := hc u ha.source_mem hl
  have hv := hc v ha.target_mem (hcat ▸ hl)
  have hnot := not_lt_zero_of_answer h hq ha hl
  rw [← hamount, Double.lt_zero_iff] at hnot
  by_cases hzero : a.amount = -0.0
  · refine .inl ⟨hzero, ?_⟩
    rcases hvalue with ⟨_, hs⟩ | ⟨_, hs⟩
    · rw [hs, hzero, Double.negZero_mul hu, Double.negZero_div hv]
    · exact hs.trans hzero
  · have hsign : isNegative a.amount = false := by
      cases hn : isNegative a.amount with
      | true => exact absurd ⟨hn, hzero⟩ hnot
      | false => rfl
    refine .inr ⟨hsign, ?_⟩
    rcases hvalue with ⟨_, hs⟩ | ⟨_, hs⟩
    · rw [hs]
      exact Double.isNegative_div (Double.isNegative_mul hsign hu.sign) hv.sign
    · rw [hs, hsign]

theorem standard_sized : standard.Sized := by
  have hall : ∀ m ∈ standard.measures, m.category = .length ∨ m.category = .weight →
      isNegative m.scale = false ∧ Decimal.exponentField m.scale ≠ 2047 ∧
        0 < Decimal.significand m.scale := by decide +kernel
  intro m hm hl
  obtain ⟨hs, hf, hn⟩ := hall m hm hl
  exact ⟨hs, hf, hn⟩

/-- **When a length or a weight is shown with a minus.** The amount and the value of an answer of the
    standard catalog are shown with a minus exactly if the line starts with a minus and a numeral
    that is read as zero, and then both are a negative zero. -/
theorem standard_minus_iff (h : standard.answer line = .ok a) (hq : Query.ofLine line = .ok q)
    (ha : standard.Asks q u v) (hl : u.category = .length ∨ u.category = .weight) :
    (ShowsMinus a.amount ↔ Query.TypesMinusZero line) ∧
      (ShowsMinus a.value ↔ Query.TypesMinusZero line) ∧
      (Query.TypesMinusZero line → a.amount = -0.0 ∧ a.value = -0.0) := by
  obtain ⟨q', u', v', hq', ha', hcat, hamount, _⟩ := asks_of_answer h
  obtain rfl : q = q' := Except.ok.inj (hq.symm.trans hq')
  obtain ⟨rfl, rfl⟩ := ha.unique ha'
  rw [Query.typesMinusZero_iff hq, ← hamount]
  unfold ShowsMinus writeNumber
  rw [Decimal.head?_write_iff, Decimal.head?_write_iff]
  rcases sign_of_answer standard_sized h hq ha hl hcat with ⟨hx, hy⟩ | ⟨hx, hy⟩
  · rw [hx, hy]
    exact ⟨iff_of_true rfl rfl, iff_of_true rfl rfl, fun _ => ⟨rfl, rfl⟩⟩
  · have hne : a.amount ≠ -0.0 := by
      intro he
      rw [he] at hx
      cases hx
    rw [hx, hy]
    exact ⟨iff_of_false Bool.false_ne_true hne, iff_of_false Bool.false_ne_true hne,
      fun he => absurd he hne⟩

/-- The measures of a question about kilometers in miles. -/
theorem standard_asks_mile {x : Float} : standard.Asks ⟨x, "km", "mi"⟩
    (.length "kilometer" ["km", "kilometer", "kilometers"] 1000.0)
    (.length "mile" ["mi", "mile", "miles"] 1609.35) :=
  ⟨by decide, ⟨"km", by decide, rfl⟩, by decide, ⟨"mi", by decide, rfl⟩⟩

/-- Minus nothing is answered by minus nothing. -/
theorem standard_minus_iff_zero :
    ∃ a q u v, standard.answer "-0 km to mi" = .ok a ∧ Query.ofLine "-0 km to mi" = .ok q ∧
      standard.Asks q u v ∧ (u.category = .length ∨ u.category = .weight) ∧
      Query.TypesMinusZero "-0 km to mi" ∧ ShowsMinus a.amount ∧ ShowsMinus a.value := by
  have h : standard.answer "-0 km to mi" = .ok ⟨-0.0, -0.0, "kilometers", "miles"⟩ := by
    decide +kernel
  have hq : Query.ofLine "-0 km to mi" = .ok ⟨-0.0, "km", "mi"⟩ := rfl
  have htyped : Query.TypesMinusZero "-0 km to mi" := ⟨"0", ["km", "to", "mi"], rfl, rfl⟩
  obtain ⟨hamount, hvalue, _⟩ := standard_minus_iff h hq standard_asks_mile (.inl rfl)
  exact ⟨_, _, _, _, h, hq, standard_asks_mile, .inl rfl, htyped, hamount.mpr htyped,
    hvalue.mpr htyped⟩

/-- A small decimal fraction below zero. -/
def belowZero (zeros : Nat) : String := "-0." ++ String.ofList (List.replicate zeros '0') ++ "1"

/-- It is read as the negative of a power of ten, as far as there is a double for it. -/
theorem read?_belowZero (n : Nat) : IsAmount (belowZero n).toList ∧
    Decimal.read? (belowZero n) = some (-Decimal.magnitude 1 (0 - (n + 1 : Nat))) := by
  have hplaces : IsDigits (List.replicate n '0' ++ ['1']) :=
    Decimal.isDigits_zeros_append n (by decide)
  have hpoint : Decimal.IsPoint (['0'] ++ '.' :: (List.replicate n '0' ++ ['1'])) ['0']
      (List.replicate n '0' ++ ['1']) := ⟨rfl, by decide, hplaces⟩
  have htext : (belowZero n).toList = Decimal.signText true ++
      (['0'] ++ '.' :: (List.replicate n '0' ++ ['1'])) := by
    simp [belowZero, Decimal.signText]
  have hamount : IsAmount (belowZero n).toList :=
    Decimal.isAmount_of_isPositional ⟨true, _, _, _, htext, hpoint⟩
  have hdigits : Decimal.natOf (['0'] ++ (List.replicate n '0' ++ ['1'])) = 1 := by
    rw [show ['0'] = List.replicate 1 '0' from rfl, Decimal.natOf_zeros, Decimal.natOf_zeros]
    rfl
  refine ⟨hamount, ?_⟩
  rw [Decimal.read?_of_not_blank fun c hc => (hamount.ascii c hc).2.2, htext,
    hpoint.numeral? true, hdigits, List.length_append, List.length_replicate]
  rfl

theorem ofLine_belowZero (n : Nat) : Query.ofLine (belowZero n ++ " km to mi") =
    .ok ⟨-Decimal.magnitude 1 (0 - (n + 1 : Nat)), "km", "mi"⟩ := by
  obtain ⟨hamount, hread⟩ := read?_belowZero n
  have hletters : ∀ s ∈ ["km", "mi"], Text.IsLetters s.toList := by decide
  have hsides := ofLine_sides hamount hread (.one "km") (.one "mi")
    (fun w hw => hletters w (by rw [List.mem_singleton.mp hw]; decide))
    (fun w hw => hletters w (by rw [List.mem_singleton.mp hw]; decide)) (.inl rfl)
    (fun _ _ h => by cases h)
  have hline : belowZero n ++ " " ++ String.intercalate " " ["km"] ++ " " ++ "to" ++ " " ++
      String.intercalate " " ["mi"] = belowZero n ++ " km to mi" := by
    simp [String.append_assoc]
  rw [← hline]
  exact hsides

/-- Not every minus is refused: a distance below zero, but nearer to it than to any double other than
    zero, is answered, and both numbers of the answer are shown with a minus. -/
theorem exists_minus_shown :
    ¬ ∀ line a q u v, standard.answer line = .ok a → Query.ofLine line = .ok q →
      standard.Asks q u v → u.category = .length ∨ u.category = .weight →
        ¬ ShowsMinus a.amount ∧ ¬ ShowsMinus a.value := by
  intro h
  have hq : Query.ofLine (belowZero 323 ++ " km to mi") = .ok ⟨-0.0, "km", "mi"⟩ := by
    have hzero : -Decimal.magnitude 1 (0 - (323 + 1 : Nat)) = -0.0 := by decide +kernel
    rw [ofLine_belowZero, hzero]
  have hanswer : standard.answer (belowZero 323 ++ " km to mi") =
      .ok ⟨-0.0, -0.0, "kilometers", "miles"⟩ := by
    rw [answer_of_asks hq standard_asks_mile (fun hlt => absurd hlt (by decide)) rfl]
    decide +kernel
  exact (h _ _ _ _ _ hanswer hq standard_asks_mile (.inl rfl)).1
    ((Decimal.head?_write_iff _ _).mpr rfl)

end Catalog

end Measures
