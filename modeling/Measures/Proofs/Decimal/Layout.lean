import Mathlib.Algebra.Order.Field.Power
import Mathlib.Data.Rat.Cast.Order
import Mathlib.Tactic.FieldSimp
import Mathlib.Tactic.NormNum
import Mathlib.Tactic.Ring
import Measures.Decimal.Layout
import Measures.Decimal.Shortest
import Measures.Proofs.Decimal.Reading

/-!
# Reading back what is laid out

The two layouts of a number are read as the number they were made from: with the point in its place
the digits after it scale the number, in exponent form the exponent does. Which of the two a format
chooses is a matter of two powers of ten.

* `exists_significant`: digits without the zeros at their end;
* `exists_positional`, `exists_exponential`: the two layouts;
* `IsPositional`, `IsExponential`: their shapes, after a minus perhaps;
* `Format.exists_fraction?_text`, `Format.exists_numeral?_text`: the text of a number.
-/

namespace Measures.Decimal

open Text (AllOf IsDigits)

variable {ds : List Char} {point exponent : Int} {width : Nat}

/-! ## 1. The number that digits write -/

theorem natOf_append (as bs : List Char) :
    natOf (as ++ bs) = natOf as * 10 ^ bs.length + natOf bs := by
  rw [natOf, Nat.ofDigitChars_append, Nat.ofDigitChars_eq_ofDigitChars_zero, Nat.mul_comm]
  rfl

/-- Zeros in front say nothing. -/
theorem natOf_zeros (n : Nat) (cs : List Char) :
    natOf (List.replicate n '0' ++ cs) = natOf cs := by
  rw [natOf_append, natOf, Nat.ofDigitChars_replicate_zero, Nat.mul_zero, Nat.zero_mul,
    Nat.zero_add]

/-- Zeros at the end are factors of ten. -/
theorem natOf_append_zeros (cs : List Char) (n : Nat) :
    natOf (cs ++ List.replicate n '0') = natOf cs * 10 ^ n := by
  have hz : natOf (List.replicate n '0') = 0 := by
    rw [natOf, Nat.ofDigitChars_replicate_zero, Nat.mul_zero]
  rw [natOf_append, hz, List.length_replicate, Nat.add_zero]

theorem isDigits_toDigits (n : Nat) : IsDigits (Nat.toDigits 10 n) :=
  ⟨Nat.toDigits_ne_nil, fun _ hc => Nat.isDigit_of_mem_toDigits (by decide) (by decide) hc⟩

theorem natOf_toDigits (n : Nat) : natOf (Nat.toDigits 10 n) = n := Nat.ofDigitChars_ten_toDigits

/-- What `significant` cuts off are zeros. -/
theorem exists_zeros (ds : List Char) : ∃ n, ds = significant ds ++ List.replicate n '0' := by
  refine ⟨(ds.reverse.takeWhile (· = '0')).length, ?_⟩
  have hsplit : ds.reverse.takeWhile (· = '0') ++ ds.reverse.dropWhile (· = '0') = ds.reverse :=
    List.takeWhile_append_dropWhile
  have hzeros : ds.reverse.takeWhile (· = '0') =
      List.replicate (ds.reverse.takeWhile (· = '0')).length '0' := by
    refine List.eq_replicate_of_mem fun c hc => ?_
    exact of_decide_eq_true (List.mem_takeWhile_imp (p := fun c => decide (c = '0')) hc)
  have hrev := congrArg List.reverse hsplit
  rw [List.reverse_reverse, List.reverse_append, hzeros, List.reverse_replicate] at hrev
  exact hrev.symm

/-- The digits of a positive number without the zeros at their end: there are some, and they write
    the number up to a power of ten. -/
theorem exists_significant {d : Nat} (hd : 0 < d) : IsDigits (significant (Nat.toDigits 10 d)) ∧
    ∃ n, (Nat.toDigits 10 d).length = (significant (Nat.toDigits 10 d)).length + n ∧
      natOf (significant (Nat.toDigits 10 d)) * 10 ^ n = d := by
  obtain ⟨n, hn⟩ := exists_zeros (Nat.toDigits 10 d)
  have hvalue : natOf (significant (Nat.toDigits 10 d)) * 10 ^ n = d := by
    rw [← natOf_append_zeros, ← hn, natOf_toDigits]
  refine ⟨⟨fun hnil => ?_, fun c hc => ?_⟩, n, ?_, hvalue⟩
  · rw [hnil] at hvalue
    rw [show natOf [] = 0 from rfl, Nat.zero_mul] at hvalue
    omega
  · exact (isDigits_toDigits d).2 c (hn ▸ List.mem_append_left _ hc)
  · have hlen := congrArg List.length hn
    rwa [List.length_append, List.length_replicate] at hlen

theorem isDigits_append {as bs : List Char} (ha : IsDigits as) (hb : ∀ c ∈ bs, c.isDigit = true) :
    IsDigits (as ++ bs) :=
  ⟨List.append_ne_nil_of_left_ne_nil ha.1 bs, fun c hc =>
    (List.mem_append.mp hc).elim (ha.2 c) (hb c)⟩

theorem isDigit_of_mem_zeros {c : Char} {n : Nat} (hc : c ∈ List.replicate n '0') :
    c.isDigit = true := by
  rw [List.eq_of_mem_replicate hc]
  decide

theorem isDigits_zeros_append (n : Nat) (h : IsDigits ds) : IsDigits (List.replicate n '0' ++ ds) :=
  ⟨List.append_ne_nil_of_right_ne_nil _ h.1, fun c hc =>
    (List.mem_append.mp hc).elim isDigit_of_mem_zeros (h.2 c)⟩

/-! ## 2. The point in its place -/

/-- Digits, a point and digits. -/
structure IsPoint (cs whole places : List Char) : Prop where
  eq : cs = whole ++ '.' :: places
  whole : IsDigits whole
  places : IsDigits places

/-- The number that digits on both sides of a point write. -/
def pointValue (whole places : List Char) : ℚ :=
  natOf (whole ++ places) * 10 ^ (-(places.length : Int))

/-- **With the point in its place** the digits keep their number, scaled as the place says. -/
theorem exists_positional (hds : IsDigits ds) (point : Int) : ∃ whole places,
    IsPoint (positional ds point) whole places ∧
      pointValue whole places = natOf ds * 10 ^ (point - ds.length) := by
  have hlen : 0 < ds.length := List.length_pos_iff.mpr hds.1
  unfold positional pointValue
  by_cases hp : point ≤ 0
  · rw [if_pos hp]
    refine ⟨['0'], List.replicate (-point).toNat '0' ++ ds,
      ⟨rfl, by decide, isDigits_zeros_append _ hds⟩, ?_⟩
    rw [show ['0'] = List.replicate 1 '0' from rfl, natOf_zeros, natOf_zeros, List.length_append,
      List.length_replicate]
    congr 2
    omega
  · rw [if_neg hp]
    by_cases hl : ds.length ≤ point.toNat
    · rw [if_pos hl]
      refine ⟨ds ++ List.replicate (point.toNat - ds.length) '0', ['0'], ⟨by simp, ?_, by decide⟩, ?_⟩
      · exact isDigits_append hds fun _ => isDigit_of_mem_zeros
      · rw [List.append_assoc, ← List.replicate_succ', natOf_append_zeros]
        push_cast
        rw [mul_assoc, ← zpow_natCast, ← zpow_add₀ (by norm_num)]
        congr 2
        rw [List.length_singleton]
        omega
    · rw [if_neg hl]
      refine ⟨ds.take point.toNat, ds.drop point.toNat, ⟨rfl, ?_, ?_⟩, ?_⟩
      · refine ⟨fun h => ?_, fun c hc => hds.2 c (List.mem_of_mem_take hc)⟩
        have := congrArg List.length h
        rw [List.length_take, List.length_nil] at this
        omega
      · refine ⟨fun h => ?_, fun c hc => hds.2 c (List.mem_of_mem_drop hc)⟩
        have := congrArg List.length h
        rw [List.length_drop, List.length_nil] at this
        omega
      · rw [List.take_append_drop, List.length_drop]
        congr 2
        omega

/-! ## 3. Exponents -/

/-- Digits on one side of a point or on both, and an exponent with its sign. -/
structure IsExponent (cs mantissa : List Char) (sign : Char) (digits : List Char) : Prop where
  eq : cs = mantissa ++ 'e' :: sign :: digits
  mantissa : IsDigits mantissa ∨ ∃ whole places, IsPoint mantissa whole places
  sign : sign = '-' ∨ sign = '+'
  digits : IsDigits digits

/-- The exponent as it is written is read. -/
theorem exponent?_signed (exponent : Int) (hds : IsDigits ds) (hv : natOf ds = exponent.natAbs) :
    exponent? ('e' :: (if exponent < 0 then '-' else '+') :: ds) = some exponent := by
  have hall : ds.all Char.isDigit = true := List.all_eq_true.mpr hds.2
  by_cases he : exponent < 0
  · have hs : splitSign ('-' :: ds) = (true, ds) := rfl
    simp only [he, if_true, exponent?, true_or, integer?, hs, ne_eq, hds.1, not_false_eq_true, hall,
      and_self, hv]
    congr 1
    omega
  · have hs : splitSign ('+' :: ds) = (false, ds) := rfl
    simp only [he, if_false, exponent?, true_or, if_true, integer?, hs, ne_eq, hds.1,
      not_false_eq_true, hall, and_self, hv, Bool.false_eq_true]
    congr 1
    omega

/-- Digits, a point and digits before an exponent. -/
theorem fraction?_point_exponent {places rest : List Char} {c : Char} (h : IsDigits ds)
    (hp : IsDigits places) (hc : c.isDigit = false) :
    fraction? (ds ++ '.' :: (places ++ c :: rest)) =
      (exponent? (c :: rest)).map fun e : Int => (natOf (ds ++ places), e - places.length) := by
  have hpoint : Char.isDigit '.' = false := by decide
  unfold fraction?
  rw [Text.takeWhile_append_stop h.2 hpoint, Text.dropWhile_append_stop h.2 hpoint]
  simp only
  rw [Text.takeWhile_append_stop hp.2 hc, Text.dropWhile_append_stop hp.2 hc,
    if_neg fun hn => h.1 hn.1]

theorem natOf_padZeros (width n : Nat) : natOf (padZeros width (Nat.toDigits 10 n)) = n := by
  rw [padZeros, natOf_zeros, natOf_toDigits]

theorem isDigits_padZeros (width n : Nat) : IsDigits (padZeros width (Nat.toDigits 10 n)) :=
  isDigits_zeros_append _ (isDigits_toDigits n)

/-- **In exponent form** the digits keep their number, scaled as the exponent says. -/
theorem exists_exponential (hds : IsDigits ds) (width : Nat) (exponent : Int) :
    ∃ mantissa sign digits, IsExponent (exponential width ds exponent) mantissa sign digits ∧
      ∃ d e, fraction? (exponential width ds exponent) = some (d, e) ∧
        (d : ℚ) * 10 ^ e = natOf ds * 10 ^ (exponent + 1 - ds.length) := by
  have hread := exponent?_signed exponent (isDigits_padZeros width exponent.natAbs)
    (natOf_padZeros width exponent.natAbs)
  have hdigits := isDigits_padZeros width exponent.natAbs
  obtain ⟨c, rest, rfl, hc⟩ := hds.exists_cons
  have hone : IsDigits [c] := ⟨by simp, fun d hd => List.mem_singleton.mp hd ▸ hc⟩
  have hsign : (if exponent < 0 then '-' else '+') = '-' ∨
      (if exponent < 0 then '-' else '+') = '+' := by
    by_cases he : exponent < 0
    · exact .inl (if_pos he)
    · exact .inr (if_neg he)
  have he : Char.isDigit 'e' = false := by decide
  by_cases hrest : rest = []
  · subst hrest
    refine ⟨[c], _, _, ⟨rfl, .inl hone, hsign, hdigits⟩, natOf [c], exponent, ?_, ?_⟩
    · show fraction? ([c] ++ 'e' :: _ :: _) = _
      rw [fraction?_exponent hone he (by decide), hread]
      rfl
    · congr 2
      simp
  · have hplaces : IsDigits rest := ⟨hrest, fun d hd => hds.2 d (List.mem_cons_of_mem _ hd)⟩
    have hlen : 0 < rest.length := List.length_pos_iff.mpr hrest
    have heq : exponential width (c :: rest) exponent =
        [c] ++ '.' :: (rest ++ 'e' :: (if exponent < 0 then '-' else '+') ::
          padZeros width (Nat.toDigits 10 exponent.natAbs)) := by
      unfold exponential
      rw [if_neg (by rw [List.length_cons]; omega)]
      simp
    refine ⟨[c] ++ '.' :: rest, _, _, ⟨heq.trans (by simp), .inr ⟨[c], rest, rfl, hone, hplaces⟩,
      hsign, hdigits⟩, natOf (c :: rest), exponent - rest.length, ?_, ?_⟩
    · rw [heq, fraction?_point_exponent hone hplaces he, hread]
      rfl
    · congr 2
      rw [List.length_cons]
      push_cast
      ring

/-! ## 4. Texts of numbers -/

/-- A text with the point in its place, after a minus perhaps. -/
def IsPositional (cs : List Char) : Prop :=
  ∃ negative number whole places, cs = signText negative ++ number ∧ IsPoint number whole places

/-- A text in exponent form, after a minus perhaps. -/
def IsExponential (cs : List Char) : Prop :=
  ∃ negative number mantissa sign digits, cs = signText negative ++ number ∧
    IsExponent number mantissa sign digits

/-- A sign before digits is read as the sign of the number. -/
theorem numeral?_signed (negative : Bool) (h : IsDigits ds) (rest : List Char) :
    numeral? (signText negative ++ (ds ++ rest)) =
      (fraction? (ds ++ rest)).map fun f => .finite negative f.1 f.2 := by
  cases negative with
  | true => exact numeral?_minus h rest
  | false => exact numeral?_digits h rest

theorem IsPoint.fraction? {cs whole places : List Char} (h : IsPoint cs whole places) :
    fraction? cs = some (natOf (whole ++ places), 0 - (places.length : Int)) := by
  rw [h.eq, fraction?_point h.whole h.places]

theorem IsPoint.numeral? {cs whole places : List Char} (h : IsPoint cs whole places)
    (negative : Bool) : numeral? (signText negative ++ cs) =
      some (.finite negative (natOf (whole ++ places)) (0 - (places.length : Int))) := by
  rw [h.eq, numeral?_signed negative h.whole, ← h.eq, h.fraction?]
  rfl

/-- What is in exponent form starts with digits. -/
theorem IsExponent.exists_digits {cs mantissa digits : List Char} {sign : Char}
    (h : IsExponent cs mantissa sign digits) : ∃ ds rest, cs = ds ++ rest ∧ IsDigits ds := by
  rcases h.mantissa with hm | ⟨whole, places, hp⟩
  · exact ⟨mantissa, _, h.eq, hm⟩
  · exact ⟨whole, _, by rw [h.eq, hp.eq, List.append_assoc], hp.whole⟩

/-- A positive number lies between two powers of ten by its number of digits. -/
theorem length_toDigits_bounds {d : Nat} (hd : 0 < d) :
    Nat.pow 10 ((Nat.toDigits 10 d).length - 1) ≤ d ∧ d < Nat.pow 10 (Nat.toDigits 10 d).length := by
  have hlength : 0 < (Nat.toDigits 10 d).length := Nat.length_toDigits_pos
  refine ⟨?_, (Nat.length_toDigits_le_iff (by decide) hlength).mp (Nat.le_refl _)⟩
  by_cases hone : (Nat.toDigits 10 d).length = 1
  · rw [hone]
    exact hd
  · refine Nat.not_lt.mp fun hlt => ?_
    have := (Nat.length_toDigits_le_iff (by decide) (by omega)).mpr hlt
    omega

theorem power_bounds {d : Nat} (hd : 0 < d) (e : Int) :
    (10 : ℚ) ^ ((Nat.toDigits 10 d).length + e - 1) ≤ d * 10 ^ e ∧
      (d : ℚ) * 10 ^ e < 10 ^ ((Nat.toDigits 10 d).length + e) := by
  have hlength : 0 < (Nat.toDigits 10 d).length := Nat.length_toDigits_pos
  obtain ⟨hlower, hupper⟩ := length_toDigits_bounds hd
  generalize (Nat.toDigits 10 d).length = L at *
  have hlower : ((10 ^ (L - 1) : Nat) : ℚ) ≤ d := by exact_mod_cast hlower
  have hupper : (d : ℚ) < (10 ^ L : Nat) := by exact_mod_cast hupper
  have hpos : (0 : ℚ) < 10 ^ e := by positivity
  constructor
  · calc (10 : ℚ) ^ ((L : Int) + e - 1) = ((10 ^ (L - 1) : Nat) : ℚ) * 10 ^ e := by
          push_cast
          rw [← zpow_natCast, ← zpow_add₀ (by norm_num)]
          congr 1
          omega
      _ ≤ d * 10 ^ e := mul_le_mul_of_nonneg_right hlower hpos.le
  · calc (d : ℚ) * 10 ^ e < ((10 ^ L : Nat) : ℚ) * 10 ^ e := mul_lt_mul_of_pos_right hupper hpos
      _ = 10 ^ ((L : Int) + e) := by
          push_cast
          rw [← zpow_natCast, ← zpow_add₀ (by norm_num)]

/-- The place of the point tells between which powers of ten a number lies. -/
theorem between_powers {d : Nat} (hd : 0 < d) (e : Int) {least most : Int} :
    (least ≤ (Nat.toDigits 10 d).length + e - 1 ∧ (Nat.toDigits 10 d).length + e - 1 ≤ most) ↔
      (10 : ℚ) ^ least ≤ d * 10 ^ e ∧ (d : ℚ) * 10 ^ e < 10 ^ (most + 1) := by
  obtain ⟨hlower, hupper⟩ := power_bounds hd e
  have hmono : ∀ {i j : Int}, i ≤ j → (10 : ℚ) ^ i ≤ 10 ^ j := zpow_le_zpow_right₀ (by norm_num)
  constructor
  · rintro ⟨hl, hm⟩
    exact ⟨(hmono hl).trans hlower, hupper.trans_le (hmono (by omega))⟩
  · rintro ⟨hl, hm⟩
    constructor
    · by_contra hlt
      exact absurd (hupper.trans_le (hmono (j := least) (by omega))) (not_lt.mpr hl)
    · by_contra hlt
      exact absurd ((hmono (i := most + 1) (by omega)).trans hlower) (not_le.mpr hm)

/-- **The text of a number without its sign** starts with digits and is read as that number. It has
    the point in its place between the two powers of ten that the format names, and is in exponent
    form elsewhere. -/
theorem Format.exists_fraction?_text (f : Format) {d : Nat} (hd : 0 < d) (e : Int) :
    (∃ ds rest, f.text d e = ds ++ rest ∧ IsDigits ds) ∧
      (∃ d' e', fraction? (f.text d e) = some (d', e') ∧ (d' : ℚ) * 10 ^ e' = d * 10 ^ e) ∧
      if (10 : ℚ) ^ f.leastPositional ≤ d * 10 ^ e ∧ (d : ℚ) * 10 ^ e < 10 ^ (f.mostPositional + 1)
        then ∃ whole places, IsPoint (f.text d e) whole places
        else ∃ mantissa sign digits, IsExponent (f.text d e) mantissa sign digits := by
  obtain ⟨hds, n, hlen, hvalue⟩ := exists_significant hd
  unfold Format.text Format.layout
  dsimp only
  generalize significant (Nat.toDigits 10 d) = ds at hds hlen hvalue ⊢
  have hscale : (natOf ds : ℚ) * 10 ^ ((Nat.toDigits 10 d).length + e - ds.length) = d * 10 ^ e := by
    rw [hlen, ← hvalue]
    push_cast
    rw [mul_assoc, ← zpow_natCast, ← zpow_add₀ (by norm_num)]
    congr 2
    ring
  have hrange := @between_powers _ hd e f.leastPositional f.mostPositional
  by_cases hp : f.leastPositional ≤ (Nat.toDigits 10 d).length + e - 1 ∧
      (Nat.toDigits 10 d).length + e - 1 ≤ f.mostPositional
  · rw [if_pos hp, if_pos (hrange.mp hp)]
    obtain ⟨whole, places, htext, hv⟩ := exists_positional hds ((Nat.toDigits 10 d).length + e)
    refine ⟨⟨whole, _, htext.eq, htext.whole⟩, ⟨_, _, htext.fraction?, ?_⟩, whole, places, htext⟩
    rw [zero_sub]
    exact hv.trans hscale
  · rw [if_neg hp, if_neg fun h => hp (hrange.mpr h)]
    obtain ⟨mantissa, sign, digits, htext, d', e', hread, hv⟩ :=
      exists_exponential hds f.exponentWidth ((Nat.toDigits 10 d).length + e - 1)
    refine ⟨htext.exists_digits, ⟨d', e', hread, ?_⟩, mantissa, sign, digits, htext⟩
    rw [hv, ← hscale]
    congr 2
    ring

/-- **The text of a number reads back as that number**, with its sign. -/
theorem Format.exists_numeral?_text (f : Format) {d : Nat} (hd : 0 < d) (e : Int)
    (negative : Bool) : ∃ d' e', numeral? (signText negative ++ f.text d e) =
        some (.finite negative d' e') ∧ (d' : ℚ) * 10 ^ e' = d * 10 ^ e ∧
      if (10 : ℚ) ^ f.leastPositional ≤ d * 10 ^ e ∧ (d : ℚ) * 10 ^ e < 10 ^ (f.mostPositional + 1)
        then IsPositional (signText negative ++ f.text d e)
        else IsExponential (signText negative ++ f.text d e) := by
  obtain ⟨⟨ds, rest, htext, hds⟩, ⟨d', e', hread, hv⟩, hshape⟩ := f.exists_fraction?_text hd e
  refine ⟨d', e', ?_, hv, ?_⟩
  · rw [htext] at hread ⊢
    rw [numeral?_signed negative hds, hread]
    rfl
  · split
    · rename_i hrange
      obtain ⟨whole, places, hpoint⟩ := (if_pos hrange).mp hshape
      exact ⟨negative, _, whole, places, rfl, hpoint⟩
    · rename_i hrange
      obtain ⟨mantissa, sign, digits, hexponent⟩ := (if_neg hrange).mp hshape
      exact ⟨negative, _, mantissa, sign, digits, rfl, hexponent⟩

end Measures.Decimal
