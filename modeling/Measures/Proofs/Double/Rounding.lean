import Mathlib.Tactic.Linarith
import Measures.Proofs.Double.Sign

/-!
# How products and quotients are rounded

The machine computes a product or a quotient of two doubles exactly, as a whole number of small units
with two bits that tell what is left over, and rounds it to a whole number of larger units. What
comes of it does not depend on the way there: it is the nearest number of units that takes fifty-three
bits, and of two equally near ones the even one. From `overflowBound` on, halfway between the greatest
double and the next power of two, a result is infinite.

* `IsNearest`, `Represents`: the nearest whole number, and the two bits that it is found by;
* `IsRounded`, `Rounds`: what a nonnegative number is rounded to, said by the number alone;
* `rounds_mul`, `rounds_div`: the machine's products and quotients;
* `Rounds.pack_of_lt`, `Rounds.pack_of_le`: which results are finite;
* `mul_div_of_lt`, `mul_div_of_le`: which products, divided again, are finite.
-/

namespace Measures.Double

open Float.Model (Format UnpackedFloat totalExponent)
open Float.Model.UnpackedFloat (Sign Accuracy ExtendedMantissa roundWithAccuracy
  shiftToTargetExponent shiftToExponent divCore accuracyOfFraction)
open Decimal (isNegative exponentField significandField significand binaryExponent leadingBit)

variable {x y : Float} {m n n' : Nat} {e e' : Int} {q q' : ℚ}

/-! ## 1. The nearest whole number -/

/-- The whole number nearest to `q`; of two equally near ones the even one. -/
structure IsNearest (n : Nat) (q : ℚ) : Prop where
  le_add : (n : ℚ) ≤ q + 1 / 2
  le : q ≤ n + 1 / 2
  even : (n : ℚ) = q + 1 / 2 ∨ q = n + 1 / 2 → n % 2 = 0

theorem isNearest_natCast (n : Nat) : IsNearest n n where
  le_add := by linarith
  le := by linarith
  even := by
    rintro (h | h)
    · linarith
    · linarith

/-- **A larger number does not have a smaller nearest one.** -/
theorem IsNearest.mono (h : IsNearest n q) (h' : IsNearest n' q') (hq : q ≤ q') : n ≤ n' := by
  by_contra hlt
  have hstep : (n' : ℚ) + 1 ≤ n := by exact_mod_cast (show n' + 1 ≤ n by omega)
  have hn := h.le_add
  have hn' := h'.le
  -- both lie halfway between the same two numbers, so both are even
  have heven := h.even (.inl (by linarith))
  have heven' := h'.even (.inr (by linarith))
  have hnext : n = n' + 1 := by
    have : (n : ℚ) = n' + 1 := by linarith
    exact_mod_cast this
  omega

/-- The two bits after a whole number: half a unit, and whether there is anything besides. -/
def Represents (em : ExtendedMantissa) (q : ℚ) : Prop :=
  ∃ r : ℚ, 0 ≤ r ∧ r < 1 / 2 ∧ (em.stickyBit = false ↔ r = 0) ∧
    q = em.mantissa + (if em.roundBit then 1 / 2 else 0) + r

theorem Represents.isNearest {em : ExtendedMantissa} (h : Represents em q) :
    IsNearest em.roundedMantissa q := by
  obtain ⟨r, hr, hlt, hsticky, rfl⟩ := h
  obtain ⟨m, roundBit, stickyBit⟩ := em
  cases roundBit with
  | false =>
    have hm : ExtendedMantissa.roundedMantissa ⟨m, false, stickyBit⟩ = m := by
      cases stickyBit <;> rfl
    rw [hm]
    simp only [Bool.false_eq_true, if_false]
    refine ⟨by linarith, by linarith, ?_⟩
    rintro (h | h)
    · linarith
    · linarith
  | true =>
    simp only [if_true]
    cases stickyBit with
    | false =>
      obtain rfl : r = 0 := hsticky.mp rfl
      have hm : ExtendedMantissa.roundedMantissa ⟨m, true, false⟩ = m + m % 2 := rfl
      have hle : ((m % 2 : ℕ) : ℚ) ≤ 1 := by exact_mod_cast Nat.lt_succ_iff.mp (Nat.mod_lt m two_pos)
      have hpos : (0 : ℚ) ≤ (m % 2 : ℕ) := Nat.cast_nonneg _
      rw [hm]
      refine ⟨by push_cast at *; linarith, by push_cast at *; linarith, fun _ => by omega⟩
    | true =>
      have hne : r ≠ 0 := fun h => by cases hsticky.mpr h
      have hpos : 0 < r := lt_of_le_of_ne hr hne.symm
      have hm : ExtendedMantissa.roundedMantissa ⟨m, true, true⟩ = m + 1 := rfl
      rw [hm]
      refine ⟨by push_cast; linarith, by push_cast; linarith, ?_⟩
      push_cast
      rintro (h | h)
      · linarith
      · linarith

/-- One step to units of twice the size. -/
theorem Represents.shiftRightOne {em : ExtendedMantissa} (h : Represents em q) :
    Represents em.shiftRightOne (q / 2) := by
  obtain ⟨r, hr, hlt, hsticky, rfl⟩ := h
  obtain ⟨m, roundBit, stickyBit⟩ := em
  have hm : (m : ℚ) = 2 * (m / 2 : ℕ) + (m % 2 : ℕ) := by exact_mod_cast (Nat.div_add_mod m 2).symm
  have hbit : (if (m % 2 != 0) = true then (1 : ℚ) / 2 else 0) = (m % 2 : ℕ) / 2 := by
    rcases Nat.mod_two_eq_zero_or_one m with h | h <;> simp [h]
  have hhalf : ((m : ℚ) + (if roundBit then 1 / 2 else 0) + r) / 2 = (m / 2 : ℕ) +
      (if (m % 2 != 0) = true then 1 / 2 else 0) + ((if roundBit then 1 / 2 else 0) + r) / 2 := by
    rw [hbit, hm]
    ring
  refine ⟨((if roundBit then 1 / 2 else 0) + r) / 2, ?_, ?_, ?_, hhalf⟩
  · cases roundBit <;> simp <;> linarith
  · cases roundBit <;> simp <;> linarith
  · cases roundBit with
    | false => simpa [ExtendedMantissa.shiftRightOne] using hsticky
    | true =>
      refine iff_of_false (by simp [ExtendedMantissa.shiftRightOne]) ?_
      simp only [if_true]
      linarith

/-- **Any number of such steps.** -/
theorem Represents.shiftRight {em : ExtendedMantissa} (h : Represents em q) :
    ∀ k : Nat, Represents (em >>> k) (q / 2 ^ k)
  | 0 => by
    rw [pow_zero, div_one]
    exact h
  | k + 1 => by
    rw [pow_succ, ← div_div]
    exact (h.shiftRight k).shiftRightOne

/-- A whole number and a fraction of one. -/
theorem represents_fraction {num den : Nat} (m : Nat) (hlt : num < den) :
    Represents (.ofMantissaAndAccuracy m (accuracyOfFraction num den)) (m + num / den) := by
  have hden : (0 : ℚ) < den := by exact_mod_cast Nat.zero_lt_of_lt hlt
  unfold accuracyOfFraction
  by_cases hnum : num = 0
  · subst hnum
    exact ⟨0, le_rfl, by norm_num, iff_of_true rfl rfl, by simp [ExtendedMantissa.ofMantissaAndAccuracy]⟩
  · have hpos : (0 : ℚ) < num := by exact_mod_cast Nat.pos_of_ne_zero hnum
    have hfrac : 0 < (num : ℚ) / den := div_pos hpos hden
    rw [if_neg hnum]
    rcases Nat.lt_trichotomy (2 * num) den with h | h | h
    · have hc : compare (2 * num) den = .lt := Nat.compare_eq_lt.mpr h
      have hq : (num : ℚ) / den < 1 / 2 := by
        rw [div_lt_div_iff₀ hden two_pos]
        exact_mod_cast (show num * 2 < 1 * den by omega)
      rw [hc]
      exact ⟨num / den, hfrac.le, hq, iff_of_false Bool.noConfusion hfrac.ne',
        by simp [ExtendedMantissa.ofMantissaAndAccuracy]⟩
    · have hc : compare (2 * num) den = .eq := Nat.compare_eq_eq.mpr h
      have hq : (num : ℚ) / den = 1 / 2 := by
        rw [div_eq_div_iff hden.ne' two_ne_zero]
        exact_mod_cast (show num * 2 = 1 * den by omega)
      rw [hc, hq]
      exact ⟨0, le_rfl, by norm_num, iff_of_true rfl rfl,
        by simp [ExtendedMantissa.ofMantissaAndAccuracy]⟩
    · have hc : compare (2 * num) den = .gt := Nat.compare_eq_gt.mpr h
      have hq : 1 / 2 < (num : ℚ) / den := by
        rw [div_lt_div_iff₀ two_pos hden]
        exact_mod_cast (show 1 * den < num * 2 by omega)
      have hone : (num : ℚ) / den < 1 := (div_lt_one hden).mpr (by exact_mod_cast hlt)
      rw [hc]
      exact ⟨num / den - 1 / 2, by linarith, by linarith,
        iff_of_false Bool.noConfusion (by linarith),
        by simp [ExtendedMantissa.ofMantissaAndAccuracy]⟩

/-! ## 2. The rounded number -/

/-- The nonnegative number `q` is rounded to `n` units of the size two to the `e`: fifty-three bits
    are left of it, or fewer if the unit is the least there is. -/
structure IsRounded (q : ℚ) (n : Nat) (e : Int) : Prop where
  least : -1074 ≤ e
  lt : q < 2 * leadingBit * 2 ^ e
  normal : leadingBit * 2 ^ e ≤ q ∨ e = -1074
  nearest : IsNearest n (q / 2 ^ e)

/-- From this number on, halfway between the greatest double and the next power of two, everything is
    rounded to infinity. -/
def overflowBound : ℚ := (2 * leadingBit - 1 / 2) * 2 ^ (971 : Int)

theorem overflowBound_eq : overflowBound = 2 ^ (1024 : Int) - 2 ^ (970 : Int) := by
  have hhigh : (2 : ℚ) ^ (1024 : Int) = 2 ^ (971 : Int) * 2 ^ (53 : Int) :=
    zpow_add₀ (by norm_num) 971 53
  have hlow : (2 : ℚ) ^ (971 : Int) = 2 ^ (970 : Int) * 2 ^ (1 : Int) :=
    zpow_add₀ (by norm_num) 970 1
  rw [overflowBound, hhigh, hlow, leadingBit]
  generalize (2 : ℚ) ^ (970 : Int) = g
  norm_num
  ring

theorem leadingBit_pos : (0 : ℚ) < leadingBit := by norm_num [leadingBit]

theorem two_mul_zpow_le (h : e < e') : (2 : ℚ) * 2 ^ e ≤ 2 ^ e' := by
  rw [← zpow_one_add₀ (by norm_num)]
  exact zpow_le_zpow_right₀ (by norm_num) (by omega)

namespace IsRounded

theorem le (h : IsRounded q n e) : n ≤ 2 * leadingBit := by
  refine h.nearest.mono (isNearest_natCast _) ((div_le_iff₀ (by positivity)).mpr ?_)
  push_cast
  exact h.lt.le

theorem leadingBit_le (h : IsRounded q n e) (hq : leadingBit * 2 ^ e ≤ q) : leadingBit ≤ n :=
  (isNearest_natCast _).mono h.nearest ((le_div_iff₀ (by positivity)).mpr hq)

/-- **What is nearer to `m` units than to one more** is rounded to `m` units at most, be they the
    units that it is rounded to or not. -/
theorem le_of_lt {m : Nat} (h : IsRounded q n e) (hl : leadingBit ≤ m) (hm : m < 2 * leadingBit)
    (hleast : -1074 ≤ e') (hq : q < (m + 1 / 2) * 2 ^ e') : (n : ℚ) * 2 ^ e ≤ m * 2 ^ e' := by
  have hpos : (0 : ℚ) < 2 ^ e := by positivity
  have hpos' : (0 : ℚ) < 2 ^ e' := by positivity
  have hl' : (leadingBit : ℚ) ≤ m := by exact_mod_cast hl
  have hm' : (m : ℚ) + 1 ≤ 2 * leadingBit := by exact_mod_cast hm
  rcases lt_trichotomy e e' with hlt | rfl | hlt
  · have hn : (n : ℚ) ≤ 2 * leadingBit := by exact_mod_cast h.le
    calc (n : ℚ) * 2 ^ e ≤ 2 * leadingBit * 2 ^ e := mul_le_mul_of_nonneg_right hn hpos.le
      _ = leadingBit * (2 * 2 ^ e) := by ring
      _ ≤ m * 2 ^ e' := mul_le_mul hl' (two_mul_zpow_le hlt) (by positivity) (Nat.cast_nonneg m)
  · have hnear : (n : ℚ) < m + 1 := by
      have hup := h.nearest.le_add
      have hdiv := (div_lt_iff₀ hpos).mpr hq
      linarith
    have hnm : (n : ℚ) ≤ m := by exact_mod_cast Nat.lt_succ_iff.mp (by exact_mod_cast hnear)
    exact mul_le_mul_of_nonneg_right hnm hpos.le
  · exfalso
    have hlow := h.normal.resolve_right (by omega)
    have : (leadingBit : ℚ) * (2 * 2 ^ e') ≤ leadingBit * 2 ^ e :=
      mul_le_mul_of_nonneg_left (two_mul_zpow_le hlt) leadingBit_pos.le
    have : ((m : ℚ) + 1 / 2) * 2 ^ e' < 2 * leadingBit * 2 ^ e' :=
      mul_lt_mul_of_pos_right (by linarith) hpos'
    linarith

/-- Below the bound the unit is that of a double, and no bit is carried beyond it. -/
theorem fits (h : IsRounded q n e) (hq : q < overflowBound) :
    e ≤ 971 ∧ (e = 971 → n < 2 * leadingBit) := by
  unfold overflowBound at hq
  constructor
  · by_contra hlt
    have hlow := h.normal.resolve_right (by omega)
    have : (leadingBit : ℚ) * (2 * 2 ^ (971 : Int)) ≤ leadingBit * 2 ^ e :=
      mul_le_mul_of_nonneg_left (two_mul_zpow_le (by omega)) leadingBit_pos.le
    have hpos : (0 : ℚ) < 2 ^ (971 : Int) := by positivity
    generalize (2 : ℚ) ^ (971 : Int) = g at *
    linarith
  · rintro rfl
    have hup := h.nearest.le_add
    have hdiv := (div_lt_iff₀ (show (0 : ℚ) < 2 ^ (971 : Int) by positivity)).mpr hq
    have : (n : ℚ) < 2 * leadingBit := by linarith
    exact_mod_cast this

/-- From the bound on one of the two fails. -/
theorem overflows (h : IsRounded q n e) (hq : overflowBound ≤ q) :
    leadingBit ≤ n ∧ (971 < e ∨ (e = 971 ∧ n = 2 * leadingBit)) := by
  unfold overflowBound at hq
  have hbig : (1 : ℚ) ≤ leadingBit := by norm_num [leadingBit]
  have he : 971 ≤ e := by
    by_contra hlt
    have : (leadingBit : ℚ) * (2 * 2 ^ e) ≤ leadingBit * 2 ^ (971 : Int) :=
      mul_le_mul_of_nonneg_left (two_mul_zpow_le (by omega)) leadingBit_pos.le
    have : (leadingBit : ℚ) * 2 ^ (971 : Int) ≤ (2 * leadingBit - 1 / 2) * 2 ^ (971 : Int) :=
      mul_le_mul_of_nonneg_right (by linarith) (by positivity)
    have hlt := h.lt
    generalize (2 : ℚ) ^ (971 : Int) = g at *
    linarith
  refine ⟨h.leadingBit_le (h.normal.resolve_right (by omega)), ?_⟩
  rcases he.lt_or_eq with hlt | rfl
  · exact .inl hlt
  · -- halfway the even one is taken, which is the one above
    have hdiv := (le_div_iff₀ (show (0 : ℚ) < 2 ^ (971 : Int) by positivity)).mpr hq
    have hnear := h.nearest.le
    have hodd : 2 * leadingBit ≤ n + 1 := by
      have : (2 * leadingBit : ℚ) ≤ n + 1 := by linarith
      exact_mod_cast this
    refine .inr ⟨rfl, le_antisymm h.le ?_⟩
    by_contra hlt
    have hn : n + 1 = 2 * leadingBit := by omega
    have hn' : (n : ℚ) + 1 = 2 * leadingBit := by exact_mod_cast hn
    have heven := h.nearest.even (.inr (by linarith))
    omega

end IsRounded

/-- What the machine makes of a nonnegative number: nothing, so many units, or, if a bit is carried
    beyond the fifty-three, the next power of two. -/
inductive Rounds (q : ℚ) : UnpackedFloat → Prop
  | zero {e : Int} (h : IsRounded q 0 e) : Rounds q (.zero .positive)
  | finite {n : Nat} {e : Int} (h : IsRounded q n e) (hpos : 0 < n) (hlt : n < 2 * leadingBit) :
      Rounds q (.finite .positive n e hpos)
  | carried {e : Int} (h : IsRounded q (2 * leadingBit) e) :
      Rounds q (.finite .positive leadingBit (e + 1) (by decide))

/-! ## 3. Products and quotients -/

/-- The two bits are less than a unit. -/
theorem Represents.bounds {em : ExtendedMantissa} (h : Represents em q) :
    (em.mantissa : ℚ) ≤ q ∧ q < em.mantissa + 1 := by
  obtain ⟨r, hr, hlt, -, rfl⟩ := h
  cases em.roundBit with
  | false =>
    simp only [Bool.false_eq_true, if_false]
    constructor <;> linarith
  | true =>
    simp only [if_true]
    constructor <;> linarith

/-- What has been rounded once is not rounded a second time: it takes fifty-three bits, or one of the
    fifty-four is carried. -/
theorem shiftToTargetExponent_of_lt (hlt : n < 2 * leadingBit) (he : -1074 ≤ e) :
    shiftToTargetExponent Format.binary64 n e .exact = (⟨n, false, false⟩, e) := by
  have hlog : n.log2 < 53 := by
    rcases Nat.eq_zero_or_pos n with rfl | hpos
    · decide
    · exact (Nat.log2_lt hpos.ne').mpr hlt
  have hshift : (max ((n.log2 : Int) + 1 + e - 53) (-1074) - e).toNat = 0 := by omega
  unfold shiftToTargetExponent shiftToExponent
  dsimp only
  rw [targetExponent_eq, totalExponent, hshift, Int.natCast_zero, Int.add_zero]
  rfl

theorem shiftToTargetExponent_carried (he : -1074 ≤ e) :
    shiftToTargetExponent Format.binary64 (2 * leadingBit) e .exact =
      (⟨leadingBit, false, false⟩, e + 1) := by
  have hlog : (2 * leadingBit).log2 = 53 := (Nat.log2_eq_iff (by decide)).mpr (by decide)
  have hshift : (max (((53 : Nat) : Int) + 1 + e - 53) (-1074) - e).toNat = 1 := by omega
  unfold shiftToTargetExponent shiftToExponent
  dsimp only
  rw [targetExponent_eq, totalExponent, hlog, hshift]
  rfl

/-- A number is given to fifty-three bits or to the least unit at least, so no unit is too large. -/
def IsFine (m : Nat) (e : Int) : Prop := 52 ≤ m.log2 ∨ e ≤ -1074

/-- The first shift leaves fifty-three bits, or as many as there are down to the least unit. -/
theorem isRounded_shift {em : ExtendedMantissa} (h : Represents em (q / 2 ^ e))
    (hfine : IsFine em.mantissa e) {t : Int} (ht : max (totalExponent em.mantissa e - 53) (-1074) = t) :
    IsRounded q (em >>> (t - e).toNat).roundedMantissa t := by
  obtain ⟨hl, hu⟩ := h.bounds
  rw [totalExponent] at ht
  have het : e ≤ t := by
    rcases hfine with hm | hm <;> omega
  have hsplit : (2 : ℚ) ^ t = 2 ^ e * 2 ^ (t - e).toNat := by
    rw [← zpow_natCast, Int.toNat_of_nonneg (by omega), ← zpow_add₀ (by norm_num)]
    congr 1
    omega
  have hpos : (0 : ℚ) < 2 ^ e := by positivity
  rw [le_div_iff₀ hpos] at hl
  rw [div_lt_iff₀ hpos] at hu
  refine ⟨by omega, ?_, ?_, ?_⟩
  · have hm : (em.mantissa : ℚ) + 1 ≤ 2 ^ (em.mantissa.log2 + 1) := by
      exact_mod_cast Nat.lt_log2_self
    calc q < (em.mantissa + 1) * 2 ^ e := hu
      _ ≤ 2 ^ (em.mantissa.log2 + 1) * 2 ^ e := mul_le_mul_of_nonneg_right hm hpos.le
      _ = 2 ^ ((em.mantissa.log2 : Int) + 1 + e) := by
          rw [← zpow_natCast, ← zpow_add₀ (by norm_num)]
          push_cast
          rfl
      _ ≤ 2 ^ (53 + t) := zpow_le_zpow_right₀ (by norm_num) (by omega)
      _ = 2 * leadingBit * 2 ^ t := by
          rw [zpow_add₀ (by norm_num)]
          norm_num [leadingBit]
  · by_cases hleast : t = -1074
    · exact .inr hleast
    · left
      have hne : em.mantissa ≠ 0 := by
        intro hzero
        rw [hzero, Nat.log2_zero] at ht
        rcases hfine with hm | hm
        · rw [hzero] at hm
          cases hm
        · omega
      have hm : (2 : ℚ) ^ em.mantissa.log2 ≤ em.mantissa := by
        exact_mod_cast Nat.log2_self_le hne
      calc (leadingBit : ℚ) * 2 ^ t = 2 ^ (52 + t) := by
            rw [zpow_add₀ (by norm_num)]
            norm_num [leadingBit]
        _ ≤ 2 ^ ((em.mantissa.log2 : Int) + e) := zpow_le_zpow_right₀ (by norm_num) (by omega)
        _ = 2 ^ em.mantissa.log2 * 2 ^ e := by rw [zpow_add₀ (by norm_num), zpow_natCast]
        _ ≤ em.mantissa * 2 ^ e := mul_le_mul_of_nonneg_right hm hpos.le
        _ ≤ q := hl
  · rw [hsplit, ← div_div]
    exact (h.shiftRight _).isNearest

/-- **Rounding comes to the same on every way**: it depends on the number alone. -/
theorem rounds_round {m : Nat} {acc : Accuracy}
    (h : Represents (.ofMantissaAndAccuracy m acc) (q / 2 ^ e)) (hfine : IsFine m e) :
    Rounds q (roundWithAccuracy Format.binary64 .positive m e acc) := by
  obtain ⟨t, ht⟩ : ∃ t, max (totalExponent m e - 53) (-1074) = t := ⟨_, rfl⟩
  have hm : (ExtendedMantissa.ofMantissaAndAccuracy m acc).mantissa = m := by
    rcases acc with _ | (_ | _ | _) <;> rfl
  have hround := isRounded_shift h (hm.symm ▸ hfine) (hm.symm ▸ ht)
  have hfirst : shiftToTargetExponent Format.binary64 m e acc =
      (ExtendedMantissa.ofMantissaAndAccuracy m acc >>> (t - e).toNat, t) := by
    have het : e + ((t - e).toNat : Int) = t := by
      rw [totalExponent] at ht
      rcases hfine with hm | hm <;> omega
    unfold shiftToTargetExponent shiftToExponent
    dsimp only
    rw [targetExponent_eq, ht, het]
  generalize ExtendedMantissa.ofMantissaAndAccuracy m acc >>> (t - e).toNat = em at *
  have hlast := fun hlt => shiftToTargetExponent_of_lt (n := em.roundedMantissa) hlt hround.least
  rcases Nat.eq_zero_or_pos em.roundedMantissa with hzero | hpos
  · rw [hzero] at hround hlast
    have hnone : (shiftToTargetExponent Format.binary64 em.roundedMantissa t .exact).1.mantissa =
        0 := by
      rw [hzero, hlast (by decide)]
    unfold roundWithAccuracy
    rw [hfirst]
    dsimp only
    rw [dif_pos hnone]
    exact .zero hround
  · rcases hround.le.lt_or_eq with hlt | hcarry
    · rw [round_of_shift hfirst (hlast hlt) hpos]
      exact .finite hround hpos hlt
    · have hcarried := shiftToTargetExponent_carried hround.least
      rw [← hcarry] at hcarried
      rw [round_of_shift hfirst hcarried (by decide)]
      exact .carried (hcarry ▸ hround)

theorem rounds_mul (hx : IsPositive x) (hy : IsPositive y) : Rounds (size x * size y)
    (UnpackedFloat.mul Format.binary64 x.toModel.unpack y.toModel.unpack) := by
  rw [hx.unpack, hy.unpack]
  refine rounds_round (e := binaryExponent x + binaryExponent y) ?_ ?_
  · refine ⟨0, le_rfl, by norm_num, iff_of_true rfl rfl, ?_⟩
    rw [size, size, zpow_add₀ (by norm_num), div_eq_iff (by positivity)]
    show _ = (((significand x * significand y : Nat) : ℚ) + 0 + 0) * _
    push_cast
    ring
  · obtain ⟨hpx, -, -, -, hnx⟩ := hx.canonical
    obtain ⟨hpy, -, -, -, hny⟩ := hy.canonical
    -- the product is short only if both factors are
    have hfull : leadingBit ≤ significand x * significand y →
        52 ≤ (significand x * significand y).log2 :=
      fun h => (Nat.le_log2 (Nat.mul_pos hpx hpy).ne').mpr h
    rcases hnx with hnx | hnx
    · exact .inl (hfull (hnx.trans (Nat.le_mul_of_pos_right _ hpy)))
    · rcases hny with hny | hny
      · exact .inl (hfull (hny.trans (Nat.le_mul_of_pos_left _ hpx)))
      · exact .inr (by omega)

section

variable {m₁ m₂ : Nat} {e₁ e₂ t : Int}

/-- The quotient of two significands, the first one moved up, and what it leaves. -/
theorem represents_div (h₂ : 0 < m₂) (ht : t ≤ e₁ - e₂) :
    Represents (.ofMantissaAndAccuracy (m₁ <<< (e₁ - e₂ - t).toNat / m₂)
      (accuracyOfFraction (m₁ <<< (e₁ - e₂ - t).toNat % m₂) m₂))
      (m₁ * 2 ^ e₁ / (m₂ * 2 ^ e₂) / 2 ^ t) := by
  have hpos : (0 : ℚ) < m₂ := by exact_mod_cast h₂
  have hsplit : (2 : ℚ) ^ e₁ = 2 ^ (e₁ - e₂ - t).toNat * 2 ^ e₂ * 2 ^ t := by
    rw [← zpow_natCast, Int.toNat_of_nonneg (by omega), ← zpow_add₀ (by norm_num),
      ← zpow_add₀ (by norm_num)]
    congr 1
    omega
  generalize hk : (e₁ - e₂ - t).toNat = k at *
  have hmod : ((m₁ <<< k : Nat) : ℚ) = m₂ * (m₁ <<< k / m₂ : Nat) + (m₁ <<< k % m₂ : Nat) := by
    exact_mod_cast (Nat.div_add_mod (m₁ <<< k) m₂).symm
  have hquot : (m₁ : ℚ) * 2 ^ e₁ / (m₂ * 2 ^ e₂) / 2 ^ t =
      (m₁ <<< k / m₂ : Nat) + ((m₁ <<< k % m₂ : Nat) : ℚ) / m₂ := by
    rw [div_div, div_eq_iff (by positivity), add_mul, hsplit]
    rw [Nat.shiftLeft_eq] at hmod ⊢
    push_cast at hmod ⊢
    field_simp
    linarith
  rw [hquot]
  exact represents_fraction _ (Nat.mod_lt _ h₂)

/-- The first significand is moved up far enough. -/
theorem isFine_div (h₁ : 0 < m₁) (h₂ : 0 < m₂)
    (ht : min (e₁ - e₂) (max (totalExponent m₁ e₁ - totalExponent m₂ e₂ - 53) (-1074)) = t) :
    IsFine (m₁ <<< (e₁ - e₂ - t).toNat / m₂) t := by
  by_cases hleast : t ≤ -1074
  · exact .inr hleast
  rw [totalExponent, totalExponent] at ht
  have hk : m₂.log2 + 53 ≤ m₁.log2 + (e₁ - e₂ - t).toNat := by omega
  have hlow : 2 ^ 52 * m₂ ≤ m₁ <<< (e₁ - e₂ - t).toNat := by
    calc 2 ^ 52 * m₂ ≤ 2 ^ 52 * 2 ^ (m₂.log2 + 1) := Nat.mul_le_mul_left _ Nat.lt_log2_self.le
      _ = 2 ^ (m₂.log2 + 53) := by rw [← Nat.pow_add, show 52 + (m₂.log2 + 1) = m₂.log2 + 53 by omega]
      _ ≤ 2 ^ (m₁.log2 + (e₁ - e₂ - t).toNat) := Nat.pow_le_pow_right two_pos hk
      _ = 2 ^ m₁.log2 * 2 ^ (e₁ - e₂ - t).toNat := Nat.pow_add ..
      _ ≤ m₁ * 2 ^ (e₁ - e₂ - t).toNat := Nat.mul_le_mul_right _ (Nat.log2_self_le h₁.ne')
      _ = m₁ <<< (e₁ - e₂ - t).toNat := (Nat.shiftLeft_eq ..).symm
  have hquot := (Nat.le_div_iff_mul_le h₂).mpr hlow
  exact .inl ((Nat.le_log2 (by omega)).mpr hquot)

end

theorem rounds_div (hx : IsPositive x) (hy : IsPositive y) : Rounds (size x / size y)
    (UnpackedFloat.div Format.binary64 x.toModel.unpack y.toModel.unpack) := by
  rw [hx.unpack, hy.unpack]
  exact rounds_round (represents_div hy.nonzero (min_le_left ..))
    (isFine_div hx.nonzero hy.nonzero rfl)

/-! ## 4. Which results are finite -/

variable {f : UnpackedFloat} {z : Float}

/-- The double is what a nonnegative number is rounded to, and finite. -/
def IsRounding (q : ℚ) (z : Float) : Prop :=
  exponentField z ≠ 2047 ∧ ∃ n e, IsRounded q n e ∧ size z = n * 2 ^ e

theorem isRounding_ofParts (hround : IsRounded q n e) (h : IsCanonical m e')
    (hv : (m : ℚ) * 2 ^ e' = n * 2 ^ e) : IsRounding q (ofParts false h) := by
  obtain ⟨hp, hs, he⟩ := isPositive_ofParts h
  exact ⟨hp.finite, n, e, hround, by rw [size, hs, he, hv]⟩

/-- **Below the bound a result is finite.** -/
theorem Rounds.pack_of_lt (h : Rounds q f) (hq : q < overflowBound) :
    IsRounding q (.ofModel (.pack f)) := by
  cases h with
  | @zero e h =>
    refine ⟨by decide, 0, e, h, ?_⟩
    show ((0 : Nat) : ℚ) * _ = _
    simp only [Nat.cast_zero, zero_mul]
  | @finite n e h hpos hlt =>
    have hc : IsCanonical n e :=
      ⟨hpos, hlt, h.least, (h.fits hq).1, h.normal.imp_left h.leadingBit_le⟩
    exact isRounding_ofParts h hc rfl
  | @carried e h =>
    have hmost : e ≤ 971 ∧ e ≠ 971 := ⟨(h.fits hq).1, fun he => absurd ((h.fits hq).2 he) (by decide)⟩
    have hleast := h.least
    have hc : IsCanonical leadingBit (e + 1) := ⟨by decide, by decide, by omega, by omega, .inl le_rfl⟩
    refine isRounding_ofParts h hc ?_
    rw [zpow_add_one₀ (by norm_num)]
    push_cast
    ring

/-- What has an exponent beyond those of the doubles is packed as infinity. -/
theorem pack_of_exponent (hm : 0 < m) (he : 971 < e) :
    Float.ofModel (.pack (.finite .positive m e hm)) = 1.0 / 0.0 := by
  have hbig : 2048 ≤ (e + 1023 + 52).toNat + 1 := by omega
  have hpack : UnpackedFloat.pack Format.binary64 (.finite .positive m e hm) =
      UnpackedFloat.packedInfinity Format.binary64 .positive := if_pos hbig
  exact eq_of_toNat_eq (congrArg BitVec.toNat hpack)

/-- **From the bound on a result is infinite.** -/
theorem Rounds.pack_of_le (h : Rounds q f) (hq : overflowBound ≤ q) :
    Float.ofModel (.pack f) = 1.0 / 0.0 := by
  cases h with
  | zero h => exact absurd (h.overflows hq).1 (by decide)
  | finite h hpos hlt =>
    refine pack_of_exponent hpos ((h.overflows hq).2.resolve_right fun hc => ?_)
    omega
  | @carried e h =>
    refine pack_of_exponent _ ?_
    rcases (h.overflows hq).2 with he | ⟨he, -⟩ <;> omega

theorem mul_of_lt (hx : IsPositive x) (hy : IsPositive y) (h : size x * size y < overflowBound) :
    IsRounding (size x * size y) (x * y) := (rounds_mul hx hy).pack_of_lt h

theorem mul_of_le (hx : IsPositive x) (hy : IsPositive y) (h : overflowBound ≤ size x * size y) :
    x * y = 1.0 / 0.0 := (rounds_mul hx hy).pack_of_le h

theorem div_of_lt (hx : IsPositive x) (hy : IsPositive y) (h : size x / size y < overflowBound) :
    IsRounding (size x / size y) (x / y) := (rounds_div hx hy).pack_of_lt h

theorem significand_zero (s : Sign) : significand (.ofModel (.pack (.zero s))) = 0 := by
  cases s <;> decide

/-- A zero remains a zero. -/
theorem significand_mul (hx : significand x = 0) (hy : IsPositive y) : significand (x * y) = 0 := by
  show significand (.ofModel (.pack (UnpackedFloat.mul Format.binary64 x.toModel.unpack
    y.toModel.unpack))) = 0
  rw [unpack_zero hx, hy.unpack]
  exact significand_zero _

theorem significand_div (hx : significand x = 0) (hy : IsPositive y) : significand (x / y) = 0 := by
  show significand (.ofModel (.pack (UnpackedFloat.div Format.binary64 x.toModel.unpack
    y.toModel.unpack))) = 0
  rw [unpack_zero hx, hy.unpack]
  exact significand_zero _

/-- Infinity remains infinity. -/
theorem infinity_div (hy : IsPositive y) : (1.0 : Float) / 0.0 / y = 1.0 / 0.0 := by
  have hdiv : (1.0 : Float) / 0.0 / y = .ofModel (.pack (UnpackedFloat.div Format.binary64
    (.infinity .positive) y.toModel.unpack)) := rfl
  rw [hdiv, hy.unpack]
  rfl

/-! ## 5. A product that is divided again -/

/-- The greatest double. -/
def greatest : ℚ := (2 * leadingBit - 1) * 2 ^ (971 : Int)

theorem size_le_greatest (hx : exponentField x ≠ 2047) : size x ≤ greatest := by
  rcases Nat.eq_zero_or_pos (significand x) with hzero | hpos
  · rw [size, hzero, Nat.cast_zero, zero_mul]
    norm_num [greatest, leadingBit]
  · obtain ⟨-, hlt, -, hmost, -⟩ := isCanonical hx hpos
    have hs : (significand x : ℚ) ≤ 2 * leadingBit - 1 := by
      rw [le_sub_iff_add_le]
      exact_mod_cast hlt
    exact mul_le_mul hs (zpow_le_zpow_right₀ (by norm_num) hmost) (by positivity)
      ((Nat.cast_nonneg _).trans hs)

theorem exists_greatest : ∃ x, IsPositive x ∧ size x = greatest := by
  have hc : IsCanonical (2 * leadingBit - 1) 971 :=
    ⟨by decide, by decide, by decide, by decide, .inl (by decide)⟩
  obtain ⟨hp, hs, he⟩ := isPositive_ofParts hc
  refine ⟨_, hp, ?_⟩
  rw [size, hs, he, greatest]
  norm_num [leadingBit]

/-- The bits of a positive number moved up to the leading one. -/
theorem IsPositive.exists_full (hx : IsPositive x) : ∃ (m : Nat) (e : Int), leadingBit ≤ m ∧
    m < 2 * leadingBit ∧ -1126 ≤ e ∧ size x = m * 2 ^ e := by
  obtain ⟨hpos, hlt, hleast, -, -⟩ := hx.canonical
  obtain ⟨-, hlt', -, -, hnormal⟩ := isCanonical_shifted hpos hlt
  refine ⟨_, binaryExponent x - (52 - (significand x).log2 : Nat),
    hnormal.resolve_right (by omega), hlt', by omega, ?_⟩
  rw [size, zpow_sub₀ (by norm_num), zpow_natCast]
  push_cast
  field_simp

/-- Between the greatest double and the bound, both taken `y` times, there is a double, and the first
    of the two is nearer to it than to the next one. -/
theorem IsPositive.exists_between (hy : IsPositive y) : ∃ (m : Nat) (e : Int), leadingBit ≤ m ∧
    m < 2 * leadingBit ∧ -1074 ≤ e ∧ greatest * size y < (m + 1 / 2) * 2 ^ e ∧
      (m : ℚ) * 2 ^ e < overflowBound * size y := by
  obtain ⟨m, k, hl, hm, hk, hsize⟩ := hy.exists_full
  have hunit : (2 : ℚ) ^ (971 : Int) * 2 ^ k = 2 ^ (971 + k) := (zpow_add₀ (by norm_num) _ _).symm
  have hgreatest : greatest * size y = (2 * leadingBit - 1) * m * 2 ^ (971 + k) := by
    rw [hsize, greatest, ← hunit]
    ring
  have hbound : overflowBound * size y = (2 * leadingBit - 1 / 2) * m * 2 ^ (971 + k) := by
    rw [hsize, overflowBound, ← hunit]
    ring
  rw [hgreatest, hbound]
  have hpos : (0 : ℚ) < 2 ^ (971 + k) := by positivity
  have hbit := leadingBit_pos
  have hm' : (m : ℚ) + 1 ≤ 2 * leadingBit := by exact_mod_cast hm
  rcases hl.lt_or_eq with hlt | rfl
  · -- the number below `m`, in units that are as much larger as the bound is
    refine ⟨m - 1, 1024 + k, by omega, by omega, by omega, ?_⟩
    have hnext : (2 : ℚ) ^ (1024 + k) = 2 * leadingBit * 2 ^ (971 + k) := by
      rw [show 1024 + k = 53 + (971 + k) by omega, zpow_add₀ (by norm_num)]
      norm_num [leadingBit]
    have hlt' : (leadingBit : ℚ) < m := by exact_mod_cast hlt
    rw [hnext, Nat.cast_sub (by omega), Nat.cast_one]
    constructor <;>
    · rw [← mul_assoc]
      refine mul_lt_mul_of_pos_right ?_ hpos
      linarith
  · -- below a power of two the units are half as large
    refine ⟨2 * leadingBit - 1, 1023 + k, by decide, by decide, by omega, ?_⟩
    have hnext : (2 : ℚ) ^ (1023 + k) = leadingBit * 2 ^ (971 + k) := by
      rw [show 1023 + k = 52 + (971 + k) by omega, zpow_add₀ (by norm_num)]
      norm_num [leadingBit]
    have hlast : ((2 * leadingBit - 1 : Nat) : ℚ) = 2 * leadingBit - 1 := by
      norm_num [leadingBit]
    rw [hnext, hlast]
    constructor <;>
    · rw [← mul_assoc]
      refine mul_lt_mul_of_pos_right (mul_lt_mul_of_pos_right ?_ hbit) hpos
      linarith

/-- **A product that the exact quotient keeps among the doubles** is rounded so far below the divisor
    times the bound that dividing it does not lead to infinity. -/
theorem IsRounded.lt_of_le (h : IsRounded q n e) (hy : IsPositive y)
    (hq : q ≤ greatest * size y) : n * 2 ^ e < overflowBound * size y := by
  obtain ⟨m, k, hl, hm, hk, habove, hbelow⟩ := hy.exists_between
  exact lt_of_le_of_lt (h.le_of_lt hl hm hk (lt_of_le_of_lt hq habove)) hbelow

/-- **When a product that is divided again is finite.** If the exact quotient is no greater than the
    greatest double, it is a question of the product alone: below the bound the result is finite,
    from there on it is infinite. -/
theorem mul_div_of_lt (hx : exponentField x ≠ 2047) (hn : isNegative x = false) (hy : IsPositive y)
    (hz : IsPositive z) (hq : size x * size y ≤ greatest * size z)
    (h : size x * size y < overflowBound) : exponentField (x * y / z) ≠ 2047 := by
  have hzero : significand (x * y) = 0 → exponentField (x * y / z) ≠ 2047 := fun hs => by
    rw [(fields_of_zero (significand_div hs hz)).1]
    decide
  rcases Nat.eq_zero_or_pos (significand x) with hs | hs
  · exact hzero (significand_mul hs hy)
  · obtain ⟨hfinite, n, e, hround, hsize⟩ := mul_of_lt ⟨hn, hx, hs⟩ hy h
    rcases Nat.eq_zero_or_pos (significand (x * y)) with hs' | hs'
    · exact hzero hs'
    · have hproduct : IsPositive (x * y) := ⟨isNegative_mul hn hy.sign, hfinite, hs'⟩
      refine (div_of_lt hproduct hz ?_).1
      have hpos : 0 < size z := lt_of_lt_of_le (by positivity) (le_size hz)
      rw [div_lt_iff₀ hpos, hsize]
      exact hround.lt_of_le hz hq

theorem mul_div_of_le (hx : IsPositive x) (hy : IsPositive y) (hz : IsPositive z)
    (h : overflowBound ≤ size x * size y) : x * y / z = 1.0 / 0.0 := by
  rw [mul_of_le hx hy h, infinity_div hz]

end Measures.Double
