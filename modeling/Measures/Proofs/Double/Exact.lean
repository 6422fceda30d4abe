import Mathlib.Algebra.Order.Field.Power
import Mathlib.Data.Rat.Cast.Order
import Mathlib.Tactic.NormNum
import Mathlib.Tactic.Positivity
import Mathlib.Tactic.FieldSimp
import Mathlib.Tactic.Ring
import Measures.Proofs.Double.Fields

/-!
# Exact arithmetic on doubles

Where the exact result of an operation is a double, rounding leaves it alone. So a decimal fraction
that happens to be a double is read as that double, by the fast way (one product or quotient with a
power of ten) as well as by the general one.

* `round_exact`: the rounding step;
* `mul_exact`, `div_exact` on unpacked doubles, `mul_eq`, `div_eq` on positive doubles;
* `isFull_ofNat`, `isFull_powerOfTen`: the operands of the fast way;
* `magnitude_exact`: decimal fractions.
-/

namespace Measures.Double

open Float.Model (Format UnpackedFloat totalExponent)
open Float.Model.UnpackedFloat (Sign Accuracy ExtendedMantissa roundWithAccuracy
  shiftToTargetExponent shiftToExponent divCore)
open Decimal (isNegative exponentField significandField significand binaryExponent leadingBit)

variable {x y : Float} {m m₁ m₂ : Nat} {e e₁ e₂ : Int} {s s₁ s₂ : Sign}

/-! ## 1. Rounding what needs none -/

theorem targetExponent_eq (t : Int) : Format.binary64.targetExponent t = max (t - 53) (-1074) := rfl

theorem log2_mul_two_pow (hm : 0 < m) (k : Nat) : (m * 2 ^ k).log2 = m.log2 + k := by
  have hpos : 0 < 2 ^ k := Nat.two_pow_pos k
  rw [Nat.log2_eq_iff (Nat.mul_pos hm hpos).ne']
  obtain ⟨hl, hu⟩ := (Nat.log2_eq_iff hm.ne').mp (Eq.refl m.log2)
  constructor
  · rw [Nat.pow_add]
    exact Nat.mul_le_mul_right _ hl
  · rw [show m.log2 + k + 1 = m.log2 + 1 + k by omega, Nat.pow_add]
    exact Nat.mul_lt_mul_of_pos_right hu hpos

/-- The exponent that a canonical pair is rounded to is its own. -/
theorem IsCanonical.target (h : IsCanonical m e) :
    Format.binary64.targetExponent (totalExponent m e) = e := by
  obtain ⟨hpos, hlt, hleast, hmost, hnormal⟩ := h
  rw [leadingBit] at hlt hnormal
  have hlog : m.log2 ≤ 52 := Nat.lt_succ_iff.mp ((Nat.log2_lt hpos.ne').mpr (by omega))
  rw [targetExponent_eq, totalExponent]
  rcases hnormal with hn | rfl
  · have : 52 ≤ m.log2 := (Nat.le_log2 hpos.ne').mpr (by omega)
    omega
  · omega

theorem IsCanonical.target_shifted (h : IsCanonical m e) (k : Nat) :
    Format.binary64.targetExponent (totalExponent (m * 2 ^ k) (e - k)) = e := by
  have hsame : totalExponent (m * 2 ^ k) (e - k) = totalExponent m e := by
    rw [totalExponent, log2_mul_two_pow h.pos, totalExponent]
    omega
  rw [hsame, h.target]

/-- Shifting out zeros loses nothing. -/
theorem shiftRight_exact (m k : Nat) :
    (⟨m * 2 ^ k, false, false⟩ : ExtendedMantissa) >>> k = ⟨m, false, false⟩ := by
  induction k generalizing m with
  | zero =>
    rw [Nat.pow_zero, Nat.mul_one]
    rfl
  | succ k ih =>
    have hk : m * 2 ^ (k + 1) = (m * 2) * 2 ^ k := by ring
    show ((⟨m * 2 ^ (k + 1), false, false⟩ : ExtendedMantissa) >>> k).shiftRightOne = _
    rw [hk, ih, ExtendedMantissa.shiftRightOne]
    simp

/-- Rounding shifts twice: what is left after the second time is the result. -/
theorem round_of_shift {acc : Accuracy} {em : ExtendedMantissa} {t : Int}
    (hfirst : shiftToTargetExponent Format.binary64 m₁ e₁ acc = (em, t))
    (hlast : shiftToTargetExponent Format.binary64 em.roundedMantissa t .exact =
      (⟨m, false, false⟩, e)) (hm : 0 < m) :
    roundWithAccuracy Format.binary64 s m₁ e₁ acc = .finite s m e hm := by
  have hne : ¬ (shiftToTargetExponent Format.binary64 em.roundedMantissa t .exact).1.mantissa =
      0 := by
    rw [hlast]
    exact hm.ne'
  unfold roundWithAccuracy
  rw [hfirst]
  dsimp only
  refine (dif_neg hne).trans (finite_congr rfl ?_ ?_)
  · exact congrArg (fun p => p.1.mantissa) hlast
  · exact congrArg Prod.snd hlast

/-- **A number that a double holds is rounded to that double.** -/
theorem round_exact (h : IsCanonical m e) (k : Nat) :
    roundWithAccuracy Format.binary64 s (m * 2 ^ k) (e - k) .exact = .finite s m e h.pos := by
  have hshift : ∀ j : Nat, shiftToTargetExponent Format.binary64 (m * 2 ^ j) (e - j) .exact =
      (⟨m, false, false⟩, e) := by
    intro j
    unfold shiftToTargetExponent shiftToExponent
    dsimp only
    rw [h.target_shifted, show (e - (e - (j : Int))).toNat = j by omega]
    show ((⟨m * 2 ^ j, false, false⟩ : ExtendedMantissa) >>> j, _) = _
    rw [shiftRight_exact, show e - (j : Int) + j = e by omega]
  have hlast := hshift 0
  rw [Nat.pow_zero, Nat.mul_one, Int.natCast_zero, Int.sub_zero] at hlast
  exact round_of_shift (hshift k) hlast h.pos

/-! ## 2. Exact products and quotients -/

/-- Two ways to write a number with a power of two: the larger factor has the smaller exponent, and
    the difference is in the factor. -/
theorem eq_mul_two_pow (hv : (m₁ : ℚ) * 2 ^ e₁ = m * 2 ^ e) (he : e₁ ≤ e) :
    m₁ = m * 2 ^ (e - e₁).toNat := by
  have hsplit : (2 : ℚ) ^ e = 2 ^ (e - e₁).toNat * 2 ^ e₁ := by
    rw [← zpow_natCast, Int.toNat_of_nonneg (by omega), ← zpow_add₀ (by norm_num)]
    congr 1
    omega
  have hpos : (0 : ℚ) < 2 ^ e₁ := by positivity
  rw [hsplit, ← mul_assoc] at hv
  exact_mod_cast mul_right_cancel₀ hpos.ne' hv

theorem exponent_le (hv : (m₁ : ℚ) * 2 ^ e₁ = m * 2 ^ e) (hm : 0 < m) (hle : m ≤ m₁) : e₁ ≤ e := by
  by_contra hlt
  have hswap := eq_mul_two_pow hv.symm (by omega)
  have hone : 2 ≤ 2 ^ (e₁ - e).toNat := by
    rw [show (e₁ - e).toNat = (e₁ - e).toNat - 1 + 1 by omega, pow_succ]
    have := Nat.one_le_two_pow (n := (e₁ - e).toNat - 1)
    omega
  have : m₁ * 2 ≤ m₁ * 2 ^ (e₁ - e).toNat := Nat.mul_le_mul_left _ hone
  omega

/-- **A product that a double holds is that double.** -/
theorem mul_exact (h : IsCanonical m e) {h₁ : 0 < m₁} {h₂ : 0 < m₂}
    (hv : (m₁ : ℚ) * 2 ^ e₁ * (m₂ * 2 ^ e₂) = m * 2 ^ e) (hle : m ≤ m₁ * m₂) :
    UnpackedFloat.mul Format.binary64 (.finite s₁ m₁ e₁ h₁) (.finite s₂ m₂ e₂ h₂) =
      .finite (s₁ * s₂) m e h.pos := by
  have hprod : ((m₁ * m₂ : ℕ) : ℚ) * 2 ^ (e₁ + e₂) = m * 2 ^ e := by
    rw [← hv, zpow_add₀ (by norm_num)]
    push_cast
    ring
  have hexp := exponent_le hprod h.pos hle
  show roundWithAccuracy Format.binary64 (s₁ * s₂) (m₁ * m₂) (e₁ + e₂) .exact = _
  rw [eq_mul_two_pow hprod hexp, ← round_exact h (e - (e₁ + e₂)).toNat]
  congr 1
  omega

theorem log2_add_eq (hv : (m₁ : ℚ) * 2 ^ e₁ = m * 2 ^ e) (hm₁ : 0 < m₁) (hm : 0 < m) :
    (m₁.log2 : Int) + e₁ = m.log2 + e := by
  rcases le_total e₁ e with he | he
  · rw [eq_mul_two_pow hv he, log2_mul_two_pow hm]
    omega
  · rw [eq_mul_two_pow hv.symm he, log2_mul_two_pow hm₁]
    omega

theorem log2_mul_le (hm₁ : 0 < m₁) (hm₂ : 0 < m₂) :
    (m₁ * m₂).log2 ≤ m₁.log2 + m₂.log2 + 1 := by
  have h₁ : m₁ < 2 ^ (m₁.log2 + 1) := Nat.lt_log2_self
  have h₂ : m₂ < 2 ^ (m₂.log2 + 1) := Nat.lt_log2_self
  refine Nat.lt_succ_iff.mp ((Nat.log2_lt (Nat.mul_pos hm₁ hm₂).ne').mpr ?_)
  calc m₁ * m₂ < 2 ^ (m₁.log2 + 1) * 2 ^ (m₂.log2 + 1) := Nat.mul_lt_mul'' h₁ h₂
    _ = 2 ^ (m₁.log2 + m₂.log2 + 1 + 1) := by ring

/-- **A quotient that a double holds is that double.** -/
theorem div_exact (h : IsCanonical m e) {h₁ : 0 < m₁} {h₂ : 0 < m₂}
    (hv : (m₁ : ℚ) * 2 ^ e₁ = m * 2 ^ e * (m₂ * 2 ^ e₂)) :
    UnpackedFloat.div Format.binary64 (.finite s₁ m₁ e₁ h₁) (.finite s₂ m₂ e₂ h₂) =
      .finite (s₁ / s₂) m e h.pos := by
  have hv' : (m₁ : ℚ) * 2 ^ e₁ = ((m * m₂ : ℕ) : ℚ) * 2 ^ (e + e₂) := by
    rw [hv, zpow_add₀ (by norm_num)]
    push_cast
    ring
  -- the quotient is computed to the last place of the result at least
  generalize ht : min (e₁ - e₂) (Format.binary64.targetExponent
    (totalExponent m₁ e₁ - totalExponent m₂ e₂)) = t
  have hte : t ≤ e := by
    have hlog := log2_add_eq hv' h₁ (Nat.mul_pos h.pos h₂)
    have hprod := log2_mul_le h.pos h₂
    have hself := h.target
    rw [targetExponent_eq, totalExponent] at hself
    rw [targetExponent_eq, totalExponent, totalExponent] at ht
    omega
  have hquot : m₁ <<< (e₁ - e₂ - t).toNat = m * 2 ^ (e - t).toNat * m₂ := by
    have hshift : ((m₁ * 2 ^ (e₁ - e₂ - t).toNat : ℕ) : ℚ) * 2 ^ (t + e₂) =
        ((m * m₂ : ℕ) : ℚ) * 2 ^ (e + e₂) := by
      rw [← hv']
      push_cast
      rw [mul_assoc, ← zpow_natCast, Int.toNat_of_nonneg (by omega), ← zpow_add₀ (by norm_num)]
      congr 2
      omega
    rw [Nat.shiftLeft_eq, eq_mul_two_pow hshift (by omega),
      show (e + e₂ - (t + e₂)).toNat = (e - t).toNat by omega]
    ring
  show roundWithAccuracy Format.binary64 (s₁ / s₂) (divCore Format.binary64 m₁ e₁ m₂ e₂).1
    (divCore Format.binary64 m₁ e₁ m₂ e₂).2.1 (divCore Format.binary64 m₁ e₁ m₂ e₂).2.2 = _
  have hcore : divCore Format.binary64 m₁ e₁ m₂ e₂ =
      (m * 2 ^ (e - t).toNat, e - (e - t).toNat, .exact) := by
    unfold divCore
    dsimp only
    rw [ht, hquot, Nat.mul_div_cancel _ h₂, Nat.mul_mod_left]
    rw [show e - ((e - t).toNat : Int) = t by omega]
    rfl
  rw [hcore]
  exact round_exact h _

/-! ## 3. Positive doubles -/

/-- The number that a finite double stands for, its sign apart. -/
def size (x : Float) : ℚ := significand x * 2 ^ binaryExponent x

/-- A finite double above zero. -/
structure IsPositive (x : Float) : Prop where
  sign : isNegative x = false
  finite : exponentField x ≠ 2047
  nonzero : 0 < significand x

theorem IsPositive.canonical (h : IsPositive x) :
    IsCanonical (significand x) (binaryExponent x) := isCanonical h.finite h.nonzero

theorem IsPositive.unpack (h : IsPositive x) : x.toModel.unpack =
    .finite (Double.sign false) (significand x) (binaryExponent x) h.nonzero := by
  rw [unpack_finite h.finite h.nonzero, h.sign]

/-- A positive double is packed from its parts. -/
theorem IsPositive.eq_pack (h : IsPositive x) : x = .ofModel (.pack
    (.finite .positive (significand x) (binaryExponent x) h.nonzero)) := by
  have hx := ofParts_eq h.finite h.nonzero
  rw [h.sign] at hx
  exact hx.symm

theorem isPositive_ofParts (h : IsCanonical m e) : IsPositive (ofParts false h) ∧
    significand (ofParts false h) = m ∧ binaryExponent (ofParts false h) = e := by
  obtain ⟨hn, he, hs, hq⟩ := fields_of_toNat (x := ofParts false h) h (toNat_pack h)
  exact ⟨⟨hn, he, by rw [hs]; exact h.pos⟩, hs, hq⟩

/-- **The machine multiplies exactly where it can.** -/
theorem mul_eq {z : Float} (hx : IsPositive x) (hy : IsPositive y) (hz : IsPositive z)
    (hv : size x * size y = size z) (hle : significand z ≤ significand x * significand y) :
    x * y = z := by
  show Float.ofModel (.pack (UnpackedFloat.mul Format.binary64 x.toModel.unpack
    y.toModel.unpack)) = z
  rw [hx.unpack, hy.unpack, mul_exact hz.canonical hv hle]
  exact hz.eq_pack.symm

/-- **The machine divides exactly where it can.** -/
theorem div_eq {z : Float} (hx : IsPositive x) (hy : IsPositive y) (hz : IsPositive z)
    (hv : size x = size z * size y) : x / y = z := by
  show Float.ofModel (.pack (UnpackedFloat.div Format.binary64 x.toModel.unpack
    y.toModel.unpack)) = z
  rw [hx.unpack, hy.unpack, div_exact hz.canonical hv]
  exact hz.eq_pack.symm

/-! ## 4. Whole numbers and powers of ten -/

/-- A double that is exactly the number `q`, in all fifty-three bits. -/
structure IsFull (x : Float) (q : ℚ) : Prop where
  positive : IsPositive x
  full : leadingBit ≤ significand x
  size : size x = q

/-- The significand of a small whole number, moved up to the leading bit. -/
theorem isCanonical_shifted {n : Nat} (hn : 0 < n) (hlt : n < 0x20000000000000) :
    IsCanonical (n * 2 ^ (52 - n.log2)) (-(52 - n.log2 : Nat)) := by
  have hlog : n.log2 ≤ 52 := Nat.lt_succ_iff.mp ((Nat.log2_lt hn.ne').mpr (by omega))
  obtain ⟨hl, hu⟩ := (Nat.log2_eq_iff hn.ne').mp (Eq.refl n.log2)
  have hpos : 0 < 2 ^ (52 - n.log2) := Nat.two_pow_pos _
  have hlow : leadingBit ≤ n * 2 ^ (52 - n.log2) := by
    calc leadingBit = 2 ^ n.log2 * 2 ^ (52 - n.log2) := by
          rw [← Nat.pow_add, Nat.add_sub_cancel' hlog]
          rfl
      _ ≤ n * 2 ^ (52 - n.log2) := Nat.mul_le_mul_right _ hl
  refine ⟨Nat.mul_pos hn hpos, ?_, by omega, by omega, .inl hlow⟩
  calc n * 2 ^ (52 - n.log2) < 2 ^ (n.log2 + 1) * 2 ^ (52 - n.log2) :=
        Nat.mul_lt_mul_of_pos_right hu hpos
    _ = 2 * leadingBit := by
        rw [← Nat.pow_add, show n.log2 + 1 + (52 - n.log2) = 53 by omega]
        rfl

/-- **Whole numbers below two to the fifty-third are doubles.** -/
theorem isFull_ofNat {n : Nat} (hn : 0 < n) (hlt : n < 0x20000000000000) :
    IsFull n.toUInt64.toFloat n := by
  have hlog : n.log2 ≤ 52 := Nat.lt_succ_iff.mp ((Nat.log2_lt hn.ne').mpr (by omega))
  have hc := isCanonical_shifted hn hlt
  have hround : Float.Model.UnpackedFloat.round Format.binary64 .positive n 0 =
      .finite .positive (n * 2 ^ (52 - n.log2)) (-(52 - n.log2 : Nat)) hc.pos := by
    unfold Float.Model.UnpackedFloat.round Float.Model.UnpackedFloat.decreaseExponent
    dsimp only
    rw [targetExponent_eq, totalExponent, Nat.shiftLeft_eq,
      show (0 - max ((n.log2 : Int) + 1 + 0 - 53) (-1074)).toNat = 52 - n.log2 by omega]
    have hexact := round_exact (s := .positive) hc 0
    rw [Nat.pow_zero, Nat.mul_one, Int.natCast_zero, Int.sub_zero] at hexact
    rw [Int.zero_sub]
    exact hexact
  have hfloat : n.toUInt64.toFloat = ofParts false hc := by
    have hnat : n.toUInt64.toNat = n := Nat.mod_eq_of_lt (by omega)
    show Float.ofModel (.pack (Float.Model.UnpackedFloat.normalize Format.binary64
      n.toUInt64.toNat 0 .positive)) = _
    rw [hnat]
    obtain ⟨k, rfl⟩ : ∃ k, n = k + 1 := ⟨n - 1, by omega⟩
    exact congrArg (fun f => Float.ofModel (.pack f)) hround
  obtain ⟨hp, hs, hq⟩ := isPositive_ofParts hc
  rw [hfloat]
  refine ⟨hp, ?_, ?_⟩
  · rw [hs]
    exact hc.normal.resolve_right (by omega)
  · rw [size, hs, hq]
    push_cast
    rw [mul_assoc, ← zpow_natCast, ← zpow_add₀ (by norm_num), add_neg_cancel, zpow_zero, mul_one]

/-- A power of two as a fraction of whole numbers. -/
theorem two_zpow_mul (e : Int) : (2 : ℚ) ^ e * 2 ^ (-e).toNat = 2 ^ e.toNat := by
  rw [← zpow_natCast, ← zpow_natCast, ← zpow_add₀ (by norm_num)]
  congr 1
  omega

/-- What makes a double a full one that equals a whole number, in whole numbers. -/
def isFullNat (x : Float) (n : Nat) : Bool :=
  exponentField x ≠ 2047 && !isNegative x && leadingBit ≤ significand x &&
    significand x * 2 ^ (binaryExponent x).toNat = n * 2 ^ (-binaryExponent x).toNat

theorem isFull_of_isFullNat {n : Nat} (h : isFullNat x n = true) : IsFull x n := by
  simp only [isFullNat, Bool.and_eq_true, decide_eq_true_eq, Bool.not_eq_true', ne_eq] at h
  obtain ⟨⟨⟨he, hn⟩, hl⟩, hv⟩ := h
  refine ⟨⟨hn, he, lt_of_lt_of_le (by decide) hl⟩, hl, ?_⟩
  have hpos : (0 : ℚ) < 2 ^ (-binaryExponent x).toNat := by positivity
  refine mul_right_cancel₀ hpos.ne' ?_
  rw [size, mul_assoc, two_zpow_mul]
  exact_mod_cast hv

theorem isFullNat_powerOfTen : ∀ i : Fin Float.exactlyRepresentablePowersOfTen.size,
    isFullNat Float.exactlyRepresentablePowersOfTen[i] (10 ^ i.val) = true := by decide +kernel

/-- **The powers of ten up to the twenty-second are doubles.** -/
theorem isFull_powerOfTen {n : Nat} (hn : n < Float.exactlyRepresentablePowersOfTen.size) :
    IsFull Float.exactlyRepresentablePowersOfTen[n] ((10 ^ n : Nat) : ℚ) :=
  isFull_of_isFullNat (isFullNat_powerOfTen ⟨n, hn⟩)

/-! ## 5. Decimal fractions -/

theorem size_lt (h : IsPositive x) : size x < 2 ^ (1024 : Int) := by
  have hc := h.canonical
  have hlt : (significand x : ℚ) < 2 ^ (53 : Int) := by exact_mod_cast hc.lt
  calc size x < 2 ^ (53 : Int) * 2 ^ binaryExponent x :=
        mul_lt_mul_of_pos_right hlt (by positivity)
    _ = 2 ^ (53 + binaryExponent x) := (zpow_add₀ (by norm_num) _ _).symm
    _ ≤ 2 ^ (1024 : Int) := zpow_le_zpow_right₀ (by norm_num) (by have := hc.most; omega)

theorem le_size (h : IsPositive x) : 2 ^ (-1074 : Int) ≤ size x := by
  have hc := h.canonical
  have hone : (1 : ℚ) ≤ significand x := by exact_mod_cast hc.pos
  calc (2 : ℚ) ^ (-1074 : Int) ≤ 2 ^ binaryExponent x :=
        zpow_le_zpow_right₀ (by norm_num) hc.least
    _ = 1 * 2 ^ binaryExponent x := (one_mul _).symm
    _ ≤ size x := mul_le_mul_of_nonneg_right hone (by positivity)

/-- A decimal fraction that is a double is neither so large nor so small that reading it gives up
    the computation. -/
theorem exponent_bounds {d : Nat} (h : IsPositive x) (hd : 0 < d)
    (hv : (d : ℚ) * 10 ^ e = size x) : e ≤ 2048 ∧ -(2048 + (d.log2 : Int)) ≤ e := by
  have two_le_ten : (2 : ℚ) ≤ 10 := by norm_num
  constructor
  · by_contra hlt
    have hone : (1 : ℚ) ≤ d := by exact_mod_cast hd
    have hbig : (2 : ℚ) ^ (1024 : Int) ≤ d * 10 ^ e := by
      calc (2 : ℚ) ^ (1024 : Int) ≤ 2 ^ e := zpow_le_zpow_right₀ (by norm_num) (by omega)
        _ ≤ 10 ^ e := zpow_le_zpow_left₀ (by omega) (by norm_num) two_le_ten
        _ = 1 * 10 ^ e := (one_mul _).symm
        _ ≤ d * 10 ^ e := mul_le_mul_of_nonneg_right hone (by positivity)
    exact absurd (size_lt h) (not_lt.mpr (hv ▸ hbig))
  · by_contra hlt
    have hdlt : (d : ℚ) < 2 ^ (d.log2 + 1 : Nat) := by exact_mod_cast Nat.lt_log2_self
    have hsmall : (d : ℚ) * 10 ^ e < 2 ^ (-1074 : Int) := by
      calc (d : ℚ) * 10 ^ e < 2 ^ (d.log2 + 1 : Nat) * 10 ^ e :=
            mul_lt_mul_of_pos_right hdlt (by positivity)
        _ ≤ 2 ^ (d.log2 + 1 : Nat) * 2 ^ e := by
            refine mul_le_mul_of_nonneg_left ?_ (by positivity)
            rw [← inv_le_inv₀ (by positivity) (by positivity), ← zpow_neg, ← zpow_neg]
            exact zpow_le_zpow_left₀ (by omega) (by norm_num) two_le_ten
        _ = 2 ^ ((d.log2 + 1 : Nat) + e) := by rw [← zpow_natCast, ← zpow_add₀ (by norm_num)]
        _ ≤ 2 ^ (-1074 : Int) := zpow_le_zpow_right₀ (by norm_num) (by push_cast; omega)
    exact absurd (le_size h) (not_le.mpr (hv ▸ hsmall))

/-- **A decimal fraction that a double holds is computed to be that double.** -/
theorem ofScientific_exact {d : Nat} (h : IsPositive x) (hd : 0 < d)
    (hv : (d : ℚ) * 10 ^ e = size x) : UnpackedFloat.ofScientific Format.binary64 d e =
      .finite .positive (significand x) (binaryExponent x) h.nonzero := by
  obtain ⟨hmost, hleast⟩ := exponent_bounds h hd hv
  unfold UnpackedFloat.ofScientific
  rw [dif_neg hd.ne']
  refine (if_neg ?_).trans ((if_neg ?_).trans ?_)
  · show ¬ e > 2048
    omega
  · show ¬ e < -(2048 + (d.log2 : Int))
    omega
  have hpow : ∀ n : Nat, ((10 ^ n : Nat) : ℚ) * 2 ^ (0 : Int) = 10 ^ n := fun n => by
    push_cast
    ring
  by_cases he : 0 ≤ e
  · rw [if_pos he]
    refine mul_exact h.canonical ?_ ?_
    · show ((d <<< 53 : Nat) : ℚ) * 2 ^ (-53 : Int) * (((10 ^ e.toNat : Nat) : ℚ) * 2 ^ (0 : Int)) =
        size x
      have hshift : ((d <<< 53 : Nat) : ℚ) * 2 ^ (-53 : Int) = d := by
        rw [Nat.shiftLeft_eq]
        push_cast
        rw [mul_assoc]
        norm_num
      rw [hshift, hpow, ← hv, ← zpow_natCast, Int.toNat_of_nonneg he]
    · have hlt : significand x < 2 ^ 53 := h.canonical.lt
      calc significand x ≤ 1 * 2 ^ 53 * 1 := by omega
        _ ≤ d <<< 53 * 10 ^ e.toNat := by
            rw [Nat.shiftLeft_eq]
            exact Nat.mul_le_mul (Nat.mul_le_mul_right _ hd)
              (Nat.pow_pos (by norm_num))
  · rw [if_neg he]
    refine div_exact h.canonical ?_
    show (d : ℚ) * 2 ^ (0 : Int) = size x * (((10 ^ (-e).toNat : Nat) : ℚ) * 2 ^ (0 : Int))
    rw [hpow, ← hv, zpow_zero, mul_one, mul_assoc, ← zpow_natCast, Int.toNat_of_nonneg (by omega),
      ← zpow_add₀ (by norm_num), add_neg_cancel, zpow_zero, mul_one]

/-- The general way of reading packs that double. -/
theorem pack_ofScientific {d : Nat} (h : IsPositive x) (hd : 0 < d)
    (hv : (d : ℚ) * 10 ^ e = size x) :
    Float.ofModel (.pack (UnpackedFloat.ofScientific Format.binary64 d e)) = x := by
  rw [ofScientific_exact h hd hv]
  exact h.eq_pack.symm

/-- The two numbers that the fast way of reading starts from. -/
theorem isFull_fast {d n : Nat} (hd : 0 < d) (hlt : d < 0x20000000000000)
    (hn : n < Float.exactlyRepresentablePowersOfTen.size) :
    IsFull d.toUInt64.toFloat d ∧
      IsFull Float.exactlyRepresentablePowersOfTen[n] ((10 : ℚ) ^ (n : Int)) := by
  refine ⟨isFull_ofNat hd hlt, ?_⟩
  have hten := isFull_powerOfTen hn
  rwa [Nat.cast_pow, Nat.cast_ofNat, ← zpow_natCast] at hten

theorem ofScientific_mul {d n : Nat} (h : IsPositive x) (hd : 0 < d)
    (hv : (d : ℚ) * 10 ^ (n : Int) = size x) : Float.ofScientific d false n = x := by
  by_cases hfast : d < 0x20000000000000 ∧ n ≤ 22
  · obtain ⟨hnat, hten⟩ := isFull_fast hd hfast.1 (Nat.lt_succ_of_le hfast.2)
    refine (dif_pos hfast).trans (mul_eq hnat.positive hten.positive h ?_ ?_)
    · exact (congrArg₂ (· * ·) hnat.size hten.size).trans hv
    · have hl : leadingBit = 0x10000000000000 := rfl
      have hlt := h.canonical.lt
      have hprod := Nat.mul_le_mul hnat.full hten.full
      rw [hl] at hprod hlt
      omega
  · exact (dif_neg hfast).trans (pack_ofScientific h hd hv)

theorem ofScientific_div {d n : Nat} (h : IsPositive x) (hd : 0 < d)
    (hv : (d : ℚ) * 10 ^ (-n : Int) = size x) : Float.ofScientific d true n = x := by
  by_cases hfast : d < 0x20000000000000 ∧ n ≤ 22
  · obtain ⟨hnat, hten⟩ := isFull_fast hd hfast.1 (Nat.lt_succ_of_le hfast.2)
    refine (dif_pos hfast).trans (div_eq hnat.positive hten.positive h ?_)
    refine hnat.size.trans (Eq.trans ?_ (congrArg (size x * ·) hten.size).symm)
    show (d : ℚ) = size x * 10 ^ (n : Int)
    rw [← hv, mul_assoc, ← zpow_add₀ (by norm_num), neg_add_cancel, zpow_zero, mul_one]
  · exact (dif_neg hfast).trans (pack_ofScientific h hd hv)

open Decimal (magnitude) in
/-- **A decimal fraction that a double holds is read as that double.** -/
theorem magnitude_exact {d : Nat} (h : IsPositive x) (hv : (d : ℚ) * 10 ^ e = size x) :
    magnitude d e = x := by
  have hd : 0 < d := by
    refine Nat.pos_of_ne_zero fun hd => ?_
    have hle := le_size h
    rw [← hv, hd, Nat.cast_zero, zero_mul] at hle
    exact absurd hle (not_le.mpr (by positivity))
  unfold magnitude
  by_cases he : 0 ≤ e
  · rw [if_pos he]
    exact ofScientific_mul h hd (by rw [Int.toNat_of_nonneg he, hv])
  · rw [if_neg he]
    exact ofScientific_div h hd (by rw [Int.toNat_of_nonneg (by omega), neg_neg, hv])

end Measures.Double
