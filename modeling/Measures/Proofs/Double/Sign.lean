import Measures.Proofs.Decimal.RoundTrip

/-!
# The sign of a double

Products and quotients of unsigned doubles are unsigned, however they are rounded, and so is
whatever is read from digits. A negative zero stays one under multiplication and division by positive
numbers. It is the only double with a sign that is not below zero.

* `IsUnsigned`: unpacked doubles without a minus;
* `isNegative_mul`, `isNegative_div`, `isNegative_magnitude`: signs of results;
* `negZero_mul`, `negZero_div`: results of a negative zero;
* `lt_zero_iff`: what is below zero.
-/

namespace Measures.Double

open Float.Model (Format UnpackedFloat)
open Float.Model.UnpackedFloat (Sign Accuracy roundWithAccuracy packComponents)
open Decimal (isNegative exponentField significandField significand binaryExponent magnitude)

variable {x y : Float} {f g : UnpackedFloat}

/-! ## 1. Unpacked doubles -/

/-- The unpacked double has no minus. What is no number has none. -/
def IsUnsigned : UnpackedFloat → Prop
  | .infinity s => s = .positive
  | .notANumber => True
  | .zero s => s = .positive
  | .finite s _ _ _ => s = .positive

theorem isUnsigned_dite {p : Prop} [Decidable p] {f : p → UnpackedFloat} {g : ¬ p → UnpackedFloat}
    (hf : ∀ h, IsUnsigned (f h)) (hg : ∀ h, IsUnsigned (g h)) : IsUnsigned (dite p f g) := by
  by_cases h : p
  · rw [dif_pos h]
    exact hf h
  · rw [dif_neg h]
    exact hg h

theorem isUnsigned_ite {p : Prop} [Decidable p] (hf : IsUnsigned f) (hg : IsUnsigned g) :
    IsUnsigned (if p then f else g) := by
  by_cases h : p
  · rwa [if_pos h]
  · rwa [if_neg h]

theorem isUnsigned_round {m : Nat} {e : Int} {acc : Accuracy} :
    IsUnsigned (roundWithAccuracy Format.binary64 .positive m e acc) := by
  unfold roundWithAccuracy
  exact isUnsigned_dite (fun _ => rfl) fun _ => rfl

theorem isUnsigned_mul (hf : IsUnsigned f) (hg : IsUnsigned g) :
    IsUnsigned (UnpackedFloat.mul Format.binary64 f g) := by
  -- only the product of two finite doubles is rounded, the other cases compute
  cases f <;> cases g <;> cases hf <;> cases hg <;>
    first | exact isUnsigned_round | trivial

theorem isUnsigned_div (hf : IsUnsigned f) (hg : IsUnsigned g) :
    IsUnsigned (UnpackedFloat.div Format.binary64 f g) := by
  cases f <;> cases g <;> cases hf <;> cases hg <;>
    first | exact isUnsigned_round | trivial

/-! ## 2. Doubles -/

theorem toNat_packComponents_lt (E : BitVec 11) (M : BitVec 52) :
    (packComponents Format.binary64 .positive E M).toNat < 0x8000000000000000 := by
  have h := toNat_packComponents false E M
  have hE := E.isLt
  have hM := M.isLt
  rw [show (.positive : Sign) = sign false from rfl, h, Decimal.leadingBit]
  simp only [Bool.false_eq_true, if_false]
  omega

theorem isNegative_pack (hf : IsUnsigned f) : isNegative (.ofModel (.pack f)) = false := by
  have hlt : (UnpackedFloat.pack Format.binary64 f).toNat < 0x8000000000000000 := by
    cases f with
    | notANumber => exact toNat_packComponents_lt _ _
    | infinity s =>
      cases hf
      exact toNat_packComponents_lt _ _
    | zero s =>
      cases hf
      exact toNat_packComponents_lt _ _
    | finite s m e hm =>
      cases hf
      unfold UnpackedFloat.pack
      dsimp only
      split
      · exact toNat_packComponents_lt _ _
      · split
        · exact toNat_packComponents_lt _ _
        · exact toNat_packComponents_lt _ _
  rw [isNegative_eq]
  refine decide_eq_false ?_
  show ¬ (UnpackedFloat.pack Format.binary64 f).toNat / 0x8000000000000000 % 2 = 1
  omega

/-- A double without a sign is unpacked without one. -/
theorem isUnsigned_unpack (hx : isNegative x = false) : IsUnsigned x.toModel.unpack := by
  by_cases he : exponentField x = 2047
  · by_cases hs : significandField x = 0
    · rw [unpack_infinite he hs, hx]
      rfl
    · rw [unpack_undefined he hs]
      trivial
  · by_cases hs : significand x = 0
    · rw [unpack_zero hs, hx]
      rfl
    · rw [unpack_finite he (Nat.pos_of_ne_zero hs), hx]
      rfl

/-- **A product of doubles without a sign has none.** -/
theorem isNegative_mul (hx : isNegative x = false) (hy : isNegative y = false) :
    isNegative (x * y) = false :=
  isNegative_pack (isUnsigned_mul (isUnsigned_unpack hx) (isUnsigned_unpack hy))

/-- **A quotient of doubles without a sign has none.** -/
theorem isNegative_div (hx : isNegative x = false) (hy : isNegative y = false) :
    isNegative (x / y) = false :=
  isNegative_pack (isUnsigned_div (isUnsigned_unpack hx) (isUnsigned_unpack hy))

/-! ## 3. What is read from digits -/

theorem isNegative_ofNat {n : Nat} (hn : n < 0x20000000000000) :
    isNegative n.toUInt64.toFloat = false := by
  rcases Nat.eq_zero_or_pos n with rfl | hpos
  · rfl
  · exact (isFull_ofNat hpos hn).positive.sign

theorem isUnsigned_ofScientific (d : Nat) (e : Int) :
    IsUnsigned (UnpackedFloat.ofScientific Format.binary64 d e) := by
  unfold UnpackedFloat.ofScientific
  refine isUnsigned_dite (fun _ => rfl) fun _ => ?_
  refine isUnsigned_ite rfl (isUnsigned_ite rfl (isUnsigned_ite ?_ ?_))
  · exact isUnsigned_mul rfl rfl
  · exact isUnsigned_div rfl rfl

theorem isNegative_ofScientific (d : Nat) (down : Bool) (n : Nat) :
    isNegative (Float.ofScientific d down n) = false := by
  by_cases hfast : d < 0x20000000000000 ∧ n ≤ 22
  · have hten := (isFull_powerOfTen (Nat.lt_succ_of_le hfast.2)).positive.sign
    have hnat := isNegative_ofNat hfast.1
    cases down with
    | true => exact (congrArg isNegative (dif_pos hfast)).trans (isNegative_div hnat hten)
    | false => exact (congrArg isNegative (dif_pos hfast)).trans (isNegative_mul hnat hten)
  · refine (congrArg isNegative (dif_neg hfast)).trans ?_
    exact isNegative_pack (isUnsigned_ofScientific d _)

/-- **What is read from digits has no sign.** -/
theorem isNegative_magnitude (d : Nat) (e : Int) : isNegative (magnitude d e) = false := by
  unfold magnitude
  split
  · exact isNegative_ofScientific _ _ _
  · exact isNegative_ofScientific _ _ _

/-! ## 4. Negative zeros -/

/-- Doubles are compared as they are unpacked. -/
theorem lt_iff : x < y ↔ x.toModel.unpack.compare y.toModel.unpack = some .lt :=
  decide_eq_true_iff.trans beq_iff_eq

/-- A zero with a sign is the negative zero. -/
theorem eq_negZero_iff : x = -0.0 ↔ isNegative x = true ∧ significand x = 0 := by
  constructor
  · rintro rfl
    exact ⟨rfl, rfl⟩
  · intro ⟨hn, hs⟩
    have hx := Decimal.signed_zero_eq hs
    rw [hn] at hx
    exact hx.symm

/-- **A double with a sign is below zero**, unless it is the negative zero. -/
theorem lt_zero_iff : x < 0.0 ↔ isNegative x = true ∧ x ≠ -0.0 := by
  have hzero : (0.0 : Float).toModel.unpack = .zero .positive := rfl
  rw [lt_iff, hzero, ne_eq, eq_negZero_iff]
  by_cases he : exponentField x = 2047
  · have hs : significand x ≠ 0 := by
      intro hs
      have := (fields_of_zero hs).1
      omega
    by_cases hm : significandField x = 0
    · rw [unpack_infinite he hm]
      cases isNegative x with
      | true => exact iff_of_true rfl ⟨rfl, fun h => hs h.2⟩
      | false => exact iff_of_false (by decide) fun h => by cases h.1
    · have hn : isNegative x = false := by
        rw [← Decimal.undefined_eq he hm]
        rfl
      rw [unpack_undefined he hm, hn]
      exact iff_of_false (by decide) fun h => by cases h.1
  · by_cases hs : significand x = 0
    · rw [unpack_zero hs]
      exact iff_of_false (by cases isNegative x <;> decide) fun h => h.2 ⟨h.1, hs⟩
    · rw [unpack_finite he (Nat.pos_of_ne_zero hs)]
      cases isNegative x with
      | true => exact iff_of_true rfl ⟨rfl, fun h => hs h.2⟩
      | false => exact iff_of_false (by rintro ⟨⟩) fun h => by cases h.1

/-- A negative zero stays one when it is multiplied by a positive number. -/
theorem negZero_mul (hy : IsPositive y) : -0.0 * y = -0.0 := by
  show Float.ofModel (.pack (UnpackedFloat.mul Format.binary64 (.zero .negative)
    y.toModel.unpack)) = _
  rw [hy.unpack]
  rfl

theorem negZero_div (hy : IsPositive y) : -0.0 / y = -0.0 := by
  show Float.ofModel (.pack (UnpackedFloat.div Format.binary64 (.zero .negative)
    y.toModel.unpack)) = _
  rw [hy.unpack]
  rfl

end Measures.Double
