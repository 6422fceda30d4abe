import Measures.Decimal.Shortest
import Measures.Proofs.Double.Zero

/-!
# The fields of a double

The machine computes on unpacked doubles: a sign, a significand and a binary exponent, or one of the
special values. The writer of numbers takes the same parts out of the bits by division. This file
joins the two views.

* `unpack_infinite`, `unpack_undefined`, `unpack_zero`, `unpack_finite`: what a double is unpacked
  into, by its fields;
* `IsCanonical`: the significands and exponents that occur;
* `ofParts`, `unpack_ofParts`: the double of a sign, a significand and an exponent;
* `eq_of_fields`, `ofParts_eq`: a double is known by its parts.
-/

namespace Measures.Double

open Float.Model (Format UnpackedFloat)
open Float.Model.UnpackedFloat (Sign unpack unpackExponent unpackMantissa unpackSign packComponents)
open Decimal (isNegative exponentField significandField significand binaryExponent leadingBit)

variable {x y : Float} {m : Nat} {e : Int}

/-! ## 1. Bits and fields -/

/-- The sign that the sign bit stands for. -/
def sign (negative : Bool) : Sign := if negative then .negative else .positive

theorem toNat_exponent (x : Float) :
    (@unpackExponent Format.binary64 x.toModel.toBits.toBitVec).toNat = exponentField x := by
  show x.toModel.toBits.toBitVec.toNat >>> 52 % 2 ^ 11 = _
  rw [Nat.shiftRight_eq_div_pow]
  rfl

theorem toNat_mantissa (x : Float) :
    (@unpackMantissa Format.binary64 x.toModel.toBits.toBitVec).toNat = significandField x := rfl

theorem exponent_eq_iff (x : Float) (v : BitVec 11) :
    @unpackExponent Format.binary64 x.toModel.toBits.toBitVec = v ↔ exponentField x = v.toNat := by
  rw [← toNat_exponent, BitVec.toNat_inj]

theorem mantissa_eq_iff (x : Float) (v : BitVec 52) :
    @unpackMantissa Format.binary64 x.toModel.toBits.toBitVec = v ↔
      significandField x = v.toNat := by
  rw [← toNat_mantissa, BitVec.toNat_inj]

theorem isNegative_eq (x : Float) :
    isNegative x = decide (x.toBits.toNat / 0x8000000000000000 % 2 = 1) :=
  Nat.testBit_eq_decide_div_mod_eq

theorem ofBitVec_sign (x : Float) :
    Sign.ofBitVec (@unpackSign Format.binary64 x.toModel.toBits.toBitVec) =
      sign (isNegative x) := by
  have h : (@unpackSign Format.binary64 x.toModel.toBits.toBitVec).toNat =
      x.toBits.toNat / 0x8000000000000000 % 2 := by
    show x.toModel.toBits.toBitVec.toNat >>> 63 % 2 ^ 1 = _
    rw [Nat.shiftRight_eq_div_pow]
    rfl
  have hz : @unpackSign Format.binary64 x.toModel.toBits.toBitVec = 0#1 ↔
      x.toBits.toNat / 0x8000000000000000 % 2 = 0 := by
    rw [← h, ← BitVec.toNat_inj]
    rfl
  rw [isNegative_eq, Sign.ofBitVec, sign]
  by_cases hb : x.toBits.toNat / 0x8000000000000000 % 2 = 0
  · rw [if_pos (hz.mpr hb), if_neg (by simp [hb])]
  · rw [if_neg (fun hc => hb (hz.mp hc)), if_pos (decide_eq_true (by omega))]

/-! ## 2. The four kinds of doubles -/

theorem unpack_infinite (he : exponentField x = 2047) (hs : significandField x = 0) :
    x.toModel.unpack = .infinity (sign (isNegative x)) := by
  show unpack Format.binary64 x.toModel.toBits.toBitVec = _
  unfold unpack
  dsimp only
  rw [if_pos ((exponent_eq_iff x (-1#11)).mpr he), if_pos ((mantissa_eq_iff x 0#52).mpr hs),
    ofBitVec_sign]

theorem unpack_undefined (he : exponentField x = 2047) (hs : significandField x ≠ 0) :
    x.toModel.unpack = .notANumber := by
  show unpack Format.binary64 x.toModel.toBits.toBitVec = _
  unfold unpack
  dsimp only
  rw [if_pos ((exponent_eq_iff x (-1#11)).mpr he),
    if_neg (fun h => hs ((mantissa_eq_iff x 0#52).mp h))]

theorem significand_of_zero (he : exponentField x = 0) : significand x = significandField x :=
  if_pos he

theorem significand_of_ne_zero (he : exponentField x ≠ 0) :
    significand x = leadingBit + significandField x := if_neg he

/-- In a zero both fields are zero. -/
theorem fields_of_zero (hs : significand x = 0) : exponentField x = 0 ∧ significandField x = 0 := by
  by_cases he : exponentField x = 0
  · exact ⟨he, significand_of_zero he ▸ hs⟩
  · rw [significand_of_ne_zero he, leadingBit] at hs
    omega

theorem unpack_zero (hs : significand x = 0) :
    x.toModel.unpack = .zero (sign (isNegative x)) := by
  obtain ⟨he, hm⟩ := fields_of_zero hs
  show unpack Format.binary64 x.toModel.toBits.toBitVec = _
  unfold unpack
  dsimp only
  have hne : ¬ @unpackExponent Format.binary64 x.toModel.toBits.toBitVec = -1#11 := by
    intro h
    have h2047 : exponentField x = 2047 := (exponent_eq_iff x (-1#11)).mp h
    omega
  rw [if_neg hne, if_pos ((exponent_eq_iff x 0#11).mpr he),
    dif_pos ((mantissa_eq_iff x 0#52).mpr hm), ofBitVec_sign]

/-- Finite unpacked doubles of the same parts are the same. -/
theorem finite_congr {s s' : Sign} {m' : Nat} {e' : Int} {h : 0 < m} {h' : 0 < m'} (hs : s = s')
    (hm : m = m') (he : e = e') : UnpackedFloat.finite s m e h = .finite s' m' e' h' := by
  subst hs hm he
  rfl

theorem unpack_finite (he : exponentField x ≠ 2047) (hs : 0 < significand x) :
    x.toModel.unpack = .finite (sign (isNegative x)) (significand x) (binaryExponent x) hs := by
  show unpack Format.binary64 x.toModel.toBits.toBitVec = _
  unfold unpack
  dsimp only
  rw [if_neg (fun h => he ((exponent_eq_iff x (-1#11)).mp h))]
  by_cases hz : exponentField x = 0
  · have hm : ¬ @unpackMantissa Format.binary64 x.toModel.toBits.toBitVec = 0#52 := by
      intro h
      rw [significand_of_zero hz] at hs
      have hzero : significandField x = 0 := (mantissa_eq_iff x 0#52).mp h
      omega
    rw [if_pos ((exponent_eq_iff x 0#11).mpr hz), dif_neg hm]
    refine finite_congr (ofBitVec_sign x) (significand_of_zero hz).symm ?_
    rw [toNat_exponent, hz, binaryExponent, hz]
    rfl
  · rw [if_neg (fun h => hz ((exponent_eq_iff x 0#11).mp h))]
    refine finite_congr (ofBitVec_sign x) ?_ ?_
    · rw [BitVec.toNat_append, toNat_mantissa, significand_of_ne_zero hz]
      exact (Nat.shiftLeft_add_eq_or_of_lt (Nat.mod_lt _ (by decide)) 1).symm
    · rw [toNat_exponent, binaryExponent]
      show (exponentField x : Int) - 1075 = _
      omega

/-- The finite doubles are those whose exponent bits are not all set. -/
theorem isFinite_iff (x : Float) : x.isFinite = true ↔ exponentField x ≠ 2047 := by
  show x.toModel.unpack.isFinite = true ↔ _
  by_cases he : exponentField x = 2047
  · by_cases hs : significandField x = 0
    · rw [unpack_infinite he hs]
      exact iff_of_false Bool.false_ne_true (not_not_intro he)
    · rw [unpack_undefined he hs]
      exact iff_of_false Bool.false_ne_true (not_not_intro he)
  · by_cases hs : significand x = 0
    · rw [unpack_zero hs]
      exact iff_of_true rfl he
    · rw [unpack_finite he (Nat.pos_of_ne_zero hs)]
      exact iff_of_true rfl he

/-! ## 3. Packing -/

/-- A significand and an exponent as a double has them: fifty-three bits, the leading one set
    unless the exponent is the least. -/
structure IsCanonical (m : Nat) (e : Int) : Prop where
  pos : 0 < m
  lt : m < 2 * leadingBit
  least : -1074 ≤ e
  most : e ≤ 971
  normal : leadingBit ≤ m ∨ e = -1074

theorem isCanonical (he : exponentField x ≠ 2047) (hs : 0 < significand x) :
    IsCanonical (significand x) (binaryExponent x) := by
  have hE : exponentField x < 2048 := Nat.mod_lt _ (by decide)
  have hM : significandField x < leadingBit := Nat.mod_lt _ (by decide)
  have hcases : (exponentField x = 0 ∧ significand x = significandField x) ∨
      (exponentField x ≠ 0 ∧ significand x = leadingBit + significandField x) := by
    by_cases hz : exponentField x = 0
    · exact .inl ⟨hz, significand_of_zero hz⟩
    · exact .inr ⟨hz, significand_of_ne_zero hz⟩
  have hl : leadingBit = 0x10000000000000 := rfl
  unfold binaryExponent
  refine ⟨hs, ?_, ?_, ?_, ?_⟩ <;> omega

/-- The bits of a finite double other than zero. -/
def bitsOf (negative : Bool) (m : Nat) (e : Int) : Nat :=
  (if negative then 0x8000000000000000 else 0) + ((e + 1074).toNat * leadingBit + m)

theorem toNat_packComponents (negative : Bool) (E : BitVec 11) (M : BitVec 52) :
    (packComponents Format.binary64 (sign negative) E M).toNat =
      (if negative then 0x8000000000000000 else 0) + (E.toNat * leadingBit + M.toNat) := by
  show ((sign negative).toBitVec ++ E ++ M).toNat = _
  rw [BitVec.toNat_append, ← Nat.shiftLeft_add_eq_or_of_lt M.isLt, BitVec.toNat_append,
    ← Nat.shiftLeft_add_eq_or_of_lt E.isLt, Nat.shiftLeft_eq, Nat.shiftLeft_eq, leadingBit]
  cases negative
  · show (0 * 2048 + E.toNat) * 4503599627370496 + M.toNat = _
    simp
  · show (1 * 2048 + E.toNat) * 4503599627370496 + M.toNat = _
    simp
    omega

/-- **A packed finite double** has the bits of its sign, its exponent and its significand. -/
theorem toNat_pack {negative : Bool} (h : IsCanonical m e) :
    (UnpackedFloat.pack Format.binary64 (.finite (sign negative) m e h.pos)).toNat =
      bitsOf negative m e := by
  obtain ⟨hpos, hlt, hleast, hmost, hnormal⟩ := h
  rw [leadingBit] at hlt hnormal
  have hbits : Format.binary64.mantissaBits = 53 := rfl
  have hmod : (BitVec.ofNat 52 m).toNat = m % 0x10000000000000 := rfl
  have hexp : (BitVec.ofNat 11 (e + 1075).toNat).toNat = (e + 1075).toNat % 0x800 := rfl
  unfold UnpackedFloat.pack
  dsimp only
  rw [show (e + Format.binary64.exponentBias + Format.binary64.mantissaBitsWithoutImplicit).toNat =
      (e + 1075).toNat from congrArg Int.toNat (Int.add_assoc e 1023 52),
    if_neg (show ¬ 2048 ≤ (e + 1075).toNat + 1 by omega), hbits]
  by_cases hm : 0x10000000000000 ≤ m
  · have hlog : m.log2 = 52 := (Nat.log2_eq_iff (Nat.ne_of_gt hpos)).mpr (by omega)
    rw [if_pos (by omega), toNat_packComponents, bitsOf, hmod, hexp, leadingBit]
    omega
  · have hlog : m.log2 < 52 := (Nat.log2_lt (Nat.ne_of_gt hpos)).mpr (by omega)
    rw [if_neg (by omega), toNat_packComponents, bitsOf, hmod, leadingBit]
    show _ + (0 * 0x10000000000000 + m % 0x10000000000000) = _
    omega

/-! ## 4. Doubles from their fields -/

/-- What the bits of a finite double say. -/
theorem fields_of_toNat {negative : Bool} (h : IsCanonical m e)
    (hx : x.toBits.toNat = bitsOf negative m e) :
    isNegative x = negative ∧ exponentField x ≠ 2047 ∧ significand x = m ∧ binaryExponent x = e := by
  obtain ⟨hpos, hlt, hleast, hmost, hnormal⟩ := h
  rw [leadingBit] at hlt hnormal
  rw [isNegative_eq, significand, binaryExponent, exponentField, significandField, hx, bitsOf,
    leadingBit]
  generalize hs : (if negative = true then 0x8000000000000000 else 0) = s
  have hs : negative = true ∧ s = 0x8000000000000000 ∨ negative = false ∧ s = 0 := by
    cases negative <;> simp [← hs]
  refine ⟨?_, ?_, ?_, ?_⟩
  · rcases hs with ⟨rfl, rfl⟩ | ⟨rfl, rfl⟩
    · exact decide_eq_true (by omega)
    · exact decide_eq_false (by omega)
  · omega
  · split <;> omega
  · omega

/-- The bits of a double from its three fields. -/
theorem toNat_eq (x : Float) : x.toBits.toNat =
    (if isNegative x then 0x8000000000000000 else 0) + (exponentField x * leadingBit +
      significandField x) := by
  have hlt : x.toBits.toNat < 0x10000000000000000 := x.toBits.toBitVec.isLt
  rw [isNegative_eq, exponentField, significandField, leadingBit]
  simp only [decide_eq_true_eq]
  split <;> omega

theorem toNat_eq_bitsOf (x : Float) :
    x.toBits.toNat = bitsOf (isNegative x) (significand x) (binaryExponent x) := by
  have hE : exponentField x < 0x800 := Nat.mod_lt _ (by decide)
  rw [toNat_eq, bitsOf, binaryExponent]
  by_cases hz : exponentField x = 0
  · rw [significand_of_zero hz, hz]
    rfl
  · rw [significand_of_ne_zero hz, leadingBit]
    omega

/-- A double is known by its sign and its two fields. -/
theorem eq_of_fields (hn : isNegative x = isNegative y) (he : exponentField x = exponentField y)
    (hs : significandField x = significandField y) : x = y :=
  eq_of_toNat_eq (by
    show x.toBits.toNat = y.toBits.toNat
    rw [toNat_eq, toNat_eq, hn, he, hs])

/-- The double of the sign, the significand and the exponent given. -/
def ofParts (negative : Bool) (h : IsCanonical m e) : Float :=
  .ofModel (.pack (.finite (sign negative) m e h.pos))

theorem ofParts_eq (he : exponentField x ≠ 2047) (hs : 0 < significand x) :
    ofParts (isNegative x) (isCanonical he hs) = x :=
  eq_of_toNat_eq ((toNat_pack (isCanonical he hs)).trans (toNat_eq_bitsOf x).symm)

/-- **A double made of three parts is unpacked into them.** -/
theorem unpack_ofParts {negative : Bool} (h : IsCanonical m e) :
    (ofParts negative h).toModel.unpack = .finite (sign negative) m e h.pos := by
  obtain ⟨hn, he, hs, hq⟩ := fields_of_toNat (x := ofParts negative h) h (toNat_pack h)
  rw [unpack_finite he (by rw [hs]; exact h.pos)]
  exact finite_congr (congrArg sign hn) hs hq

end Measures.Double
