/-!
# The two zeros

A double is compared after its bits have been unpacked into a sign, a mantissa and an exponent, and
on unpacked doubles the sign of a zero does not count. So equality to zero, as the machine decides
it, is not equality of bits: `beq_zero_iff` says which two doubles pass.
-/

namespace Measures.Double

open Float.Model (Format UnpackedFloat)

/-- **Bits that are unpacked as a zero** have no bit set but, perhaps, that of the sign. -/
theorem toNat_of_unpack_zero {b : BitVec 64} {s : UnpackedFloat.Sign}
    (h : UnpackedFloat.unpack Format.binary64 b = .zero s) :
    b.toNat = 0 ∨ b.toNat = 0x8000000000000000 := by
  have hlt := b.isLt
  unfold UnpackedFloat.unpack at h
  dsimp only at h
  by_cases hones : @UnpackedFloat.unpackExponent Format.binary64 b = -1#_
  · rw [if_pos hones] at h
    by_cases hman : @UnpackedFloat.unpackMantissa Format.binary64 b = 0#_
    · rw [if_pos hman] at h
      cases h
    · rw [if_neg hman] at h
      cases h
  · rw [if_neg hones] at h
    by_cases hexp : @UnpackedFloat.unpackExponent Format.binary64 b = 0#_
    · rw [if_pos hexp] at h
      by_cases hman : @UnpackedFloat.unpackMantissa Format.binary64 b = 0#_
      · have he : b.toNat >>> 52 % 2048 = 0 := by
          simpa [UnpackedFloat.unpackExponent, Format.binary64] using congrArg BitVec.toNat hexp
        have hm : b.toNat % 4503599627370496 = 0 := by
          simpa [UnpackedFloat.unpackMantissa, Format.binary64] using congrArg BitVec.toNat hman
        rw [Nat.shiftRight_eq_div_pow] at he
        omega
      · rw [dif_neg hman] at h
        cases h
    · rw [if_neg hexp] at h
      cases h

/-- Doubles of the same bits are the same. -/
theorem eq_of_toNat_eq {x y : Float} (h : x.toModel.toBits.toNat = y.toModel.toBits.toNat) :
    x = y := by
  obtain ⟨⟨b, _⟩⟩ := x
  obtain ⟨⟨b', _⟩⟩ := y
  obtain rfl := UInt64.toNat_inj.mp h
  rfl

/-- What compares as equal to zero is unpacked as a zero. -/
theorem unpack_of_beq_zero {x : Float} (h : (x == 0.0) = true) :
    ∃ s, x.toModel.unpack = .zero s := by
  have hc : x.toModel.unpack.compare (.zero .positive) = some .eq := eq_of_beq h
  cases hu : x.toModel.unpack with
  | zero s => exact ⟨s, rfl⟩
  | notANumber =>
    rw [hu] at hc
    cases hc
  | infinity s =>
    rw [hu] at hc
    cases s <;> cases hc
  | finite s m e hm =>
    rw [hu] at hc
    cases s <;> cases hc

/-- **Two doubles compare as equal to zero**: zero with either sign. -/
theorem beq_zero_iff {x : Float} : (x == 0.0) = true ↔ x = 0.0 ∨ x = -0.0 := by
  constructor
  · intro h
    obtain ⟨s, hs⟩ := unpack_of_beq_zero h
    rcases toNat_of_unpack_zero hs with hn | hn
    · exact .inl (eq_of_toNat_eq hn)
    · exact .inr (eq_of_toNat_eq hn)
  · intro h
    rcases h with rfl | rfl <;> rfl

end Measures.Double
