import Measures.Proofs.Double.Rounding
import Measures.Proofs.Minus

/-!
# When a conversion overflows

A length or a weight goes through its base unit: the amount is multiplied by one scale first and then
divided by the other. So the amount has to be a double in base units for the value to be one. An
amount that is a double in its own units and in those asked for, but not in base units, is answered
by infinity. This is the only way that a value comes to be infinite while the number it stands for is
not too large.

* `isFinite_scaled_iff`: which scaled values are finite, for any scales;
* `writeNumber_eq_inf_iff`: what is written for those that are not;
* `Catalog.standard_overflow_iff`: the values of the standard catalog;
* `Catalog.exists_overflow`: a distance that is a double in kilometers and in miles, but not in
  meters.
-/

namespace Measures

open Double (IsPositive size greatest overflowBound)
open Decimal (isNegative exponentField significand binaryExponent)

variable {x s t : Float}

/-! ## 1. Scaled values -/

/-- What is not below zero has no sign, unless it is a negative zero. -/
theorem sign_of_not_lt (hx : ¬ x < 0.0) : isNegative x = false ∨ x = -0.0 := by
  rw [Double.lt_zero_iff] at hx
  cases hn : isNegative x with
  | false => exact .inl rfl
  | true => exact .inr (not_not.mp fun h => hx ⟨hn, h⟩)

/-- What is too large in base units is no zero. -/
theorem significand_pos_of_le (h : overflowBound ≤ size x * size s) : 0 < significand x := by
  refine Nat.pos_of_ne_zero fun hzero => absurd h (not_le.mpr ?_)
  rw [size, hzero, Nat.cast_zero, zero_mul, zero_mul]
  norm_num [overflowBound, Decimal.leadingBit]

/-- **An amount that is too large in base units** is scaled to infinity. -/
theorem scaled_eq_infinity (hf : x.isFinite = true) (hx : ¬ x < 0.0) (hs : IsPositive s)
    (ht : IsPositive t) (h : overflowBound ≤ size x * size s) : scaled x s t = 1.0 / 0.0 := by
  have hpos := significand_pos_of_le h
  have hsign : isNegative x = false := by
    refine (sign_of_not_lt hx).resolve_right ?_
    rintro rfl
    exact absurd hpos (by decide)
  exact Double.mul_div_of_le ⟨hsign, (Double.isFinite_iff x).mp hf, hpos⟩ hs ht h

/-- **If the exact value is not too large, the scaled one is finite** exactly if the amount in base
    units is not too large either. -/
theorem isFinite_scaled_iff (hf : x.isFinite = true) (hx : ¬ x < 0.0) (hs : IsPositive s)
    (ht : IsPositive t) (hq : size x * size s / size t ≤ greatest) :
    (scaled x s t).isFinite = true ↔ size x * size s < overflowBound := by
  constructor
  · intro hfinite
    by_contra hle
    rw [scaled_eq_infinity hf hx hs ht (not_lt.mp hle)] at hfinite
    exact absurd hfinite (by decide)
  · intro h
    rcases sign_of_not_lt hx with hsign | rfl
    · have hpos : 0 < size t := lt_of_lt_of_le (by positivity) (Double.le_size ht)
      exact (Double.isFinite_iff _).mpr (Double.mul_div_of_lt ((Double.isFinite_iff x).mp hf) hsign
        hs ht ((div_le_iff₀ hpos).mp hq) h)
    · have hzero : scaled (-0.0) s t = -0.0 := by
        rw [scaled, Double.negZero_mul hs, Double.negZero_div ht]
      rw [hzero]
      decide

theorem writeNumber_infinity : writeNumber (1.0 / 0.0) = "inf" :=
  String.toList_inj.mp (Decimal.write_infinite (by decide) (by decide))

/-- Only infinity is written so. -/
theorem writeNumber_eq_inf_iff : writeNumber x = "inf" ↔ x = 1.0 / 0.0 :=
  ⟨fun h => Decimal.write_injective (h.trans writeNumber_infinity.symm),
    fun h => h ▸ writeNumber_infinity⟩

theorem ne_zero_of_isPositive (h : IsPositive x) : ¬ (x = 0.0 ∨ x = -0.0) := by
  have hpos := h.nonzero
  rintro (rfl | rfl) <;> exact absurd hpos (by decide)

/-! ## 2. Values of the standard catalog -/

namespace Catalog

variable {u v : Measure}

theorem standard_keys_nodup : (standard.measures.map Measure.key).Nodup := by decide

/-- **When the conversion of a length or a weight overflows.** Let the exact value of a finite amount
    that is not below zero be no larger than the greatest double. Then the value is finite exactly
    if the measures are the same or the exact amount in base units lies below `overflowBound`; if it
    does not, the value is written as `inf`. -/
theorem standard_overflow_iff (hu : u ∈ standard.measures) (hv : v ∈ standard.measures)
    (hl : (u.category = .length ∧ v.category = .length) ∨
      (u.category = .weight ∧ v.category = .weight))
    (hf : x.isFinite = true) (hx : ¬ x < 0.0)
    (hq : size x * size u.scale / size v.scale ≤ greatest) :
    ∃ a, convert x u v = .ok a ∧
      (a.value.isFinite = true ↔ u = v ∨ size x * size u.scale < overflowBound) ∧
      (writeNumber a.value = "inf" ↔ ¬ (u = v ∨ size x * size u.scale < overflowBound)) := by
  have hs := standard_sized u hu (hl.imp And.left And.left)
  have ht := standard_sized v hv (hl.imp And.right And.right)
  by_cases hk : u.key = v.key
  · obtain rfl := eq_of_key_eq standard_keys_nodup hu hv hk
    refine ⟨.ofValue x u u x, ?_, iff_of_true hf (.inl rfl), iff_of_false ?_ (not_not.mpr (.inl rfl))⟩
    · rw [convert_eq, value_eq_ok (.same rfl)]
      rfl
    · intro h
      rw [show x = 1.0 / 0.0 from writeNumber_eq_inf_iff.mp h] at hf
      exact absurd hf (by decide)
  · have hne : u ≠ v := fun h => hk (congrArg Measure.key h)
    have hfinite := isFinite_scaled_iff hf hx hs ht hq
    refine ⟨.ofValue x u v (scaled x u.scale v.scale), ?_, ?_, ?_⟩
    · rw [convert_eq,
        value_eq_ok (.scaled hk (hl.imp And.left And.left) (ne_zero_of_isPositive ht))]
      rfl
    · rw [or_iff_right hne]
      exact hfinite
    · rw [or_iff_right hne, ← hfinite]
      show writeNumber (scaled x u.scale v.scale) = "inf" ↔ _
      rw [writeNumber_eq_inf_iff]
      constructor
      · intro h
        rw [h]
        decide
      · intro h
        exact scaled_eq_infinity hf hx hs ht (not_lt.mp fun hlt => h (hfinite.mpr hlt))

theorem size_kilometer : size 1000.0 = 1000 :=
  (Double.isFull_of_isFullNat (n := 1000) (by decide)).size

/-- A distance in miles is no greater than it is in kilometers. -/
theorem size_mile_le (hf : x.isFinite = true) : size x * size 1000.0 / size 1609.35 ≤ greatest := by
  have hmile : size 1000.0 ≤ size 1609.35 := by
    have hs : significand 1609.35 = 7077996152645222 := by decide
    have he : binaryExponent 1609.35 = -42 := by decide
    rw [size_kilometer, size, hs, he]
    norm_num
  have hnonneg : 0 ≤ size x := mul_nonneg (Nat.cast_nonneg _) (by positivity)
  have hpos : 0 < size 1609.35 := lt_of_lt_of_le (by rw [size_kilometer]; norm_num) hmile
  calc size x * size 1000.0 / size 1609.35 ≤ size x :=
        (div_le_iff₀ hpos).mpr (mul_le_mul_of_nonneg_left hmile hnonneg)
    _ ≤ greatest := Double.size_le_greatest ((Double.isFinite_iff x).mp hf)

/-- In meters, a distance in kilometers lies below the bound or not according to its significand. -/
theorem kilometers_lt_iff (he : binaryExponent x = 962) :
    size x * size 1000.0 < overflowBound ↔ significand x ≤ 4611686018427387 := by
  have hsplit : (2 : ℚ) ^ (971 : Int) = 512 * 2 ^ (962 : Int) := by
    rw [show (971 : Int) = 9 + 962 by rfl, zpow_add₀ (by norm_num)]
    norm_num
  have hmeters : size x * 1000 = significand x * 1000 * 2 ^ (962 : Int) := by rw [size, he]; ring
  have hbound : overflowBound = (2 * Decimal.leadingBit - 1 / 2) * 512 * 2 ^ (962 : Int) := by
    rw [overflowBound, hsplit, mul_assoc]
  have hlimit : (2 * Decimal.leadingBit - 1 / 2 : ℚ) * 512 = 4611686018427387648 := by
    norm_num [Decimal.leadingBit]
  rw [size_kilometer, hmeters, hbound, mul_lt_mul_iff_left₀ (by positivity), hlimit]
  constructor
  · intro h
    have hnat : significand x * 1000 < 4611686018427387648 := by exact_mod_cast h
    omega
  · intro h
    have hnat : significand x * 1000 < 4611686018427387648 := by omega
    exact_mod_cast hnat

/-- The greatest distance in kilometers that does not overflow on the way to miles, and the next. -/
theorem standard_overflow_iff_mile :
    let kilometer : Measure := .length "kilometer" ["km", "kilometer", "kilometers"] 1000.0
    let mile : Measure := .length "mile" ["mi", "mile", "miles"] 1609.35
    (∃ a, convert 1.7976931348623156e305 kilometer mile = .ok a ∧ a.value.isFinite = true ∧
        writeNumber a.value ≠ "inf") ∧
      ∃ a, convert 1.797693134862316e305 kilometer mile = .ok a ∧ a.value.isFinite = false ∧
        writeNumber a.value = "inf" := by
  intro kilometer mile
  have hne : kilometer ≠ mile := by decide
  constructor
  · obtain ⟨hf, hx, he, hs⟩ : (1.7976931348623156e305 : Float).isFinite = true ∧
        ¬ (1.7976931348623156e305 : Float) < 0.0 ∧ binaryExponent 1.7976931348623156e305 = 962 ∧
          significand 1.7976931348623156e305 = 4611686018427387 := by decide +kernel
    have hasks := standard_asks_mile (x := 1.7976931348623156e305)
    obtain ⟨a, ha, hfinite, hwritten⟩ := standard_overflow_iff hasks.source_mem hasks.target_mem
      (.inl ⟨rfl, rfl⟩) hf hx (size_mile_le hf)
    have hlt := (kilometers_lt_iff he).mpr hs.le
    exact ⟨a, ha, hfinite.mpr (.inr hlt), fun h => hwritten.mp h (.inr hlt)⟩
  · obtain ⟨hf, hx, he, hs⟩ : (1.797693134862316e305 : Float).isFinite = true ∧
        ¬ (1.797693134862316e305 : Float) < 0.0 ∧ binaryExponent 1.797693134862316e305 = 962 ∧
          significand 1.797693134862316e305 = 4611686018427388 := by decide +kernel
    have hasks := standard_asks_mile (x := 1.797693134862316e305)
    obtain ⟨a, ha, hfinite, hwritten⟩ := standard_overflow_iff hasks.source_mem hasks.target_mem
      (.inl ⟨rfl, rfl⟩) hf hx (size_mile_le hf)
    have hle := (kilometers_lt_iff he).not.mpr (hs ▸ by decide)
    have hno := not_or.mpr ⟨hne, hle⟩
    exact ⟨a, ha, Bool.eq_false_iff.mpr (mt hfinite.mp hno), hwritten.mpr hno⟩

/-- Not every value is finite that is not too large: a distance that is a double in kilometers and
    in miles, but not in meters. -/
theorem exists_overflow :
    ¬ ∀ x u v, u ∈ standard.measures → v ∈ standard.measures →
      (u.category = .length ∧ v.category = .length) ∨
        (u.category = .weight ∧ v.category = .weight) →
      x.isFinite = true → ¬ x < 0.0 → size x * size u.scale / size v.scale ≤ greatest →
        ∃ a, convert x u v = .ok a ∧ a.value.isFinite = true := by
  intro h
  obtain ⟨hf, hx, hvalue⟩ : (1e306 : Float).isFinite = true ∧ ¬ (1e306 : Float) < 0.0 ∧
      convert 1e306 (.length "kilometer" ["km", "kilometer", "kilometers"] 1000.0)
        (.length "mile" ["mi", "mile", "miles"] 1609.35) =
          .ok ⟨1e306, 1.0 / 0.0, "kilometers", "miles"⟩ := by decide +kernel
  have hasks := standard_asks_mile (x := 1e306)
  obtain ⟨a, ha, hfinite⟩ := h 1e306 _ _ hasks.source_mem hasks.target_mem (.inl ⟨rfl, rfl⟩) hf hx
    (size_mile_le hf)
  rw [hvalue] at ha
  rw [← Except.ok.inj ha] at hfinite
  exact absurd hfinite (by decide)

end Catalog

end Measures
