import Measures.Proofs.Decimal.Layout
import Measures.Proofs.Decimal.Writing
import Measures.Proofs.Double.Exact

/-!
# Writing and reading back

The writer takes the first short text that reads back, and the whole decimal expansion if none does.
The expansion is the double exactly, and a decimal fraction that is a double is read as it. So every
text that is written reads back as the very same double, the sign of a zero included, and no two
doubles are written alike.

* `exists_shortest`: what is written for a finite double other than zero;
* `exists_numeral?_write`: what the text of a finite double denotes, and its shape;
* `numeral?_write`, `read?_write`: reading back, for every double;
* `write_injective`.
-/

namespace Measures.Decimal

open Double (IsPositive isCanonical ofParts ofParts_eq unpack_ofParts isPositive_ofParts
  magnitude_exact size eq_of_fields eq_of_toNat_eq)

variable {f : Format} {x y : Float} {d : Nat} {e : Int}

/-! ## 1. Numbers and signs -/

/-- Only a text that writes `x` reads back as `x`. -/
theorem readsBack_iff {cs : List Char} :
    readsBack cs x = true ↔ ∃ n, numeral? cs = some n ∧ n.value = x := by
  unfold readsBack
  cases hn : numeral? cs with
  | none => simp
  | some n =>
    simp only [Option.some.injEq, beq_iff_eq, exists_eq_left']
    exact ⟨fun h => eq_of_toNat_eq (congrArg UInt64.toNat h), fun h => h ▸ rfl⟩

/-- A minus before a positive double sets its sign. -/
theorem neg_ofParts {m : Nat} {q : Int} (h : Double.IsCanonical m q) :
    -ofParts false h = ofParts true h := by
  show Float.ofModel (.pack (ofParts false h).toModel.unpack.neg) = _
  rw [unpack_ofParts h]
  rfl

/-- **A decimal fraction that is a finite double but for the sign**, with the sign before it. -/
theorem signed_magnitude (he : exponentField x ≠ 2047) (hs : 0 < significand x)
    (hv : (d : ℚ) * 10 ^ e = size x) : signed (isNegative x) (magnitude d e) = x := by
  have hc := isCanonical he hs
  obtain ⟨hp, hm, hq⟩ := isPositive_ofParts hc
  have hx := ofParts_eq he hs
  rw [magnitude_exact hp (by rw [hv, size, size, hm, hq])]
  cases hn : isNegative x with
  | false => rwa [hn] at hx
  | true =>
    rw [hn] at hx
    exact (neg_ofParts hc).trans hx

/-- The decimal expansion of a double is the double. -/
theorem ofBinary_value (m : Nat) (q : Int) :
    ((Scaled.ofBinary m q).digits : ℚ) * 10 ^ (Scaled.ofBinary m q).exponent = m * 2 ^ q := by
  unfold Scaled.ofBinary
  by_cases hq : 0 ≤ q
  · rw [if_pos hq]
    show ((m <<< q.toNat : Nat) : ℚ) * 10 ^ (0 : Int) = _
    rw [Nat.shiftLeft_eq, zpow_zero, mul_one, Nat.cast_mul, Nat.cast_pow, Nat.cast_ofNat,
      ← zpow_natCast, Int.toNat_of_nonneg hq]
  · rw [if_neg hq]
    show ((m * 5 ^ (-q).toNat : Nat) : ℚ) * 10 ^ q = _
    have hfive : (5 : ℚ) ^ (-q) * 10 ^ q = 2 ^ q := by
      rw [show (10 : ℚ) = 5 * 2 by norm_num, mul_zpow, ← mul_assoc, ← zpow_add₀ (by norm_num),
        neg_add_cancel, zpow_zero, one_mul]
    rw [Nat.cast_mul, Nat.cast_pow, Nat.cast_ofNat, ← zpow_natCast, Int.toNat_of_nonneg (by omega),
      mul_assoc, hfive]

theorem ofBinary_digits_pos {m : Nat} (hm : 0 < m) (q : Int) : 0 < (Scaled.ofBinary m q).digits := by
  unfold Scaled.ofBinary
  split
  · exact Nat.shiftLeft_eq m _ ▸ Nat.mul_pos hm (Nat.two_pow_pos _)
  · exact Nat.mul_pos hm (Nat.pow_pos (by decide))

/-- A number and its neighbours have a digit other than zero. -/
theorem digits_pos_of_mem_candidates {s c : Scaled} (hs : 0 < s.digits) (hc : c ∈ s.candidates) :
    0 < c.digits := by
  obtain ⟨n, _, hc⟩ := List.mem_flatMap.mp hc
  have hbelow : 0 < s.digits / Nat.pow 10 ((Nat.toDigits 10 s.digits).length - (n + 1)) := by
    refine Nat.div_pos ?_ (Nat.pow_pos (by decide))
    refine (Nat.pow_le_pow_right (by decide) ?_).trans (length_toDigits_bounds hs).1
    omega
  have hmem : c.digits = s.digits / Nat.pow 10 ((Nat.toDigits 10 s.digits).length - (n + 1)) ∨
      c.digits = s.digits / Nat.pow 10 ((Nat.toDigits 10 s.digits).length - (n + 1)) + 1 := by
    unfold Scaled.neighbours at hc
    dsimp only at hc
    split at hc
    · rcases List.mem_pair.mp hc with rfl | rfl
      · exact .inl rfl
      · exact .inr rfl
    · rcases List.mem_pair.mp hc with rfl | rfl
      · exact .inr rfl
      · exact .inl rfl
  omega

/-! ## 2. Written numbers -/

/-- The decimal fraction that is written for a finite double other than zero: it has a digit other
    than zero, and its text reads back. -/
theorem exists_shortest (f : Format) (he : exponentField x ≠ 2047) (hs : 0 < significand x) :
    ∃ c : Scaled, 0 < c.digits ∧
      f.shortest x = signText (isNegative x) ++ f.text c.digits c.exponent ∧
      readsBack (f.shortest x) x = true := by
  unfold Format.shortest
  dsimp only
  have hpos := ofBinary_digits_pos hs (binaryExponent x)
  have hvalue := ofBinary_value (significand x) (binaryExponent x)
  generalize Scaled.ofBinary (significand x) (binaryExponent x) = exact at hpos hvalue ⊢
  cases hfind : exact.candidates.find? fun c =>
      readsBack (signText (isNegative x) ++ f.text c.digits c.exponent) x with
  | some c =>
    have hback := @List.find?_some _ (fun c : Scaled =>
      readsBack (signText (isNegative x) ++ f.text c.digits c.exponent) x) _ _ hfind
    exact ⟨c, digits_pos_of_mem_candidates hpos (List.mem_of_find?_eq_some hfind), rfl, hback⟩
  | none =>
    -- no candidate reads back: the expansion itself does, as it is the double
    refine ⟨exact, hpos, rfl, readsBack_iff.mpr ?_⟩
    obtain ⟨d, e, hread, hv, _⟩ := f.exists_numeral?_text hpos exact.exponent (isNegative x)
    exact ⟨_, hread, signed_magnitude he hs (hv.trans hvalue)⟩

theorem write_shortest (he : exponentField x ≠ 2047) (hs : 0 < significand x) :
    (f.write x).toList = f.shortest x := by
  rw [Format.write, String.toList_ofList, if_neg he, if_neg hs.ne']

theorem write_zero (he : exponentField x ≠ 2047) (hs : significand x = 0) :
    (f.write x).toList = signText (isNegative x) ++ ['0', '.', '0'] := by
  rw [Format.write, String.toList_ofList, if_neg he, if_pos hs]

theorem write_infinite (he : exponentField x = 2047) (hs : significandField x = 0) :
    (f.write x).toList = signText (isNegative x) ++ ['i', 'n', 'f'] := by
  rw [Format.write, String.toList_ofList, if_pos he, if_pos hs]

theorem write_undefined (he : exponentField x = 2047) (hs : significandField x ≠ 0) :
    (f.write x).toList = ['n', 'a', 'n'] := by
  rw [Format.write, String.toList_ofList, if_pos he, if_neg hs]

/-- A zero is the zero of its sign. -/
theorem signed_zero_eq (hs : significand x = 0) : signed (isNegative x) (magnitude 0 (-1)) = x := by
  obtain ⟨he, hm⟩ := Double.fields_of_zero hs
  refine eq_of_fields ?_ ?_ ?_
  · cases isNegative x <;> rfl
  · rw [he]
    cases isNegative x <;> rfl
  · rw [hm]
    cases isNegative x <;> rfl

/-- An infinity is the infinity of its sign. -/
theorem signed_infinite_eq (he : exponentField x = 2047) (hs : significandField x = 0) :
    signed (isNegative x) (1.0 / 0.0) = x := by
  refine eq_of_fields ?_ ?_ ?_
  · cases isNegative x <;> rfl
  · rw [he]
    cases isNegative x <;> rfl
  · rw [hs]
    cases isNegative x <;> rfl

/-- There is one double that is no number. -/
theorem undefined_eq (he : exponentField x = 2047) (hs : significandField x ≠ 0) :
    (0.0 / 0.0 : Float) = x := by
  have hbits := x.toModel.valid.eq_packedNaN
    ((Double.exponent_eq_iff x (-1#11)).mpr he) fun h => hs ((Double.mantissa_eq_iff x 0#52).mp h)
  exact eq_of_toNat_eq (congrArg BitVec.toNat hbits).symm

/-- **A finite number reads back from its text.** -/
theorem exists_numeral?_write (f : Format) (he : exponentField x ≠ 2047) :
    ∃ negative d e, numeral? (f.write x).toList = some (.finite negative d e) ∧
      (Numeral.finite negative d e).value = x ∧
      if d = 0 ∨ (10 : ℚ) ^ f.leastPositional ≤ d * 10 ^ e ∧
          (d : ℚ) * 10 ^ e < 10 ^ (f.mostPositional + 1)
        then IsPositional (f.write x).toList else IsExponential (f.write x).toList := by
  by_cases hs : significand x = 0
  · rw [write_zero he hs]
    have hpoint : IsPoint ['0', '.', '0'] ['0'] ['0'] := ⟨rfl, by decide, by decide⟩
    refine ⟨_, _, _, hpoint.numeral? (isNegative x), signed_zero_eq hs, ?_⟩
    rw [if_pos (.inl rfl)]
    exact ⟨_, _, _, _, rfl, hpoint⟩
  · have hs : 0 < significand x := Nat.pos_of_ne_zero hs
    obtain ⟨c, hc, htext, hback⟩ := exists_shortest f he hs
    obtain ⟨n, hread, hvalue⟩ := readsBack_iff.mp hback
    obtain ⟨d, e, hread', hv, hshape⟩ := f.exists_numeral?_text hc c.exponent (isNegative x)
    rw [write_shortest he hs]
    rw [htext] at hread ⊢
    obtain rfl : n = _ := Option.some.inj (hread.symm.trans hread')
    have hd : d ≠ 0 := by
      rintro rfl
      have hpos : (0 : ℚ) < c.digits * 10 ^ c.exponent := by positivity
      rw [← hv, Nat.cast_zero, zero_mul] at hpos
      exact absurd hpos (lt_irrefl _)
    refine ⟨_, d, e, hread', hvalue, ?_⟩
    rw [hv]
    simpa only [hd, false_or] using hshape

/-- **Reading a written number gives the number back**, whatever the number and the format. -/
theorem numeral?_write (f : Format) (x : Float) :
    ∃ n, numeral? (f.write x).toList = some n ∧ n.value = x := by
  by_cases he : exponentField x = 2047
  · by_cases hs : significandField x = 0
    · rw [write_infinite he hs]
      refine ⟨.infinite (isNegative x), ?_, signed_infinite_eq he hs⟩
      cases isNegative x <;> decide
    · rw [write_undefined he hs]
      exact ⟨.undefined, by decide, undefined_eq he hs⟩
  · obtain ⟨negative, d, e, hread, hvalue, _⟩ := exists_numeral?_write f he
    exact ⟨_, hread, hvalue⟩

theorem read?_write (f : Format) (x : Float) : read? (f.write x) = some x := by
  obtain ⟨n, hread, hvalue⟩ := numeral?_write f x
  rw [read?_of_not_blank fun c hc => isBlank_of_mem_write hc, hread]
  exact congrArg some hvalue

theorem write_ne_nil (f : Format) (x : Float) : (f.write x).toList ≠ [] := by
  intro hnil
  obtain ⟨n, hread, _⟩ := numeral?_write f x
  rw [hnil] at hread
  cases hread

/-- **No two numbers are written alike.** -/
theorem write_injective (h : f.write x = f.write y) : x = y := by
  obtain ⟨n, hn, hx⟩ := numeral?_write f x
  obtain ⟨n', hn', hy⟩ := numeral?_write f y
  rw [← h, hn] at hn'
  obtain rfl := Option.some.inj hn'
  exact hx.symm.trans hy

end Measures.Decimal
