import Mathlib.Tactic.Linarith
import Mathlib.Tactic.NormNum
import Mathlib.Tactic.Ring
import Measures.Proofs.Catalog.Standard

/-!
# Conversions fit together

A conversion changes the unit and leaves the quantity as it is. On doubles this holds up to rounding
only; on exact numbers it holds as it stands. There is a size of every quantity that does not depend
on the unit it is given in, the number of meters, of grams or of kelvins, and the six formulas and
the scaling keep it. So one conversion after another is the conversion from the first unit to the
last, and there and back is the amount one started from.

* `valueOver`, `valueOver_doubles`: the conversion over any numbers; on doubles it is the one that
  runs;
* `Keeps`, `Keeps.compose`: what follows from a size that all conversions keep;
* `keeps_linear`, `keeps_temperatures`: the sizes;
* `exactValue_compose`: the two together.
-/

namespace Measures

/-! ## 1. Conversion over any numbers -/

/-- The value that an amount of `u` has in `v`, over any numbers. The scale of each measure is given,
    and what it is not possible to divide by. -/
def valueOver {α : Type} [OfScientific α] [Add α] [Sub α] [Mul α] [Div α] (isZero : α → Bool)
    (scale : Measure → α) (x : α) (u v : Measure) : Except Fault α :=
  (Rule.between? u v).bind fun r =>
    if r = .scaling ∧ isZero (scale v) then .error .zeroScale
    else .ok (r.eval x (scale u) (scale v))

/-- **On doubles this is the conversion that runs**, with the scales that the measures have. -/
theorem valueOver_doubles (x : Float) (u v : Measure) :
    valueOver (· == 0.0) Measure.scale x u v = value x u v := rfl

/-- The value by exact arithmetic. -/
def exactValue (scale : Measure → ℚ) (x : ℚ) (u v : Measure) : Except Fault ℚ :=
  valueOver (fun s => decide (s = 0)) scale x u v

section

variable {scale : Measure → ℚ} {u v : Measure} {f : Formula}

theorem exactValue_same (x : ℚ) (hk : u.key = v.key) : exactValue scale x u v = .ok x := by
  have hr : Rule.between? u v = .ok .same := if_pos hk
  rw [exactValue, valueOver, hr]
  rfl

theorem exactValue_scaled (x : ℚ) (hk : u.key ≠ v.key)
    (hl : u.category = .length ∨ u.category = .weight) (hv : scale v ≠ 0) :
    exactValue scale x u v = .ok (x * scale u / scale v) := by
  rw [exactValue, valueOver, Rule.between?_of_linear hk hl]
  exact if_neg fun h => hv (of_decide_eq_true h.2)

theorem exactValue_formula (x : ℚ) (hk : u.key ≠ v.key)
    (hl : ¬ (u.category = .length ∨ u.category = .weight))
    (hf : ((u.key, v.key), f) ∈ Formula.table) : exactValue scale x u v = .ok (f.apply x) := by
  rw [exactValue, valueOver, Rule.between?_of_not_linear hk hl,
    Formula.between?_eq_some_iff.mpr hf]
  rfl

end

/-! ## 2. Sizes that conversions keep -/

/-- A size of amounts that every conversion between the measures keeps, and that tells the amounts
    of one measure apart. -/
structure Keeps (scale : Measure → ℚ) (ms : List Measure) (size : Measure → ℚ → ℚ) : Prop where
  kept : ∀ u ∈ ms, ∀ v ∈ ms, ∀ x, ∃ y, exactValue scale x u v = .ok y ∧ size v y = size u x
  injective : ∀ u ∈ ms, Function.Injective (size u)

/-- **Where a size is kept, conversions compose.** -/
theorem Keeps.compose {scale : Measure → ℚ} {ms : List Measure} {size : Measure → ℚ → ℚ}
    (h : Keeps scale ms size) {a b c : Measure} (ha : a ∈ ms) (hb : b ∈ ms) (hc : c ∈ ms) (x : ℚ) :
    ∃ y z, exactValue scale x a b = .ok y ∧ exactValue scale y b c = .ok z ∧
      exactValue scale x a c = .ok z := by
  obtain ⟨y, hy, hsize⟩ := h.kept a ha b hb x
  obtain ⟨z, hz, hsize'⟩ := h.kept b hb c hc y
  obtain ⟨w, hw, hsize''⟩ := h.kept a ha c hc x
  have hzw : z = w := h.injective c hc (by rw [hsize', hsize, hsize''])
  exact ⟨y, z, hy, hz, hzw ▸ hw⟩

/-- The number of base units in an amount of a length or a weight. -/
def baseSize (scale : Measure → ℚ) (u : Measure) (x : ℚ) : ℚ := x * scale u

/-- **Scaling keeps the number of base units.** -/
theorem keeps_linear {scale : Measure → ℚ} {ms : List Measure} {k : Category}
    (hk : k = .length ∨ k = .weight) (hms : ∀ m ∈ ms, m.category = k ∧ scale m ≠ 0)
    (hkeys : ∀ u ∈ ms, ∀ v ∈ ms, u.key = v.key → u = v) : Keeps scale ms (baseSize scale) where
  kept := by
    intro u hu v hv x
    by_cases hkey : u.key = v.key
    · obtain rfl := hkeys u hu v hv hkey
      exact ⟨x, exactValue_same x rfl, rfl⟩
    · obtain ⟨hcat, _⟩ := hms u hu
      obtain ⟨_, hzero⟩ := hms v hv
      exact ⟨_, exactValue_scaled x hkey (hcat ▸ hk) hzero, div_mul_cancel₀ _ hzero⟩
  injective := fun u hu _ _ h => mul_right_cancel₀ (hms u hu).2 h

/-- The number of kelvins in a temperature on the scale with the key given. -/
def kelvins (key : String) (x : ℚ) : ℚ :=
  if key = "celsius" then x + 273.15
  else if key = "fahrenheit" then (x + 459.67) * 5 / 9
  else x

@[simp] theorem kelvins_celsius (x : ℚ) : kelvins "celsius" x = x + 273.15 := if_pos rfl

@[simp] theorem kelvins_fahrenheit (x : ℚ) : kelvins "fahrenheit" x = (x + 459.67) * 5 / 9 :=
  (if_neg (by decide)).trans (if_pos rfl)

@[simp] theorem kelvins_kelvin (x : ℚ) : kelvins "kelvin" x = x :=
  (if_neg (by decide)).trans (if_neg (by decide))

theorem kelvins_injective (key : String) : Function.Injective (kelvins key) := by
  intro x y h
  unfold kelvins at h
  split at h
  · linarith
  · split at h
    · linarith
    · exact h

/-- **Each of the six formulas keeps the number of kelvins.** -/
theorem kelvins_eq {x y : ℚ} {source target : String} (h : ConvertsTemperature x source target y) :
    kelvins target y = kelvins source x := by
  cases h <;> norm_num <;> ring

/-- So conversions between the temperatures of the standard catalog keep it. -/
theorem keeps_temperatures (scale : Measure → ℚ) {ms : List Measure}
    (hms : ∀ m ∈ ms, m ∈ Catalog.standard.measures ∧ m.category = .temperature) :
    Keeps scale ms fun m => kelvins m.key where
  kept := by
    intro u hu v hv x
    by_cases hkey : u.key = v.key
    · exact ⟨x, exactValue_same x hkey, by rw [hkey]⟩
    · obtain ⟨hu, hcu⟩ := hms u hu
      obtain ⟨hv, hcv⟩ := hms v hv
      have hl : ¬ (u.category = .length ∨ u.category = .weight) := by rw [hcu]; decide
      have hjoined := Catalog.standard_convertible.joined u hu v hv (hcu.trans hcv.symm) hl hkey
      obtain ⟨⟨keys, f⟩, hf, rfl⟩ := List.mem_map.mp hjoined
      exact ⟨_, exactValue_formula x hkey hl hf,
        kelvins_eq (convertsTemperature_iff.mpr ⟨f, hf, rfl⟩)⟩
  injective := fun u _ => kelvins_injective u.key

/-! ## 3. Composition -/

/-- Measures that are taken together: temperatures of the standard catalog; or lengths, or weights,
    of any scales but zero, where a key stands for one measure. -/
inductive Together (scale : Measure → ℚ) (ms : List Measure) : Prop where
  | temperatures (hms : ∀ m ∈ ms, m ∈ Catalog.standard.measures ∧ m.category = .temperature)
  | linear {k : Category} (hk : k = .length ∨ k = .weight)
      (hms : ∀ m ∈ ms, m.category = k ∧ scale m ≠ 0)
      (hkeys : ∀ u ∈ ms, ∀ v ∈ ms, u.key = v.key → u = v)

/-- **Conversions compose.** In exact arithmetic, for any amount and any three measures that are
    taken together, to convert from the first to the second and then to the third gives the value
    that the conversion from the first to the third gives, and to convert to the second and back
    gives the amount. -/
theorem exactValue_compose {scale : Measure → ℚ} {a b c : Measure} (h : Together scale [a, b, c])
    (x : ℚ) : ∃ y z, exactValue scale x a b = .ok y ∧ exactValue scale y b c = .ok z ∧
      exactValue scale x a c = .ok z ∧ exactValue scale y b a = .ok x := by
  have hkeeps : ∃ size, Keeps scale [a, b, c] size := by
    cases h with
    | temperatures hms => exact ⟨_, keeps_temperatures scale hms⟩
    | linear hk hms hkeys => exact ⟨_, keeps_linear hk hms hkeys⟩
  obtain ⟨size, hkeeps⟩ := hkeeps
  have ha : a ∈ [a, b, c] := by simp
  have hb : b ∈ [a, b, c] := by simp
  have hc : c ∈ [a, b, c] := by simp
  obtain ⟨y, z, hy, hz, hxz⟩ := hkeeps.compose ha hb hc x
  obtain ⟨y', x', hy', hback, hsame⟩ := hkeeps.compose ha hb ha x
  obtain rfl : y = y' := Except.ok.inj (hy.symm.trans hy')
  obtain rfl : x = x' := Except.ok.inj ((exactValue_same x rfl).symm.trans hsame)
  exact ⟨y, z, hy, hz, hxz, hback⟩

/-- Boiling water on the three scales. -/
theorem exactValue_compose_boiling :
    let celsius := Measure.temperature "celsius"
      ["c", "dc", "celsius", "degree Celsius", "degrees Celsius"]
    let fahrenheit := Measure.temperature "fahrenheit"
      ["f", "df", "fahrenheit", "degree Fahrenheit", "degrees Fahrenheit"]
    let kelvin := Measure.temperature "kelvin"
      ["k", "kelvin", "kelvins", "degree Kelvin", "degrees Kelvin"]
    Together (fun _ => 1) [celsius, fahrenheit, kelvin] ∧
      exactValue (fun _ => 1) 100 celsius fahrenheit = .ok 212 ∧
      exactValue (fun _ => 1) 212 fahrenheit kelvin = .ok 373.15 ∧
      exactValue (fun _ => 1) 100 celsius kelvin = .ok 373.15 ∧
      exactValue (fun _ => 1) 212 fahrenheit celsius = .ok 100 := by
  intro celsius fahrenheit kelvin
  have htogether : Together (fun _ => 1) [celsius, fahrenheit, kelvin] := .temperatures (by decide)
  obtain ⟨y, z, hy, hz, hxz, hback⟩ := exactValue_compose htogether 100
  have hf : exactValue (fun _ => 1) 100 celsius fahrenheit = .ok 212 := by
    rw [exactValue_formula (f := .celsiusToFahrenheit) 100 (by decide) (by decide) (by decide)]
    norm_num [Formula.apply]
  have hk : exactValue (fun _ => 1) 100 celsius kelvin = .ok 373.15 := by
    rw [exactValue_formula (f := .celsiusToKelvin) 100 (by decide) (by decide) (by decide)]
    norm_num [Formula.apply]
  obtain rfl : 212 = y := Except.ok.inj (hf.symm.trans hy)
  obtain rfl : 373.15 = z := Except.ok.inj (hk.symm.trans hxz)
  exact ⟨htogether, hf, hz, hk, hback⟩

end Measures
