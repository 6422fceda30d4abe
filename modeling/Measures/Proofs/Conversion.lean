import Mathlib.Data.List.Basic
import Measures.Answer
import Measures.Proofs.Catalog.Naming
import Measures.Proofs.Double.Zero

/-!
# What a conversion gives

The names that go with a number, and the value of an amount in another measure, said by the
spellings, keys, categories and scales of the two measures and not by the rule that was chosen.

* `IsLabel`, `isLabel_iff`: the last spelling, or the one before it with exactly one;
* `ConvertsTemperature`, `convertsTemperature_iff`: the six formulas, by the keys they belong to;
* `Converts`, `converts_iff`: the five ways in which a value comes about or fails to;
* `Converts.linear_value`, `Converts.failure_cases`: what a value and a failure tell of the measures.
-/

namespace Measures

/-! ## 1. The names that go with a number -/

/-- The last spelling of a measure. -/
def Measure.IsPlural (m : Measure) (s : String) : Prop := ∃ before, m.aliases = before ++ [s]

/-- The name that goes with a number. -/
inductive Measure.IsLabel (m : Measure) (x : Float) : String → Prop where
  /-- The only spelling goes with every number. -/
  | only {s : String} (h : m.aliases = [s]) : m.IsLabel x s
  /-- The last spelling but one goes with exactly one. -/
  | singular {before : List String} {s t : String} (h : m.aliases = before ++ [s, t])
      (hx : (x == 1.0) = true) : m.IsLabel x s
  /-- The last spelling goes with any other number, also with what is not a number. -/
  | plural {before : List String} {s t : String} (h : m.aliases = before ++ [s, t])
      (hx : (x == 1.0) = false) : m.IsLabel x t

namespace Measure

variable {m : Measure}

/-- A known measure has one spelling, or a last and a last but one. -/
theorem aliases_cases (hm : m.aliases ≠ []) :
    (∃ s, m.aliases = [s]) ∨ ∃ before s t, m.aliases = before ++ [s, t] := by
  obtain ⟨init, t, ht⟩ := (List.eq_nil_or_concat' m.aliases).resolve_left hm
  rcases List.eq_nil_or_concat' init with rfl | ⟨before, s, rfl⟩
  · exact .inl ⟨t, ht⟩
  · exact .inr ⟨before, s, t, by rw [ht, List.append_assoc]; rfl⟩

theorem plural_of_aliases {before : List String} {s : String} (h : m.aliases = before ++ [s]) :
    m.plural = s := by
  simp [plural, h]

theorem isPlural_iff (hm : m.aliases ≠ []) {s : String} : m.IsPlural s ↔ m.plural = s := by
  constructor
  · intro ⟨before, h⟩
    exact plural_of_aliases h
  · intro hs
    obtain ⟨before, t, h⟩ := (List.eq_nil_or_concat' m.aliases).resolve_left hm
    rw [plural_of_aliases h] at hs
    exact ⟨before, hs ▸ h⟩

theorem labelFor_of_isLabel {x : Float} {s : String} (h : m.IsLabel x s) : m.labelFor x = s := by
  cases h with
  | only h => simp [labelFor, singular, symbol, plural, h]
  | singular h hx => simp [labelFor, singular, h, hx]
  | plural h hx => simp [labelFor, plural, h, hx]

/-- **The label of a number is the one name that goes with it.** -/
theorem isLabel_iff (hm : m.aliases ≠ []) {x : Float} {s : String} :
    m.IsLabel x s ↔ m.labelFor x = s := by
  refine ⟨labelFor_of_isLabel, fun hs => ?_⟩
  have hlabel : ∃ t, m.IsLabel x t := by
    rcases aliases_cases hm with ⟨t, h⟩ | ⟨before, t, t', h⟩
    · exact ⟨t, .only h⟩
    · cases hx : x == 1.0 with
      | true => exact ⟨t, .singular h hx⟩
      | false => exact ⟨t', .plural h hx⟩
  obtain ⟨t, ht⟩ := hlabel
  have he : t = s := (labelFor_of_isLabel ht).symm.trans hs
  exact he ▸ ht

end Measure

/-! ## 2. Values -/

/-- The value that a temperature has on another scale, by the keys of the two scales. These six pairs
    are all that have a formula. -/
inductive ConvertsTemperature {α : Type} [OfScientific α] [Add α] [Sub α] [Mul α] [Div α] (x : α) :
    String → String → α → Prop where
  | celsiusToFahrenheit : ConvertsTemperature x "celsius" "fahrenheit" (x * 9.0 / 5.0 + 32.0)
  | fahrenheitToCelsius : ConvertsTemperature x "fahrenheit" "celsius" ((x - 32.0) * 5.0 / 9.0)
  | celsiusToKelvin : ConvertsTemperature x "celsius" "kelvin" (x + 273.15)
  | kelvinToCelsius : ConvertsTemperature x "kelvin" "celsius" (x - 273.15)
  | fahrenheitToKelvin : ConvertsTemperature x "fahrenheit" "kelvin" ((x + 459.67) * 5.0 / 9.0)
  | kelvinToFahrenheit : ConvertsTemperature x "kelvin" "fahrenheit" (x * 9.0 / 5.0 - 459.67)

/-- What comes of an amount of `u` in units of `v`, where both are of one category. -/
inductive Converts (x : Float) (u v : Measure) : Except Problem Float → Prop where
  /-- Measures of one key: the amount. -/
  | same (hk : u.key = v.key) : Converts x u v (.ok x)
  /-- A length or a weight in units of size zero. -/
  | zeroScale (hk : u.key ≠ v.key) (hl : u.category = .length ∨ u.category = .weight)
      (hz : v.scale = 0.0 ∨ v.scale = -0.0) :
      Converts x u v (.error { kind := .zeroScale, message := "float division by zero" })
  /-- Any other length or weight: first the product, then the quotient. -/
  | scaled (hk : u.key ≠ v.key) (hl : u.category = .length ∨ u.category = .weight)
      (hz : ¬ (v.scale = 0.0 ∨ v.scale = -0.0)) : Converts x u v (.ok (x * u.scale / v.scale))
  /-- Neither length nor weight, and the keys are none of the six pairs. -/
  | noFormula {s t : String} (hk : u.key ≠ v.key)
      (hl : ¬ (u.category = .length ∨ u.category = .weight))
      (hf : ∀ y, ¬ ConvertsTemperature x u.key v.key y) (hs : u.IsPlural s) (ht : v.IsPlural t) :
      Converts x u v (.error
        { kind := .noFormula
          message := "Conversion from " ++ s ++ " to " ++ t ++ " is impossible" })
  /-- Neither length nor weight: the value of the formula of the pair. -/
  | formula {y : Float} (hk : u.key ≠ v.key)
      (hl : ¬ (u.category = .length ∨ u.category = .weight))
      (hf : ConvertsTemperature x u.key v.key y) : Converts x u v (.ok y)

/-- The value of an amount, without the names that go with it. -/
def value (x : Float) (u v : Measure) : Except Fault Float :=
  (Rule.between? u v).bind (Rule.value? x u v)

/-- The names are put to the value once it is known. -/
theorem convert_eq (x : Float) (u v : Measure) :
    convert x u v = (value x u v).map (Answer.ofValue x u v) := by
  unfold convert value
  cases Rule.between? u v with
  | error f => rfl
  | ok r =>
    show (r.value? x u v >>= fun y => pure (Answer.ofValue x u v y)) =
      (r.value? x u v).map (Answer.ofValue x u v)
    cases r.value? x u v <;> rfl

/-- The formula of two keys is the one the table gives for them. -/
theorem Formula.between?_eq_some_iff {source target : String} {f : Formula} :
    between? source target = some f ↔ ((source, target), f) ∈ table := by
  constructor
  · intro h
    obtain ⟨before, after, he, _⟩ := List.lookup_eq_some_iff.mp h
    rw [he]
    exact List.mem_append_right _ List.mem_cons_self
  · exact lookup_of_mem_of_nodup (by decide)

/-- **The table holds the six formulas**, each under the keys of its pair. -/
theorem convertsTemperature_iff {α : Type} [OfScientific α] [Add α] [Sub α] [Mul α] [Div α]
    {x y : α} {source target : String} :
    ConvertsTemperature x source target y ↔
      ∃ f, ((source, target), f) ∈ Formula.table ∧ f.apply x = y := by
  constructor
  · intro h
    cases h with
    | celsiusToFahrenheit => exact ⟨.celsiusToFahrenheit, by decide, rfl⟩
    | fahrenheitToCelsius => exact ⟨.fahrenheitToCelsius, by decide, rfl⟩
    | celsiusToKelvin => exact ⟨.celsiusToKelvin, by decide, rfl⟩
    | kelvinToCelsius => exact ⟨.kelvinToCelsius, by decide, rfl⟩
    | fahrenheitToKelvin => exact ⟨.fahrenheitToKelvin, by decide, rfl⟩
    | kelvinToFahrenheit => exact ⟨.kelvinToFahrenheit, by decide, rfl⟩
  · rintro ⟨f, hf, rfl⟩
    simp only [Formula.table, List.mem_cons, Prod.mk.injEq, List.not_mem_nil, or_false] at hf
    rcases hf with ⟨⟨rfl, rfl⟩, rfl⟩ | ⟨⟨rfl, rfl⟩, rfl⟩ | ⟨⟨rfl, rfl⟩, rfl⟩ | ⟨⟨rfl, rfl⟩, rfl⟩ |
      ⟨⟨rfl, rfl⟩, rfl⟩ | ⟨⟨rfl, rfl⟩, rfl⟩
    · exact .celsiusToFahrenheit
    · exact .fahrenheitToCelsius
    · exact .celsiusToKelvin
    · exact .kelvinToCelsius
    · exact .fahrenheitToKelvin
    · exact .kelvinToFahrenheit

theorem Category.isLinear_iff {k : Category} : k.isLinear = true ↔ k = .length ∨ k = .weight := by
  cases k <;> decide

/-- Lengths and weights of different keys are scaled. -/
theorem Rule.between?_of_linear {u v : Measure} (hk : u.key ≠ v.key)
    (hl : u.category = .length ∨ u.category = .weight) : between? u v = .ok scaling := by
  rw [between?, if_neg hk, if_pos (Category.isLinear_iff.mpr hl)]

/-- All other measures of different keys go by the table of formulas. -/
theorem Rule.between?_of_not_linear {u v : Measure} (hk : u.key ≠ v.key)
    (hl : ¬ (u.category = .length ∨ u.category = .weight)) :
    between? u v = match Formula.between? u.key v.key with
      | some f => .ok (formula f)
      | none => .error (.noFormula u v) := by
  have hlinear : ¬ u.category.isLinear = true := fun h => hl (Category.isLinear_iff.mp h)
  exact (if_neg hk).trans ((if_neg hlinear).trans (if_neg hk))

theorem value_of_between? {x : Float} {u v : Measure} {r : Rule} (h : Rule.between? u v = .ok r) :
    value x u v = r.value? x u v := by
  rw [value, h]
  rfl

/-- The value computed is the one that `Converts` describes. -/
theorem value_of_converts {x : Float} {u v : Measure} {r : Except Problem Float}
    (h : Converts x u v r) : (value x u v).mapError Fault.problem = r := by
  cases h with
  | same hk =>
    rw [value_of_between? (if_pos hk), Rule.value?, if_neg (fun h => by cases h.1)]
    rfl
  | zeroScale hk hl hz =>
    rw [value_of_between? (Rule.between?_of_linear hk hl), Rule.value?,
      if_pos ⟨rfl, Double.beq_zero_iff.mpr hz⟩]
    rfl
  | scaled hk hl hz =>
    rw [value_of_between? (Rule.between?_of_linear hk hl), Rule.value?,
      if_neg (fun h => hz (Double.beq_zero_iff.mp h.2))]
    rfl
  | noFormula hk hl hf hs ht =>
    obtain ⟨_, hs⟩ := hs
    obtain ⟨_, ht⟩ := ht
    have hn : Formula.between? u.key v.key = none := by
      cases hb : Formula.between? u.key v.key with
      | none => rfl
      | some f =>
        exact absurd (convertsTemperature_iff.mpr ⟨f, Formula.between?_eq_some_iff.mp hb, rfl⟩)
          (hf (f.apply x))
    have hb : Rule.between? u v = .error (.noFormula u v) := by
      rw [Rule.between?_of_not_linear hk hl, hn]
    rw [value, hb, ← Measure.plural_of_aliases hs, ← Measure.plural_of_aliases ht]
    rfl
  | formula hk hl hf =>
    obtain ⟨f, hm, rfl⟩ := convertsTemperature_iff.mp hf
    have hb : Rule.between? u v = .ok (.formula f) := by
      rw [Rule.between?_of_not_linear hk hl, Formula.between?_eq_some_iff.mpr hm]
    rw [value_of_between? hb, Rule.value?, if_neg (fun h => by cases h.1)]
    rfl

/-- Where a value comes about, it is computed. -/
theorem value_eq_ok {x y : Float} {u v : Measure} (h : Converts x u v (.ok y)) :
    value x u v = .ok y := by
  have he := value_of_converts h
  cases hval : value x u v with
  | error f =>
    rw [hval] at he
    cases he
  | ok z =>
    rw [hval] at he
    exact congrArg _ (Except.ok.inj he)

/-- Where a conversion fails, it fails for a reason that is reported as the problem. -/
theorem exists_value_eq_error {x : Float} {u v : Measure} {p : Problem}
    (h : Converts x u v (.error p)) : ∃ f : Fault, value x u v = .error f ∧ f.problem = p := by
  have he := value_of_converts h
  cases hval : value x u v with
  | error f =>
    rw [hval] at he
    exact ⟨f, rfl, Except.error.inj he⟩
  | ok z =>
    rw [hval] at he
    cases he

/-- Between any two known measures one of the five cases applies. -/
theorem exists_converts (x : Float) {u v : Measure} (hu : u.aliases ≠ []) (hv : v.aliases ≠ []) :
    ∃ r, Converts x u v r := by
  by_cases hk : u.key = v.key
  · exact ⟨_, .same hk⟩
  · by_cases hl : u.category = .length ∨ u.category = .weight
    · by_cases hz : v.scale = 0.0 ∨ v.scale = -0.0
      · exact ⟨_, .zeroScale hk hl hz⟩
      · exact ⟨_, .scaled hk hl hz⟩
    · by_cases hf : ∃ y, ConvertsTemperature x u.key v.key y
      · obtain ⟨y, hf⟩ := hf
        exact ⟨_, .formula hk hl hf⟩
      · have hs := (Measure.isPlural_iff hu).mpr rfl
        have ht := (Measure.isPlural_iff hv).mpr rfl
        exact ⟨_, .noFormula hk hl (not_exists.mp hf) hs ht⟩

/-- **What a conversion gives is what `Converts` says, and nothing else.** -/
theorem converts_iff {x : Float} {u v : Measure} (hu : u.aliases ≠ []) (hv : v.aliases ≠ [])
    {r : Except Problem Float} :
    Converts x u v r ↔ (value x u v).mapError Fault.problem = r := by
  refine ⟨value_of_converts, fun hr => ?_⟩
  obtain ⟨r', h'⟩ := exists_converts x hu hv
  have he : r' = r := (value_of_converts h').symm.trans hr
  exact he ▸ h'

/-! ## 3. What a value and a failure tell -/

/-- The value of a length or a weight is the scaled amount, or the amount where the keys are the
    same. -/
theorem Converts.linear_value {x y : Float} {u v : Measure} (h : Converts x u v (.ok y))
    (hl : u.category = .length ∨ u.category = .weight) :
    (u.key ≠ v.key ∧ y = x * u.scale / v.scale) ∨ (u.key = v.key ∧ y = x) := by
  cases h with
  | same hk => exact .inr ⟨hk, rfl⟩
  | scaled hk => exact .inl ⟨hk, rfl⟩
  | formula _ hl' => exact absurd hl hl'

/-- A conversion fails at a scale of zero, or for want of a formula. -/
theorem Converts.failure_cases {x : Float} {u v : Measure} {p : Problem}
    (h : Converts x u v (.error p)) :
    (p = Fault.zeroScale.problem ∧ (u.category = .length ∨ u.category = .weight) ∧
        (v.scale = 0.0 ∨ v.scale = -0.0)) ∨
      (p.kind = .noFormula ∧ ¬ (u.category = .length ∨ u.category = .weight) ∧
        ∀ y, ¬ ConvertsTemperature x u.key v.key y) := by
  cases h with
  | zeroScale _ hl hz => exact .inl ⟨rfl, hl, hz⟩
  | noFormula _ hl hf => exact .inr ⟨rfl, hl, hf⟩

/-- Nothing fails between measures of one key. -/
theorem Converts.key_ne {x : Float} {u v : Measure} {p : Problem}
    (h : Converts x u v (.error p)) : u.key ≠ v.key := by
  cases h with
  | zeroScale hk => exact hk
  | noFormula hk => exact hk

end Measures
