import Mathlib.Data.List.Nodup
import Measures.Catalog.Standard
import Measures.Proofs.Catalog.Acceptance
import Measures.Proofs.Outcome

/-!
# Lengths and weights are scaled

An amount of one length in units of another is the amount times the scale of the first, divided by
the scale of the second, and so it is with weights. Only what is asked in its own units stays as it
is. What counts as its own units is told by the key: two measures of one key are taken for one, and
nothing is scaled between them, whatever their scales are. Reading a list of measures looks at their
spellings and not at their keys, so that a catalog can hold two such measures.

* `eq_of_key_eq`: where no key occurs twice, a key stands for one measure;
* `linear_answer`: which of two lengths or weights are scaled, and that all are where no key occurs
  twice;
* `exists_unscaled_answer`: two lengths of one key, and a kilometer that is taken for a meter.
-/

namespace Measures.Catalog

variable {c : Catalog} {line : String} {q : Query} {u v : Measure} {a : Answer}

/-- **Where no key occurs twice, a key stands for one measure.** -/
theorem eq_of_key_eq (hd : (c.measures.map Measure.key).Nodup) (hu : u ∈ c.measures)
    (hv : v ∈ c.measures) (hk : u.key = v.key) : u = v :=
  List.inj_on_of_nodup_map hd hu hv hk

/-- The answer to a question about two lengths or weights: either the keys differ, and the amount is
    scaled, or they do not, and it stays. -/
theorem value_of_answer (h : c.answer line = .ok a) (hq : Query.ofLine line = .ok q)
    (ha : c.Asks q u v) (hl : u.category = .length ∨ u.category = .weight) :
    a.amount = q.amount ∧
      ((u.key ≠ v.key ∧ a.value = a.amount * u.scale / v.scale) ∨
        (u.key = v.key ∧ a.value = a.amount)) := by
  obtain ⟨q', u', v', hq', ha', _, hx, hv⟩ := asks_of_answer h
  obtain rfl : q = q' := Except.ok.inj (hq.symm.trans hq')
  obtain ⟨rfl, rfl⟩ := ha.unique ha'
  rw [← hx] at hv
  exact ⟨hx, hv.linear_value hl⟩

/-- **An answered question about two lengths or two weights** gives the amount scaled where their
    keys differ, and the amount itself where they do not. If no key of the catalog occurs twice,
    every two different measures are scaled, and only a measure in its own units keeps the amount. -/
theorem linear_answer (h : c.answer line = .ok a) (hq : Query.ofLine line = .ok q)
    (ha : c.Asks q u v)
    (hl : (u.category = .length ∧ v.category = .length) ∨
      (u.category = .weight ∧ v.category = .weight)) :
    a.amount = q.amount ∧
      ((u.key ≠ v.key ∧ a.value = a.amount * u.scale / v.scale) ∨
        (u.key = v.key ∧ a.value = a.amount)) ∧
      ((c.measures.map Measure.key).Nodup →
        (u ≠ v ∧ a.value = a.amount * u.scale / v.scale) ∨ (u = v ∧ a.value = a.amount)) := by
  obtain ⟨hx, hvalue⟩ := value_of_answer h hq ha (hl.imp And.left And.left)
  refine ⟨hx, hvalue, fun hd => ?_⟩
  rcases hvalue with ⟨hk, hs⟩ | ⟨hk, hs⟩
  · exact .inl ⟨fun he => hk (congrArg Measure.key he), hs⟩
  · exact .inr ⟨eq_of_key_eq hd ha.source_mem ha.target_mem hk, hs⟩

/-- Kilometers in miles. -/
theorem linear_answer_mile :
    let kilometer := Measure.length "kilometer" ["km", "kilometer", "kilometers"] 1000.0
    let mile := Measure.length "mile" ["mi", "mile", "miles"] 1609.35
    ∃ a q, standard.answer "10 km to mi" = .ok a ∧ Query.ofLine "10 km to mi" = .ok q ∧
      standard.Asks q kilometer mile ∧ (standard.measures.map Measure.key).Nodup ∧
      a.value = a.amount * 1000.0 / 1609.35 := by
  intro kilometer mile
  have h : standard.answer "10 km to mi" =
      .ok ⟨10.0, 6.213688756330196, "kilometers", "miles"⟩ := by decide +kernel
  have hq : Query.ofLine "10 km to mi" = .ok ⟨10.0, "km", "mi"⟩ := rfl
  have ha : standard.Asks ⟨10.0, "km", "mi"⟩ kilometer mile :=
    ⟨by decide, ⟨"km", by decide, rfl⟩, by decide, ⟨"mi", by decide, rfl⟩⟩
  have hd : (standard.measures.map Measure.key).Nodup := by decide
  obtain ⟨_, _, hscaled⟩ := linear_answer h hq ha (.inl ⟨rfl, rfl⟩)
  rcases hscaled hd with ⟨_, hs⟩ | ⟨he, _⟩
  · exact ⟨_, _, h, hq, ha, hd, hs⟩
  · exact absurd he (by decide)

/-- Not every two different lengths are scaled: a list of measures is accepted with a key in it that
    occurs twice. -/
theorem exists_unscaled_answer :
    ¬ ∀ ms c, ofList? ms = .ok c → ∀ line a q u v, c.answer line = .ok a →
      Query.ofLine line = .ok q → c.Asks q u v → u.category = .length → v.category = .length →
        u ≠ v → a.value = a.amount * u.scale / v.scale := by
  intro h
  let meter := Measure.length "meter" ["m"] 1.0
  let kilometer := Measure.length "meter" ["km"] 1000.0
  let c : Catalog := ⟨[meter, kilometer], by decide, by decide +kernel⟩
  have hc : ofList? [meter, kilometer] = .ok c := ofList?_eq_ok_iff.mpr rfl
  have hanswer : c.answer "1 km to m" = .ok ⟨1.0, 1.0, "km", "m"⟩ := by decide +kernel
  have hq : Query.ofLine "1 km to m" = .ok ⟨1.0, "km", "m"⟩ := rfl
  have ha : c.Asks ⟨1.0, "km", "m"⟩ kilometer meter :=
    ⟨by decide, ⟨"km", by decide, rfl⟩, by decide, ⟨"m", by decide, rfl⟩⟩
  have hvalue := h _ c hc _ _ _ _ _ hanswer hq ha rfl rfl (by decide)
  exact absurd hvalue (by decide +kernel)

end Measures.Catalog
