import Measures.Catalog.Standard
import Measures.Proofs.Catalog.Acceptance
import Measures.Proofs.Outcome

/-!
# Catalogs with more measures, and in another order

A catalog enters into an answer at one place only, where the two words of a question are looked up.
A word that names a measure names the same one in any catalog that holds this measure, since no
other measure there can have the spelling. So a measure that is added, or moved, changes nothing
for the lines that had an answer, or a problem other than that a measure is unknown.

* `answer_congr`: catalogs that make the same request of a line give the same answer;
* `lookup_of_subset`, `lookup_of_perm`: what a word stands for in a larger catalog, and in one of
  another order;
* `answer_conservative`: the two of them together, for the lists that catalogs are made of.
-/

namespace Measures.Catalog

variable {c c' : Catalog} {line word : String} {q : Query}

/-! ## 1. Where the catalog enters -/

/-- **Catalogs that make the same request of a line give the same answer.** -/
theorem answer_congr (h : ∀ q, Query.ofLine line = .ok q → c'.requestOf q = c.requestOf q) :
    c'.answer line = c.answer line := by
  cases hq : Query.ofLine line with
  | error f =>
    rw [answer, answer, hq]
    rfl
  | ok q => rw [answer_of_ofLine hq, answer_of_ofLine hq, resolve, resolve, h q hq]

/-! ## 2. Looking up -/

/-- A word that names a measure stands for it in every catalog that holds the measure. -/
theorem lookup_of_subset (hs : c.measures ⊆ c'.measures) (hn : c.Names word) :
    c'.lookup word = c.lookup word := by
  obtain ⟨m, hm, hw⟩ := hn
  rw [lookup_of_isNamedBy hm hw, lookup_of_isNamedBy (hs hm) hw]

/-- In another order every word stands for what it stood for, be that a measure or none. -/
theorem lookup_of_perm (hp : c.measures.Perm c'.measures) (word : String) :
    c'.lookup word = c.lookup word := by
  by_cases hn : c.Names word
  · exact lookup_of_subset hp.subset hn
  · have hn' : ¬ c'.Names word := fun ⟨m, hm, hw⟩ => hn ⟨m, hp.mem_iff.mpr hm, hw⟩
    rw [lookup_of_not_names hn, lookup_of_not_names hn']

/-! ## 3. Answers -/

/-- Where no measure is found to be unknown, both words name measures. -/
theorem names_of_answer (hq : Query.ofLine line = .ok q)
    (h : ∀ f, c.answer line = .error f → f.problem.kind ≠ .unknownMeasure) :
    c.Names q.source ∧ c.Names q.target := by
  by_cases hn : c.Names q.source ∧ c.Names q.target
  · exact hn
  · exact absurd rfl (h _ (answer_of_not_names hq hn))

/-- More measures change nothing, unless a measure was unknown. -/
theorem answer_of_subset (hs : c.measures ⊆ c'.measures)
    (h : ∀ f, c.answer line = .error f → f.problem.kind ≠ .unknownMeasure) :
    c'.answer line = c.answer line := by
  refine answer_congr fun q hq => ?_
  obtain ⟨hsource, htarget⟩ := names_of_answer hq h
  rw [requestOf, requestOf, lookup_of_subset hs hsource, lookup_of_subset hs htarget]

/-- Another order changes nothing at all. -/
theorem answer_of_perm (hp : c.measures.Perm c'.measures) (line : String) :
    c'.answer line = c.answer line := by
  refine answer_congr fun q _ => ?_
  rw [requestOf, requestOf, lookup_of_perm hp, lookup_of_perm hp]

/-- **Adding measures to a catalog is conservative.** Whatever a line led to, be it an answer or a
    problem, it leads to in every catalog that holds the same measures, in any order and among any
    others; except that a measure which was unknown need not stay so. If nothing is added, the other
    order is a catalog still, and every line leads there to what it led to before. -/
theorem answer_conservative {ms : List Measure} {c : Catalog} (h : ofList? ms = .ok c) :
    (∀ ms' c', ofList? ms' = .ok c' → ms ⊆ ms' → ∀ line,
      (∀ f, c.answer line = .error f → f.problem.kind ≠ .unknownMeasure) →
        c'.answer line = c.answer line) ∧
      ∀ ms', ms.Perm ms' → ∃ c', ofList? ms' = .ok c' ∧ ∀ line, c'.answer line = c.answer line := by
  obtain rfl := ofList?_eq_ok_iff.mp h
  refine ⟨fun ms' c' h' hs line hk => ?_, fun ms' hp => ?_⟩
  · obtain rfl := ofList?_eq_ok_iff.mp h'
    exact answer_of_subset hs hk
  · exact ⟨c.reordered hp, c.ofList?_of_perm hp, answer_of_perm hp⟩

/-- An inch is added between two other lengths, whose order is changed. -/
theorem answer_conservative_inch :
    let meter := Measure.length "meter" ["m", "meter", "meters"] 1.0
    let kilometer := Measure.length "kilometer" ["km", "kilometer", "kilometers"] 1000.0
    let inch := Measure.length "inch" ["in", "inch", "inches"] 0.0254
    ∃ c c', ofList? [meter, kilometer] = .ok c ∧ ofList? [kilometer, inch, meter] = .ok c' ∧
      c.answer "-1 km in m" = .error (.negativeAmount .length) ∧
      c'.answer "-1 km in m" = c.answer "-1 km in m" ∧
      ∃ c'', ofList? [kilometer, meter] = .ok c'' ∧ ∀ line, c''.answer line = c.answer line := by
  intro meter kilometer inch
  let c : Catalog := ⟨[meter, kilometer], by decide, by decide +kernel⟩
  let c' : Catalog := ⟨[kilometer, inch, meter], by decide, by decide +kernel⟩
  have hc : ofList? [meter, kilometer] = .ok c := ofList?_eq_ok_iff.mpr rfl
  have hc' : ofList? [kilometer, inch, meter] = .ok c' := ofList?_eq_ok_iff.mpr rfl
  have hnegative : c.answer "-1 km in m" = .error (.negativeAmount .length) := by decide +kernel
  obtain ⟨hmore, horder⟩ := answer_conservative hc
  refine ⟨c, c', hc, hc', hnegative, hmore _ c' hc' (by decide) _ fun f hf => ?_,
    horder _ (.swap _ _ _)⟩
  rw [hnegative] at hf
  cases hf
  decide

end Measures.Catalog
