import Measures.Catalog.Standard
import Measures.Proofs.Reply

/-!
# Catalogs in which every conversion is possible

A question whose words name two measures of one category is admitted, whether or not the amount has
a value in the second measure. It has one whenever no length or weight is of size zero and a formula
joins any two other measures of one category. The standard catalog is of this kind, so nothing that
can be asked of it fails in the conversion.

* `Convertible.not_fails`: in such a catalog no admitted question fails;
* `Convertible.kind_of_answer`, `Convertible.exists_reply`: a line without an answer has one of the
  four problems that are found before a conversion, and every line has a reply;
* `standard_convertible`, `standard_reply`: the standard catalog.
-/

namespace Measures.Catalog

variable {c : Catalog} {line : String}

/-- Every amount of a measure has a value in every other measure of its category. -/
structure Convertible (c : Catalog) : Prop where
  /-- No length or weight is of size zero. -/
  scaled : ∀ m ∈ c.measures, m.category = .length ∨ m.category = .weight →
    ¬ (m.scale = 0.0 ∨ m.scale = -0.0)
  /-- A formula joins any two other measures of one category. -/
  joined : ∀ u ∈ c.measures, ∀ v ∈ c.measures, u.category = v.category →
    ¬ (u.category = .length ∨ u.category = .weight) → u.key ≠ v.key →
      (u.key, v.key) ∈ Formula.table.map Prod.fst

/-- **No admitted question fails.** -/
theorem Convertible.not_fails (h : c.Convertible) {q : Query} {u v : Measure} (ha : c.Asks q u v)
    (hc : u.category = v.category) (p : Problem) : ¬ Converts q.amount u v (.error p) := by
  intro hf
  rcases hf.failure_cases with ⟨_, hl, hz⟩ | ⟨_, hl, hnone⟩
  · exact h.scaled v ha.target_mem (hc ▸ hl) hz
  · have hkeys := h.joined u ha.source_mem v ha.target_mem hc hl hf.key_ne
    obtain ⟨⟨keys, f⟩, hm, rfl⟩ := List.mem_map.mp hkeys
    exact hnone _ (convertsTemperature_iff.mpr ⟨f, hm, rfl⟩)

/-- So a line without an answer has a problem that is found before a conversion. -/
theorem Convertible.kind_of_answer (h : c.Convertible) {f : Fault} (hf : c.answer line = .error f) :
    f.problem.kind ∈ [Kind.malformed, .unknownMeasure, .negativeAmount, .categoryMismatch] :=
  (problem_cases hf).resolve_right fun ⟨_, _, _, _, ha, _, hc, hv⟩ => h.not_fails ha hc _ hv

/-- And every line has a reply. -/
theorem Convertible.exists_reply (h : c.Convertible) (line : String) :
    ∃ s, c.reply line = .ok s := by
  cases ha : c.answer line with
  | ok a => exact ⟨_, reply_of_answer ha⟩
  | error f => exact ⟨_, reply_of_isQuery ha (Kind.isQuery_of_mem (h.kind_of_answer ha))⟩

theorem Convertible.not_dividesByZero (h : c.Convertible) (line : String) :
    ¬ c.DividesByZero line := exists_reply_iff.mp (h.exists_reply line)

/-- The standard catalog has no length or weight of size zero, and its three temperatures are joined
    by the six formulas. -/
theorem standard_convertible : standard.Convertible where
  scaled := by decide +kernel
  joined := by decide +kernel

/-- **Every line has an answer in the standard catalog or one of four problems**, and a reply in
    both cases: the answer read out, or the message of the problem. -/
theorem standard_reply (line : String) :
    (∃ a, standard.answer line = .ok a ∧ standard.reply line = .ok a.describe) ∨
      ∃ f, standard.answer line = .error f ∧
        f.problem.kind ∈ [Kind.malformed, .unknownMeasure, .negativeAmount, .categoryMismatch] ∧
          standard.reply line = .ok f.message := by
  cases h : standard.answer line with
  | ok a => exact .inl ⟨a, rfl, reply_of_answer h⟩
  | error f =>
    have hk := standard_convertible.kind_of_answer h
    exact .inr ⟨f, rfl, hk, reply_of_isQuery h (Kind.isQuery_of_mem hk)⟩

end Measures.Catalog
