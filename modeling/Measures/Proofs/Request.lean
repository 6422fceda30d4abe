import Measures.Proofs.Catalog.Naming
import Measures.Request

/-!
# Which questions are admitted

The three checks of a request as conditions on its two measures and its amount: what each failure
presupposes of the checks before it, and when all of them pass.

* `checked_of_unknown`, `checked_of_negative`, `checked_of_mismatch`, `checked_of_admitted`: the
  four things that can come of a request;
* `requestOf_of_asks`: a question whose words name two measures makes the request for these two.
-/

namespace Measures

namespace Request

variable {r : Request}

/-! ## 1. The checks in their order -/

/-- Unknown measures are found before anything else. -/
theorem checked_of_unknown (h : ¬ (r.source.isKnown = true ∧ r.target.isKnown = true)) :
    r.checked = .error (.unknownMeasure r.source r.target) := by
  have hknown : checkKnown r.source r.target = .error (.unknownMeasure r.source r.target) :=
    if_neg fun hb => h (Bool.and_eq_true_iff.mp hb)
  rw [checked, hknown]
  rfl

/-- Between known measures an amount below zero is found before the categories are compared. -/
theorem checked_of_negative (hs : r.source.isKnown = true) (ht : r.target.isKnown = true)
    (hx : r.amount < 0.0) (hc : r.source.category ≠ .temperature) :
    r.checked = .error (.negativeAmount r.source.category) := by
  have hknown : checkKnown r.source r.target = .ok () := by simp [checkKnown, hs, ht]
  have hamount : checkAmount r.amount r.source = .error (.negativeAmount r.source.category) :=
    if_pos ⟨hx, hc⟩
  rw [checked, hknown, hamount]
  rfl

/-- Known measures and an amount that may stand pass the first two checks. -/
theorem checked_eq_checkCategory (hs : r.source.isKnown = true) (ht : r.target.isKnown = true)
    (hx : r.amount < 0.0 → r.source.category = .temperature) :
    r.checked = (checkCategory r.source r.target).bind fun _ => .ok r := by
  have hknown : checkKnown r.source r.target = .ok () := by simp [checkKnown, hs, ht]
  have hamount : checkAmount r.amount r.source = .ok () := if_neg fun h => h.2 (hx h.1)
  rw [checked, hknown, hamount]
  rfl

/-- Two categories are found last. -/
theorem checked_of_mismatch (hs : r.source.isKnown = true) (ht : r.target.isKnown = true)
    (hx : r.amount < 0.0 → r.source.category = .temperature)
    (hc : r.source.category ≠ r.target.category) :
    r.checked = .error (.categoryMismatch r.source r.target) := by
  rw [checked_eq_checkCategory hs ht hx, checkCategory, if_neg hc]
  rfl

/-- **A request is admitted as it is** where none of the three applies. -/
theorem checked_of_admitted (hs : r.source.isKnown = true) (ht : r.target.isKnown = true)
    (hx : r.amount < 0.0 → r.source.category = .temperature)
    (hc : r.source.category = r.target.category) : r.checked = .ok r := by
  rw [checked_eq_checkCategory hs ht hx, checkCategory, if_pos hc]
  rfl

end Request

/-! ## 2. The request of a question -/

namespace Catalog

/-- The two words of the question name these two measures of the catalog. -/
structure Asks (c : Catalog) (q : Query) (u v : Measure) : Prop where
  source_mem : u ∈ c.measures
  source_named : u.IsNamedBy q.source
  target_mem : v ∈ c.measures
  target_named : v.IsNamedBy q.target

variable {c : Catalog} {q : Query} {u v : Measure}

theorem Asks.isKnown (h : c.Asks q u v) : u.isKnown = true ∧ v.isKnown = true :=
  ⟨isKnown_of_mem h.source_mem, isKnown_of_mem h.target_mem⟩

theorem requestOf_of_asks (h : c.Asks q u v) : c.requestOf q = ⟨q.amount, u, v⟩ := by
  rw [requestOf, lookup_of_isNamedBy h.source_mem h.source_named,
    lookup_of_isNamedBy h.target_mem h.target_named]

theorem resolve_of_negative (h : c.Asks q u v) (hx : q.amount < 0.0)
    (hc : u.category ≠ .temperature) : c.resolve q = .error (.negativeAmount u.category) := by
  rw [resolve, requestOf_of_asks h]
  exact Request.checked_of_negative h.isKnown.1 h.isKnown.2 hx hc

theorem resolve_of_mismatch (h : c.Asks q u v) (hx : q.amount < 0.0 → u.category = .temperature)
    (hc : u.category ≠ v.category) : c.resolve q = .error (.categoryMismatch u v) := by
  rw [resolve, requestOf_of_asks h]
  exact Request.checked_of_mismatch h.isKnown.1 h.isKnown.2 hx hc

/-- A question about two measures of one category is admitted, unless its amount is below zero and
    may not be. -/
theorem resolve_of_asks (h : c.Asks q u v) (hx : q.amount < 0.0 → u.category = .temperature)
    (hc : u.category = v.category) : c.resolve q = .ok ⟨q.amount, u, v⟩ := by
  rw [resolve, requestOf_of_asks h]
  exact Request.checked_of_admitted h.isKnown.1 h.isKnown.2 hx hc

end Catalog

end Measures
