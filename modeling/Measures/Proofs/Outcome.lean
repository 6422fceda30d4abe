import Measures.Proofs.Conversion
import Measures.Proofs.Query.Acceptance
import Measures.Proofs.Request

/-!
# What comes of a line

A catalog answers a line in stages: it reads the line, looks up two words, checks the request and
converts. `Outcome` says of each answer and of each problem when a line leads to it, where every
case excludes the cases before it.

* `answer_of_outcome`: what the catalog gives is what the cases say;
* `outcome_answer`: for every line one of the cases applies;
* `answer_eq_iff_outcome`: so each line has exactly one outcome, and it is the one given;
* `asks_of_answer`, `problem_cases`: what an answer and a problem tell of the line.
-/

namespace Measures

namespace Catalog

variable {c : Catalog} {line : String} {q : Query} {u v : Measure}

/-! ## 1. How words and categories are shown -/

/-- The word names a measure of the catalog. -/
def Names (c : Catalog) (word : String) : Prop := ∃ m ∈ c.measures, m.IsNamedBy word

/-- What stands for a word in the message that a measure is unknown. -/
inductive ShownAs (c : Catalog) (word : String) : String → Prop where
  /-- A word that names a measure is shown as the last spelling of it. -/
  | named {m : Measure} {s : String} (hm : m ∈ c.measures) (hn : m.IsNamedBy word)
      (hs : m.IsPlural s) : c.ShownAs word s
  /-- Any other word is shown as a placeholder. -/
  | unnamed (h : ¬ c.Names word) : c.ShownAs word "???"

theorem lookup_of_not_names {word : String} (h : ¬ c.Names word) : c.lookup word = .unknown :=
  lookup_of_not_isNamedBy fun m hm hn => h ⟨m, hm, hn⟩

/-- **A word is looked up as known exactly if it names a measure.** -/
theorem isKnown_lookup_iff {word : String} : (c.lookup word).isKnown = true ↔ c.Names word := by
  constructor
  · intro hk
    by_cases h : c.Names word
    · exact h
    · rw [lookup_of_not_names h, Measure.isKnown_unknown] at hk
      cases hk
  · intro ⟨m, hm, hn⟩
    rw [lookup_of_isNamedBy hm hn]
    exact isKnown_of_mem hm

theorem displayName_of_mem {m : Measure} {s : String} (hm : m ∈ c.measures) (hs : m.IsPlural s) :
    m.displayName = s := by
  obtain ⟨before, h⟩ := hs
  rw [Measure.displayName, if_pos (isKnown_of_mem hm), Measure.plural_of_aliases h]

theorem displayName_of_shownAs {word s : String} (h : c.ShownAs word s) :
    (c.lookup word).displayName = s := by
  cases h with
  | named hm hn hs =>
    rw [lookup_of_isNamedBy hm hn]
    exact displayName_of_mem hm hs
  | unnamed h =>
    rw [lookup_of_not_names h]
    rfl

theorem exists_shownAs (c : Catalog) (word : String) : ∃ s, c.ShownAs word s := by
  by_cases h : c.Names word
  · obtain ⟨m, hm, hn⟩ := h
    exact ⟨m.plural, .named hm hn ((Measure.isPlural_iff (c.named m hm)).mpr rfl)⟩
  · exact ⟨"???", .unnamed h⟩

/-- The name of a category in messages. -/
inductive IsNameOf : Category → String → Prop where
  | length : IsNameOf .length "Length"
  | weight : IsNameOf .weight "Weight "
  | temperature : IsNameOf .temperature "Temperature"
  | unknown : IsNameOf .unknown ""

theorem isNameOf_iff {k : Category} {name : String} : IsNameOf k name ↔ k.label = name := by
  constructor
  · intro h
    cases h <;> rfl
  · rintro rfl
    cases k
    · exact .length
    · exact .weight
    · exact .temperature
    · exact .unknown

/-! ## 2. The outcomes -/

/-- The one answer or problem to which a line leads. -/
inductive Outcome (c : Catalog) (line : String) : Except Problem Answer → Prop where
  /-- The line is no question. -/
  | malformed (hq : ∀ q, Query.ofLine line ≠ .ok q) :
      c.Outcome line (.error { kind := .malformed, message := "Parse Error" })
  /-- One of the two words, or both, name no measure. -/
  | unknown {q : Query} {s t : String} (hq : Query.ofLine line = .ok q)
      (hn : ¬ (c.Names q.source ∧ c.Names q.target)) (hs : c.ShownAs q.source s)
      (ht : c.ShownAs q.target t) :
      c.Outcome line (.error
        { kind := .unknownMeasure
          message := "Conversion from " ++ s ++ " to " ++ t ++ " is impossible"
          hint := some "Run 'unit-converter units' to list the supported units." })
  /-- The amount is below zero, and the source is no temperature. -/
  | negative {q : Query} {u v : Measure} {name : String} (hq : Query.ofLine line = .ok q)
      (ha : c.Asks q u v) (hx : q.amount < 0.0) (hc : u.category ≠ .temperature)
      (hn : IsNameOf u.category name) :
      c.Outcome line (.error
        { kind := .negativeAmount, message := name ++ " shouldn't be negative" })
  /-- The two measures are of different categories. -/
  | mismatch {q : Query} {u v : Measure} {s t : String} (hq : Query.ofLine line = .ok q)
      (ha : c.Asks q u v) (hx : q.amount < 0.0 → u.category = .temperature)
      (hc : u.category ≠ v.category) (hs : u.IsPlural s) (ht : v.IsPlural t) :
      c.Outcome line (.error
        { kind := .categoryMismatch
          message := "Conversion from " ++ s ++ " to " ++ t ++ " is impossible" })
  /-- The conversion fails. -/
  | failed {q : Query} {u v : Measure} {p : Problem} (hq : Query.ofLine line = .ok q)
      (ha : c.Asks q u v) (hx : q.amount < 0.0 → u.category = .temperature)
      (hc : u.category = v.category) (hv : Converts q.amount u v (.error p)) :
      c.Outcome line (.error p)
  /-- The amount has a value, and both numbers have their names. -/
  | answered {q : Query} {u v : Measure} {y : Float} {s t : String}
      (hq : Query.ofLine line = .ok q) (ha : c.Asks q u v)
      (hx : q.amount < 0.0 → u.category = .temperature) (hc : u.category = v.category)
      (hv : Converts q.amount u v (.ok y)) (hs : u.IsLabel q.amount s) (ht : v.IsLabel y t) :
      c.Outcome line (.ok ⟨q.amount, y, s, t⟩)

/-! ## 3. The stages -/

/-- A question is answered by what becomes of its request. -/
theorem answer_of_ofLine (hq : Query.ofLine line = .ok q) :
    c.answer line = (c.resolve q).bind Request.convert := by
  rw [answer, hq]
  rfl

/-- A request that is not admitted is the end. -/
theorem answer_of_resolve_error {f : Fault} (hq : Query.ofLine line = .ok q)
    (hr : c.resolve q = .error f) : c.answer line = .error f := by
  rw [answer_of_ofLine hq, hr]
  rfl

/-- Words that do not both name measures are the end. -/
theorem answer_of_not_names (hq : Query.ofLine line = .ok q)
    (hn : ¬ (c.Names q.source ∧ c.Names q.target)) :
    c.answer line = .error (.unknownMeasure (c.lookup q.source) (c.lookup q.target)) := by
  refine answer_of_resolve_error hq (Request.checked_of_unknown fun hk => hn ?_)
  exact ⟨isKnown_lookup_iff.mp hk.1, isKnown_lookup_iff.mp hk.2⟩

/-- An admitted question is answered by the value of its amount, with the names put to it. -/
theorem answer_of_asks (hq : Query.ofLine line = .ok q) (ha : c.Asks q u v)
    (hx : q.amount < 0.0 → u.category = .temperature) (hc : u.category = v.category) :
    c.answer line = (value q.amount u v).map (Answer.ofValue q.amount u v) := by
  rw [answer_of_ofLine hq, resolve_of_asks ha hx hc]
  exact convert_eq q.amount u v

/-! ## 4. Every line has one outcome -/

/-- **What the catalog gives is what the cases say.** -/
theorem answer_of_outcome {r : Except Problem Answer} (h : c.Outcome line r) :
    (c.answer line).mapError Fault.problem = r := by
  cases h with
  | malformed hq =>
    rw [answer, Query.ofLine_of_not_question hq]
    rfl
  | unknown hq hn hs ht =>
    rw [answer_of_not_names hq hn, ← displayName_of_shownAs hs, ← displayName_of_shownAs ht]
    rfl
  | negative hq ha hx hc hn =>
    rw [answer_of_resolve_error hq (resolve_of_negative ha hx hc), ← isNameOf_iff.mp hn]
    rfl
  | mismatch hq ha hx hc hs ht =>
    rw [answer_of_resolve_error hq (resolve_of_mismatch ha hx hc),
      ← displayName_of_mem ha.source_mem hs, ← displayName_of_mem ha.target_mem ht]
    rfl
  | failed hq ha hx hc hv =>
    obtain ⟨f, hf, rfl⟩ := exists_value_eq_error hv
    rw [answer_of_asks hq ha hx hc, hf]
    rfl
  | answered hq ha hx hc hv hs ht =>
    rw [answer_of_asks hq ha hx hc, value_eq_ok hv, ← Measure.labelFor_of_isLabel hs,
      ← Measure.labelFor_of_isLabel ht]
    rfl

/-- The measures that two words name. -/
theorem exists_asks (hs : c.Names q.source) (ht : c.Names q.target) : ∃ u v, c.Asks q u v := by
  obtain ⟨u, hu, hun⟩ := hs
  obtain ⟨v, hv, hvn⟩ := ht
  exact ⟨u, v, hu, hun, hv, hvn⟩

/-- For every line one of the cases applies. -/
theorem exists_outcome (c : Catalog) (line : String) : ∃ r, c.Outcome line r := by
  -- each case supposes that those before it have failed, so they are decided in that order
  by_cases hq : ∃ q, Query.ofLine line = .ok q
  · obtain ⟨q, hq⟩ := hq
    by_cases hn : c.Names q.source ∧ c.Names q.target
    · obtain ⟨u, v, ha⟩ := exists_asks hn.1 hn.2
      have hu := c.named u ha.source_mem
      have hv := c.named v ha.target_mem
      by_cases hx : q.amount < 0.0 → u.category = .temperature
      · by_cases hc : u.category = v.category
        · obtain ⟨r, hr⟩ := exists_converts q.amount hu hv
          cases r with
          | error p => exact ⟨_, .failed hq ha hx hc hr⟩
          | ok y =>
            have hs := (Measure.isLabel_iff hu (x := q.amount)).mpr rfl
            have ht := (Measure.isLabel_iff hv (x := y)).mpr rfl
            exact ⟨_, .answered hq ha hx hc hr hs ht⟩
        · have hs := (Measure.isPlural_iff hu).mpr rfl
          have ht := (Measure.isPlural_iff hv).mpr rfl
          exact ⟨_, .mismatch hq ha hx hc hs ht⟩
      · rw [Classical.not_imp] at hx
        exact ⟨_, .negative hq ha hx.1 hx.2 (isNameOf_iff.mpr rfl)⟩
    · obtain ⟨s, hs⟩ := c.exists_shownAs q.source
      obtain ⟨t, ht⟩ := c.exists_shownAs q.target
      exact ⟨_, .unknown hq hn hs ht⟩
  · exact ⟨_, .malformed fun q h => hq ⟨q, h⟩⟩

/-- What the catalog gives is an outcome of the line. -/
theorem outcome_answer (c : Catalog) (line : String) :
    c.Outcome line ((c.answer line).mapError Fault.problem) := by
  obtain ⟨r, hr⟩ := c.exists_outcome line
  rw [answer_of_outcome hr]
  exact hr

/-- **Every line has exactly one outcome, and it is the one the catalog gives**: the first of the
    cases that applies, with its message or with the value and the names. -/
theorem answer_eq_iff_outcome (c : Catalog) (line : String) (r : Except Problem Answer) :
    (c.answer line).mapError Fault.problem = r ↔ c.Outcome line r := by
  constructor
  · intro hr
    rw [← hr]
    exact c.outcome_answer line
  · exact answer_of_outcome

/-! ## 5. What an outcome tells -/

/-- The words of a question name one pair of measures. -/
theorem Asks.unique {u' v' : Measure} (h : c.Asks q u v) (h' : c.Asks q u' v') : u = u' ∧ v = v' :=
  ⟨eq_of_isNamedBy h.source_mem h.source_named h'.source_mem h'.source_named,
    eq_of_isNamedBy h.target_mem h.target_named h'.target_mem h'.target_named⟩

/-- An answer is that to a question about two measures of one category. -/
theorem asks_of_answer {a : Answer} (h : c.answer line = .ok a) :
    ∃ q u v, Query.ofLine line = .ok q ∧ c.Asks q u v ∧ u.category = v.category ∧
      a.amount = q.amount ∧ Converts q.amount u v (.ok a.value) := by
  have ho := c.outcome_answer line
  rw [h] at ho
  cases ho with
  | answered hq ha _ hc hv _ _ => exact ⟨_, _, _, hq, ha, hc, rfl, hv⟩

/-- A problem is one of those found before a conversion, or that of a conversion which fails. -/
theorem problem_cases {f : Fault} (h : c.answer line = .error f) :
    f.problem.kind ∈ [Kind.malformed, .unknownMeasure, .negativeAmount, .categoryMismatch] ∨
      ∃ q u v, Query.ofLine line = .ok q ∧ c.Asks q u v ∧
        (q.amount < 0.0 → u.category = .temperature) ∧ u.category = v.category ∧
          Converts q.amount u v (.error f.problem) := by
  have ho : c.Outcome line (.error f.problem) := by
    have ho := c.outcome_answer line
    rwa [h] at ho
  generalize f.problem = p at ho
  cases ho with
  | malformed => exact .inl (by decide)
  | unknown => exact .inl (by simp)
  | negative => exact .inl (by simp)
  | mismatch => exact .inl (by simp)
  | failed hq ha hx hc hv => exact .inr ⟨_, _, _, hq, ha, hx, hc, hv⟩

end Catalog

end Measures
