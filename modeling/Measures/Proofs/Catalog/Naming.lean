import Measures.Catalog

/-!
# Which measure a word names

A catalog looks a word up in a list of its spellings. Here looking up is said without that list: a
word names a measure if it is one of its spellings up to letter case.

* `eq_of_isNamedBy`: a word names one measure of a catalog at most;
* `find?_eq_some_iff`, `find?_eq_none_iff`: what is found is the measure that the word names, and
  nothing is found only where it names none;
* `lookup_of_isNamedBy`, `lookup_of_not_isNamedBy`: the same for the measure a word stands for.
-/

namespace Measures

open Text (lower)

/-- The word is a spelling of the measure, up to letter case. -/
def Measure.IsNamedBy (m : Measure) (word : String) : Prop :=
  ∃ a ∈ m.aliases, lower a = lower word

/-- The list of spellings holds each spelling of each measure, in lower case, and nothing else. -/
theorem mem_spellings {ms : List Measure} {w : String} {m : Measure} :
    (w, m) ∈ spellings ms ↔ m ∈ ms ∧ ∃ a ∈ m.aliases, lower a = w := by
  simp only [spellings, List.mem_flatMap, List.mem_map, Prod.mk.injEq]
  constructor
  · rintro ⟨_, hm, a, ha, rfl, rfl⟩
    exact ⟨hm, a, ha, rfl⟩
  · rintro ⟨hm, a, ha, rfl⟩
    exact ⟨m, hm, a, ha, rfl, rfl⟩

/-- Where no key occurs twice, every entry is the one that is looked up. -/
theorem lookup_of_mem_of_nodup {α β : Type} [BEq α] [LawfulBEq α] {es : List (α × β)} {k : α}
    {b : β} (hd : (es.map Prod.fst).Nodup) (hm : (k, b) ∈ es) : es.lookup k = some b := by
  induction es with
  | nil => exact absurd hm List.not_mem_nil
  | cons e rest ih =>
    obtain ⟨key, value⟩ := e
    rw [List.map_cons, List.nodup_cons] at hd
    rcases List.mem_cons.mp hm with he | hrest
    · cases he
      exact List.lookup_cons_self
    · have hne : k ≠ key := fun he => hd.1 (he ▸ List.mem_map.mpr ⟨(k, b), hrest, rfl⟩)
      rw [List.lookup_cons, beq_eq_false_iff_ne.mpr hne]
      exact ih hd.2 hrest

/-- Where no key occurs twice, looking up finds the entries and nothing else. -/
theorem lookup_eq_some_iff_of_nodup {α β : Type} [BEq α] [LawfulBEq α] {es : List (α × β)} {k : α}
    {b : β} (hd : (es.map Prod.fst).Nodup) : es.lookup k = some b ↔ (k, b) ∈ es := by
  constructor
  · intro h
    obtain ⟨l₁, l₂, rfl, _⟩ := List.lookup_eq_some_iff.mp h
    simp
  · exact lookup_of_mem_of_nodup hd

namespace Catalog

variable {c : Catalog} {word : String} {m : Measure}

/-- **What is found is the measure that the word names.** -/
theorem find?_eq_some_iff : c.find? word = some m ↔ m ∈ c.measures ∧ m.IsNamedBy word :=
  (lookup_eq_some_iff_of_nodup c.distinct).trans mem_spellings

/-- **A word names one measure at most.** -/
theorem eq_of_isNamedBy {m' : Measure} (hm : m ∈ c.measures) (h : m.IsNamedBy word)
    (hm' : m' ∈ c.measures) (h' : m'.IsNamedBy word) : m = m' := by
  have hf := find?_eq_some_iff.mpr ⟨hm, h⟩
  rw [find?_eq_some_iff.mpr ⟨hm', h'⟩] at hf
  exact (Option.some.inj hf).symm

/-- **Nothing is found only where the word names no measure.** -/
theorem find?_eq_none_iff : c.find? word = none ↔ ∀ m ∈ c.measures, ¬ m.IsNamedBy word := by
  constructor
  · intro hn m hm h
    rw [find?_eq_some_iff.mpr ⟨hm, h⟩] at hn
    cases hn
  · intro h
    cases hf : c.find? word with
    | none => rfl
    | some m =>
      obtain ⟨hm, hw⟩ := find?_eq_some_iff.mp hf
      exact absurd hw (h m hm)

theorem lookup_of_isNamedBy (hm : m ∈ c.measures) (h : m.IsNamedBy word) : c.lookup word = m := by
  rw [lookup, find?_eq_some_iff.mpr ⟨hm, h⟩, Option.getD_some]

theorem lookup_of_not_isNamedBy (h : ∀ m ∈ c.measures, ¬ m.IsNamedBy word) :
    c.lookup word = .unknown := by
  rw [lookup, find?_eq_none_iff.mpr h, Option.getD_none]

/-- A word stands for the same measure in any letter case. -/
theorem lookup_of_lower_eq {word' : String} (h : lower word = lower word') :
    c.lookup word = c.lookup word' := by
  rw [lookup, lookup, find?, find?, h]

/-- A measure of a catalog is known. -/
theorem isKnown_of_mem (hm : m ∈ c.measures) : m.isKnown = true :=
  m.isKnown_iff.mpr (c.named m hm)

end Catalog

end Measures
