import Mathlib.Data.List.Nodup
import Measures.Catalog.Standard
import Measures.Proofs.Catalog.Reading
import Measures.Proofs.Outcome

/-!
# The index of a catalog

A list of measures is read spelling by spelling, and what has been read is gathered in an index that
leads from each spelling, in lower case, to its measure. A spelling that is in the index already is
a fault. So nothing in the index is ever replaced, and once the list has been read without a fault
the index says what every word stands for.

* `lookup_index_iff`: the index of a catalog leads from a word to the measure that the word names;
* `place_unique`: only at one place of the list can a measure stand that a word names;
* `contains_iff_names`: a word is contained exactly if it names a measure;
* `ofList?_lookup`: what every word stands for in the catalog of a list.
-/

namespace Measures

open Text (lower)

/-- The index of a list of measures, as gathered in reading it: the last spelling in front. -/
def index (ms : List Measure) : List (String × Measure) := metAfter [] (ms.flatMap Measure.entries)

namespace Catalog

variable {c : Catalog} {word : String} {m u v : Measure}

/-! ## 1. Reading the list to its end -/

/-- Nothing is wrong up to the end of a list that is a catalog. -/
theorem isClear_measures (c : Catalog) : IsClear c.measures [] where
  named := c.named
  distinct := by
    rw [List.append_nil, ← map_fst_spellings]
    exact c.distinct

/-- **The index leads from a word to the measure that the word names**, and nowhere else: no
    spelling has been lost, and none leads to a measure other than its own. -/
theorem lookup_index_iff :
    (index c.measures).lookup (lower word) = some m ↔ m ∈ c.measures ∧ m.IsNamedBy word := by
  have hread : c.measures.flatMap Measure.entries = readBefore c.measures .unknown [] := by
    simp [readBefore]
  rw [index, hread, lookup_metAfter_iff c.isClear_measures]
  simp [OwnsBefore]

/-! ## 2. Words and places -/

/-- **Only at one place of the list can a measure stand that the word names.** -/
theorem place_unique {i j : Nat} (hi : c.measures[i]? = some u) (hu : u.IsNamedBy word)
    (hj : c.measures[j]? = some v) (hv : v.IsNamedBy word) : i = j := by
  have hfold : ∀ {m : Measure}, m.IsNamedBy word → lower word ∈ m.aliases.map lower :=
    fun ⟨a, ha, he⟩ => List.mem_map.mpr ⟨a, ha, he⟩
  have hspell : (spellings c.measures).map Prod.fst =
      c.measures.flatMap fun m => m.aliases.map lower := by
    rw [map_fst_spellings, List.map_flatMap]
  have hapart := (List.nodup_flatMap.mp (hspell ▸ c.distinct)).2
  -- of two places one comes first, and then the two measures have no spelling in common
  have hlt : ∀ {i j : Nat} {u v : Measure}, c.measures[i]? = some u → u.IsNamedBy word →
      c.measures[j]? = some v → v.IsNamedBy word → ¬ i < j := by
    intro i j u v hi hu hj hv hij
    obtain ⟨hil, rfl⟩ := List.getElem?_eq_some_iff.mp hi
    obtain ⟨hjl, rfl⟩ := List.getElem?_eq_some_iff.mp hj
    exact List.pairwise_iff_getElem.mp hapart i j hil hjl hij (hfold hu) (hfold hv)
  have hle := hlt hi hu hj hv
  have hge := hlt hj hv hi hu
  omega

/-- **A word is contained in a catalog exactly if it names a measure.** -/
theorem contains_iff_names : c.contains word = true ↔ c.Names word := by
  rw [contains, Option.isSome_iff_exists]
  exact exists_congr fun m => find?_eq_some_iff

/-- What a word stands for: the measure that it names, or `Measure.unknown` if it names none. -/
theorem lookup_eq_iff : c.lookup word = m ↔
    (m ∈ c.measures ∧ m.IsNamedBy word) ∨
      (m = .unknown ∧ ∀ u ∈ c.measures, ¬ u.IsNamedBy word) := by
  constructor
  · rintro rfl
    by_cases h : ∃ u ∈ c.measures, u.IsNamedBy word
    · obtain ⟨u, hu, hn⟩ := h
      rw [lookup_of_isNamedBy hu hn]
      exact .inl ⟨hu, hn⟩
    · have hnone : ∀ u ∈ c.measures, ¬ u.IsNamedBy word := fun u hu hn => h ⟨u, hu, hn⟩
      exact .inr ⟨lookup_of_not_isNamedBy hnone, hnone⟩
  · rintro (⟨hm, hn⟩ | ⟨rfl, hnone⟩)
    · exact lookup_of_isNamedBy hm hn
    · exact lookup_of_not_isNamedBy hnone

/-- **What every word stands for in the catalog of a list.** It stands for the measure of the list
    that has a spelling equal to it in lower case, and for `Measure.unknown` if there is none. Such
    a measure stands at one place of the list at most, and the index gathered in reading leads to
    it. A word is contained exactly if it stands for a known measure. Every spelling of every
    measure, in any form that is the same in lower case, stands for that very measure. -/
theorem ofList?_lookup {ms : List Measure} {c : Catalog} (h : ofList? ms = .ok c) (word : String) :
    (∀ m, c.lookup word = m ↔
      (m ∈ ms ∧ m.IsNamedBy word) ∨ (m = .unknown ∧ ∀ u ∈ ms, ¬ u.IsNamedBy word)) ∧
    (∀ (i j : Nat) (u v : Measure), ms[i]? = some u → u.IsNamedBy word → ms[j]? = some v →
      v.IsNamedBy word → i = j) ∧
    (∀ m, (index ms).lookup (lower word) = some m ↔ m ∈ ms ∧ m.IsNamedBy word) ∧
    (c.contains word = true ↔ (c.lookup word).isKnown = true) ∧
    ∀ m ∈ ms, ∀ a ∈ m.aliases, lower word = lower a →
      c.lookup word = m ∧ c.contains word = true := by
  obtain rfl := ofList?_eq_ok_iff.mp h
  refine ⟨fun m => lookup_eq_iff, fun i j u v hi hu hj hv => place_unique hi hu hj hv,
    fun m => lookup_index_iff, contains_iff_names.trans isKnown_lookup_iff.symm, ?_⟩
  intro m hm a ha he
  have hn : m.IsNamedBy word := ⟨a, ha, he.symm⟩
  exact ⟨lookup_of_isNamedBy hm hn, contains_iff_names.mpr ⟨m, hm, hn⟩⟩

/-- The Kelvin sign is the letter `k` in lower case. -/
theorem ofList?_lookup_kelvin :
    let kelvin := Measure.temperature "kelvin"
      ["k", "kelvin", "kelvins", "degree Kelvin", "degrees Kelvin"]
    ofList? standardMeasures = .ok standard ∧ lower "\u212a" = lower "k" ∧
      standard.lookup "\u212a" = kelvin ∧ standard.contains "\u212a" = true := by
  intro kelvin
  have h : ofList? standardMeasures = .ok standard := ofList?_eq_ok_iff.mpr rfl
  have hlower : lower "\u212a" = lower "k" := by decide
  obtain ⟨_, _, _, _, hspelled⟩ := ofList?_lookup h "\u212a"
  exact ⟨h, hlower, hspelled kelvin (by decide) "k" (by decide) hlower⟩

end Catalog

end Measures
