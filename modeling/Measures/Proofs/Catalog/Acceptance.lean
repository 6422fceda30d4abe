import Measures.Catalog

/-!
# Which lists of measures make up a catalog

A list of measures is refused for the first fault found in reading it. A catalog, on the other hand,
carries the proofs that all its measures have spellings and that no spelling occurs twice. Here the
two are put together: these proofs are all that reading asks for.

* `firstFault?_eq_none_iff`: reading finds no fault exactly if no measure lacks spellings and every
  spelling is new;
* `ofList?_eq_ok_iff`: a list is accepted as a catalog exactly if the catalog consists of it;
* `ofList?_of_perm`: whether a list is accepted does not depend on its order.
-/

namespace Measures

open Text (lower)

/-! ## 1. Reading without a fault -/

/-- An entry is read over if its spelling is not among those before it. -/
theorem firstFault?_spelling {seen : List (String × Measure)} {word : String} {m : Measure}
    (h : lower word ∉ seen.map Prod.fst) (rest : List Entry) :
    firstFault? seen (.spelling word m :: rest) = firstFault? ((lower word, m) :: seen) rest := by
  have hnone : seen.lookup (lower word) = none := by
    refine List.lookup_eq_none_iff.mpr fun p hp => ?_
    refine bne_iff_ne.mpr fun he => h ?_
    rw [he]
    exact List.mem_map_of_mem hp
  rw [firstFault?, hnone]

/-- Where every measure has spellings and every spelling is new, there is no fault. -/
theorem firstFault?_eq_none : ∀ (seen : List (String × Measure)) (es : List Entry),
    (∀ m, Entry.bare m ∉ es) → (es.filterMap Entry.folded?).Nodup →
    (∀ w ∈ es.filterMap Entry.folded?, w ∉ seen.map Prod.fst) → firstFault? seen es = none
  | _, [], _, _, _ => rfl
  | _, .bare m :: _, hb, _, _ => absurd List.mem_cons_self (hb m)
  | seen, .spelling word m :: rest, hb, hd, hn => by
    have hcut : (Entry.spelling word m :: rest).filterMap Entry.folded? =
        lower word :: rest.filterMap Entry.folded? := rfl
    rw [hcut] at hd hn
    obtain ⟨hw, hd⟩ := List.nodup_cons.mp hd
    rw [firstFault?_spelling (hn _ List.mem_cons_self)]
    refine firstFault?_eq_none _ rest (fun m' hm => hb m' (List.mem_cons_of_mem _ hm)) hd
      fun w hm hs => ?_
    -- the spelling just read is one of those before the rest from here on
    rcases List.mem_cons.mp hs with rfl | hs
    · exact hw hm
    · exact hn w (List.mem_cons_of_mem _ hm) hs

/-- **Reading finds no fault** exactly if no measure lacks spellings and every spelling is new. -/
theorem firstFault?_eq_none_iff (seen : List (String × Measure)) (es : List Entry) :
    firstFault? seen es = none ↔
      (∀ m, Entry.bare m ∉ es) ∧ (es.filterMap Entry.folded?).Nodup ∧
        ∀ w ∈ es.filterMap Entry.folded?, w ∉ seen.map Prod.fst := by
  constructor
  · exact fun h => ⟨not_bare_of_firstFault? seen es h, nodup_of_firstFault? seen es h⟩
  · exact fun ⟨hb, hd, hn⟩ => firstFault?_eq_none seen es hb hd hn

/-- The measures read as lacking spellings are those that lack them. -/
theorem bare_mem_entries {ms : List Measure} {m : Measure} :
    Entry.bare m ∈ ms.flatMap Measure.entries ↔ m ∈ ms ∧ m.aliases = [] := by
  rw [List.mem_flatMap]
  constructor
  · intro ⟨m', hm', he⟩
    unfold Measure.entries at he
    split at he
    · rename_i ha
      obtain rfl := Entry.bare.inj (List.mem_singleton.mp he)
      exact ⟨hm', ha⟩
    · obtain ⟨_, _, hs⟩ := List.mem_map.mp he
      cases hs
  · intro ⟨hm, ha⟩
    exact ⟨m, hm, by simp [Measure.entries, ha]⟩

/-- A list of measures is read without a fault exactly if it meets what a catalog asks for. -/
theorem firstFault?_entries_eq_none_iff (ms : List Measure) :
    firstFault? [] (ms.flatMap Measure.entries) = none ↔
      (∀ m ∈ ms, m.aliases ≠ []) ∧ ((spellings ms).map Prod.fst).Nodup := by
  rw [firstFault?_eq_none_iff, folded_flatMap_entries]
  constructor
  · exact fun ⟨hb, hd, _⟩ => ⟨fun m hm ha => hb m (bare_mem_entries.mpr ⟨hm, ha⟩), hd⟩
  · intro ⟨hn, hd⟩
    refine ⟨fun m hb => ?_, hd, fun _ _ => List.not_mem_nil⟩
    obtain ⟨hm, ha⟩ := bare_mem_entries.mp hb
    exact hn m hm ha

/-! ## 2. Lists and catalogs -/

namespace Catalog

/-- **A list is accepted as a catalog exactly if the catalog consists of it.** -/
theorem ofList?_eq_ok_iff {ms : List Measure} {c : Catalog} :
    ofList? ms = .ok c ↔ c.measures = ms := by
  constructor
  · intro h
    unfold ofList? at h
    split at h
    · cases h
    · cases h
      rfl
  · rintro rfl
    unfold ofList?
    split
    · rename_i fault hf
      rw [(firstFault?_entries_eq_none_iff _).mpr ⟨c.named, c.distinct⟩] at hf
      cases hf
    · rfl

/-- In another order the spellings of a list are the same. -/
theorem nodup_spellings_of_perm {ms ms' : List Measure} (hp : ms.Perm ms')
    (h : ((spellings ms).map Prod.fst).Nodup) : ((spellings ms').map Prod.fst).Nodup :=
  ((hp.flatMap_right _).map _).nodup_iff.mp h

/-- The catalog with its measures in another order. -/
def reordered (c : Catalog) {ms' : List Measure} (hp : c.measures.Perm ms') : Catalog where
  measures := ms'
  named := fun m hm => c.named m (hp.mem_iff.mpr hm)
  distinct := nodup_spellings_of_perm hp c.distinct

/-- **The measures of a catalog are accepted in any order.** -/
theorem ofList?_of_perm (c : Catalog) {ms' : List Measure} (hp : c.measures.Perm ms') :
    ofList? ms' = .ok (c.reordered hp) :=
  ofList?_eq_ok_iff.mpr rfl

end Catalog

end Measures
