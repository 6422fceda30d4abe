import Mathlib.Data.List.Induction
import Mathlib.Data.List.Nodup
import Measures.Catalog.Standard
import Measures.Proofs.Catalog.Acceptance

/-!
# The groups of a catalog

The measures of a catalog are gathered by category one after the other: each is put at the end of
the group of its category, which is opened at the end of the groups if there is none. However the
categories alternate in the catalog, the groups then part it, and no order is lost.

* `Gathers`: what the groups have to do with the measures read so far;
* `Gathers.addTo`, `gathers_foldl`: one more measure keeps it, and so it holds of any list;
* `Gathers.eq_of_mem`: no measure stands in two groups;
* `ofList?_groups`: the groups of a catalog.
-/

namespace Measures.Catalog

variable {m : Measure} {ms : List Measure} {k : Category} {g g' : Category × List Measure}
  {gs : List (Category × List Measure)}

/-! ## 1. Groups and measures -/

/-- The first place in the list at which a category occurs. -/
def firstPlace (ms : List Measure) (k : Category) : Nat := (ms.map Measure.category).idxOf k

/-- The groups hold the measures read so far, and tell their categories in the order in which they
    first occurred. -/
structure Gathers (ms : List Measure) (gs : List (Category × List Measure)) : Prop where
  /-- There are groups for the categories that occur, and for no others. -/
  occurs : ∀ k, k ∈ gs.map Prod.fst ↔ k ∈ ms.map Measure.category
  /-- A category that first occurs before another has its group before it. -/
  ordered : (gs.map Prod.fst).Pairwise fun k k' => firstPlace ms k < firstPlace ms k'
  /-- A group holds the measures of its category in their order. -/
  members : ∀ g ∈ gs, g.2 = ms.filter (·.category = g.1)
  /-- The groups together hold every measure as often as it was read. -/
  whole : (gs.flatMap Prod.snd).Perm ms

theorem gathers_nil : Gathers [] [] where
  occurs := fun _ => Iff.rfl
  ordered := .nil
  members := fun _ hg => absurd hg List.not_mem_nil
  whole := .nil

/-- No category has two groups. -/
theorem Gathers.nodup (h : Gathers ms gs) : (gs.map Prod.fst).Nodup :=
  h.ordered.imp fun hlt he => absurd (he ▸ hlt) (Nat.lt_irrefl _)

/-! ## 2. One more measure -/

/-- A measure of a new category opens a group at the end. -/
theorem addTo_of_not_mem : ∀ {gs : List (Category × List Measure)}, m.category ∉ gs.map Prod.fst →
    addTo m gs = gs ++ [(m.category, [m])]
  | [], _ => rfl
  | (k, members) :: rest, h => by
    obtain ⟨hne, hrest⟩ := List.ne_and_not_mem_of_not_mem_cons h
    rw [addTo, if_neg hne.symm, addTo_of_not_mem hrest, List.cons_append]

/-- A measure of a category that has a group goes to the end of that group. -/
theorem addTo_of_mem : ∀ {gs : List (Category × List Measure)}, (gs.map Prod.fst).Nodup →
    m.category ∈ gs.map Prod.fst →
    addTo m gs = gs.map fun g => if g.1 = m.category then (g.1, g.2 ++ [m]) else g
  | (k, members) :: rest, hd, h => by
    obtain ⟨hk, hd⟩ := List.nodup_cons.mp hd
    rw [addTo, List.map_cons]
    by_cases he : k = m.category
    · -- the groups after this one are of other categories
      have hrest : ∀ g ∈ rest, (if g.1 = m.category then (g.1, g.2 ++ [m]) else g) = g := by
        intro g hg
        have hmem : g.1 ∈ rest.map Prod.fst := List.mem_map_of_mem hg
        have hne : g.1 ≠ m.category := fun hc => hk (he.trans hc.symm ▸ hmem)
        rw [if_neg hne]
      rw [if_pos he, if_pos he, List.map_congr_left hrest, List.map_id']
    · have hm : m.category ∈ rest.map Prod.fst := (List.mem_cons.mp h).resolve_left (Ne.symm he)
      rw [if_neg he, if_neg he, addTo_of_mem hd hm]

theorem addTo_perm (m : Measure) : ∀ gs : List (Category × List Measure),
    ((addTo m gs).flatMap Prod.snd).Perm (gs.flatMap Prod.snd ++ [m])
  | [] => .refl _
  | (k, members) :: rest => by
    rw [addTo]
    split
    · simp only [List.flatMap_cons, List.append_assoc]
      exact (List.perm_append_comm).append_left members
    · simp only [List.flatMap_cons, List.append_assoc]
      exact (addTo_perm m rest).append_left members

theorem filter_category_append (ms : List Measure) (m : Measure) (k : Category) :
    (ms ++ [m]).filter (·.category = k) =
      ms.filter (·.category = k) ++ if m.category = k then [m] else [] := by
  rw [List.filter_append, List.filter_singleton]
  by_cases h : m.category = k <;> simp [h]

/-- A category that has occurred keeps its first place. -/
theorem firstPlace_append_of_mem (h : k ∈ ms.map Measure.category) (m : Measure) :
    firstPlace (ms ++ [m]) k = firstPlace ms k := by
  rw [firstPlace, List.map_append, List.idxOf_append_of_mem h, firstPlace]

/-- A category that has not occurred comes after those that have. -/
theorem firstPlace_lt_append (hk : k ∈ ms.map Measure.category)
    (hm : m.category ∉ ms.map Measure.category) :
    firstPlace (ms ++ [m]) k < firstPlace (ms ++ [m]) m.category := by
  have hlt : firstPlace ms k < (ms.map Measure.category).length := List.idxOf_lt_length_of_mem hk
  rw [firstPlace_append_of_mem hk, firstPlace, firstPlace, List.map_append,
    List.idxOf_append_of_notMem hm]
  exact Nat.lt_of_lt_of_le hlt (Nat.le_add_right _ _)

/-- The categories of the groups after one more measure. -/
theorem map_fst_addTo (m : Measure) (hd : (gs.map Prod.fst).Nodup) :
    (addTo m gs).map Prod.fst =
      gs.map Prod.fst ++ if m.category ∈ gs.map Prod.fst then [] else [m.category] := by
  by_cases hm : m.category ∈ gs.map Prod.fst
  · rw [addTo_of_mem hd hm, if_pos hm, List.append_nil, List.map_map]
    refine List.map_congr_left fun g _ => ?_
    show (if g.1 = m.category then (g.1, g.2 ++ [m]) else g).1 = g.1
    split <;> rfl
  · rw [addTo_of_not_mem hm, if_neg hm, List.map_append]
    rfl

section

variable (h : Gathers ms gs) (m : Measure)
include h

theorem Gathers.occurs_addTo (k : Category) :
    k ∈ (addTo m gs).map Prod.fst ↔ k ∈ (ms ++ [m]).map Measure.category := by
  rw [map_fst_addTo m h.nodup, List.map_append, List.mem_append, List.mem_append, ← h.occurs k]
  split
  · rename_i hm
    have hnew : k ∈ [m].map Measure.category → k ∈ gs.map Prod.fst := fun hk =>
      List.mem_singleton.mp hk ▸ hm
    simp only [List.not_mem_nil, or_false]
    exact ⟨.inl, fun hk => hk.elim id hnew⟩
  · rfl

theorem Gathers.ordered_addTo : ((addTo m gs).map Prod.fst).Pairwise fun k k' =>
    firstPlace (ms ++ [m]) k < firstPlace (ms ++ [m]) k' := by
  have hold : (gs.map Prod.fst).Pairwise fun k k' =>
      firstPlace (ms ++ [m]) k < firstPlace (ms ++ [m]) k' :=
    h.ordered.imp_of_mem fun hk hk' hlt => by
      rwa [firstPlace_append_of_mem ((h.occurs _).mp hk),
        firstPlace_append_of_mem ((h.occurs _).mp hk')]
  rw [map_fst_addTo m h.nodup]
  split
  · rwa [List.append_nil]
  · rename_i hm
    refine List.pairwise_append.mpr ⟨hold, List.pairwise_singleton _ _, fun k hk k' hk' => ?_⟩
    obtain rfl := List.mem_singleton.mp hk'
    exact firstPlace_lt_append ((h.occurs k).mp hk) fun hc => hm ((h.occurs _).mpr hc)

/-- The group of the new measure gets it at its end, the others stay as they are. -/
theorem Gathers.members_addTo_of_mem (hm : m.category ∈ gs.map Prod.fst) :
    ∀ g ∈ addTo m gs, g.2 = (ms ++ [m]).filter (·.category = g.1) := by
  rw [addTo_of_mem h.nodup hm]
  intro g' hg'
  obtain ⟨g, hg, rfl⟩ := List.mem_map.mp hg'
  rw [filter_category_append]
  split
  · rename_i he
    rw [if_pos he.symm, h.members g hg]
  · rename_i hne
    rw [if_neg (Ne.symm hne), List.append_nil, h.members g hg]

/-- A new group holds the new measure alone, since none of its category has been read before. -/
theorem Gathers.members_addTo_of_not_mem (hm : m.category ∉ gs.map Prod.fst) :
    ∀ g ∈ addTo m gs, g.2 = (ms ++ [m]).filter (·.category = g.1) := by
  have hnone : ms.filter (·.category = m.category) = [] :=
    List.filter_eq_nil_iff.mpr fun u hu hc => hm ((h.occurs _).mpr
      (of_decide_eq_true hc ▸ List.mem_map_of_mem hu))
  rw [addTo_of_not_mem hm]
  intro g hg
  rw [filter_category_append]
  rcases List.mem_append.mp hg with hg | hg
  · have hne : m.category ≠ g.1 := fun he => hm (he ▸ List.mem_map_of_mem hg)
    rw [if_neg hne, List.append_nil, h.members g hg]
  · obtain rfl := List.mem_singleton.mp hg
    rw [hnone, if_pos rfl, List.nil_append]

/-- **One more measure keeps the groups in order.** -/
theorem Gathers.addTo : Gathers (ms ++ [m]) (Catalog.addTo m gs) where
  occurs := h.occurs_addTo m
  ordered := h.ordered_addTo m
  members := by
    by_cases hm : m.category ∈ gs.map Prod.fst
    · exact h.members_addTo_of_mem m hm
    · exact h.members_addTo_of_not_mem m hm
  whole := (addTo_perm m gs).trans (h.whole.append_right [m])

end

/-! ## 3. Any list -/

/-- **The groups of any list of measures.** -/
theorem gathers_foldl (ms : List Measure) :
    Gathers ms (ms.foldl (fun gathered m => Catalog.addTo m gathered) []) := by
  induction ms using List.reverseRecOn with
  | nil => exact gathers_nil
  | append_singleton ms m ih =>
    rw [List.foldl_append]
    exact ih.addTo m

/-- No group is empty. -/
theorem Gathers.ne_nil (h : Gathers ms gs) (hg : g ∈ gs) : g.2 ≠ [] := by
  obtain ⟨m, hm, hc⟩ := List.mem_map.mp ((h.occurs g.1).mp (List.mem_map_of_mem hg))
  have hmem : m ∈ ms.filter (·.category = g.1) := List.mem_filter.mpr ⟨hm, decide_eq_true hc⟩
  rw [h.members g hg]
  exact List.ne_nil_of_mem hmem

/-- A measure stands in the group of its category. -/
theorem Gathers.mem_iff (h : Gathers ms gs) (hg : g ∈ gs) :
    m ∈ g.2 ↔ m ∈ ms ∧ m.category = g.1 := by
  rw [h.members g hg, List.mem_filter, decide_eq_true_iff]

/-- **No measure stands in two groups.** -/
theorem Gathers.eq_of_mem (h : Gathers ms gs) (hg : g ∈ gs) (hg' : g' ∈ gs) (hm : m ∈ g.2)
    (hm' : m ∈ g'.2) : g = g' := by
  have hc := ((h.mem_iff hg).mp hm).2
  have hc' := ((h.mem_iff hg').mp hm').2
  exact List.inj_on_of_nodup_map h.nodup hg hg' (hc.symm.trans hc')

/-- A measure occurs in its group as often as in the list. -/
theorem Gathers.count_eq (h : Gathers ms gs) (hg : g ∈ gs) (hm : m ∈ g.2) :
    g.2.count m = ms.count m := by
  have hc := ((h.mem_iff hg).mp hm).2
  rw [h.members g hg]
  exact List.count_filter (p := fun u : Measure => decide (u.category = g.1)) (decide_eq_true hc)

/-- Every measure stands in a group. -/
theorem Gathers.exists_group (h : Gathers ms gs) (hm : m ∈ ms) : ∃ g ∈ gs, m ∈ g.2 := by
  obtain ⟨g, hg, hc⟩ := List.mem_map.mp ((h.occurs m.category).mpr (List.mem_map_of_mem hm))
  exact ⟨g, hg, (h.mem_iff hg).mpr ⟨hm, hc.symm⟩⟩

/-! ## 4. The groups of a catalog -/

/-- **The groups part a catalog and keep its order.** There is one group for each category that
    occurs, and a category that first occurs before another has its group before it. A group is not
    empty: it holds the measures of its category, in their order. So every measure stands in one
    group and no other, as often as in the catalog, and the groups hold nothing else. -/
theorem ofList?_groups {ms : List Measure} {c : Catalog} (h : ofList? ms = .ok c) :
    (c.groups.map Prod.fst).Nodup ∧
    (∀ k, k ∈ c.groups.map Prod.fst ↔ k ∈ ms.map Measure.category) ∧
    (c.groups.map Prod.fst).Pairwise (fun k k' => firstPlace ms k < firstPlace ms k') ∧
    (∀ g ∈ c.groups, g.2 ≠ [] ∧ g.2 = ms.filter (·.category = g.1)) ∧
    (∀ m ∈ ms, ∃ g ∈ c.groups, m ∈ g.2 ∧ g.2.count m = ms.count m ∧
      ∀ g' ∈ c.groups, m ∈ g'.2 → g' = g) ∧
    (c.groups.flatMap Prod.snd).Perm ms := by
  obtain rfl := ofList?_eq_ok_iff.mp h
  have hg : Gathers c.measures c.groups := gathers_foldl c.measures
  refine ⟨hg.nodup, hg.occurs, hg.ordered, fun g hm => ⟨hg.ne_nil hm, hg.members g hm⟩,
    fun m hm => ?_, hg.whole⟩
  obtain ⟨g, hmem, hin⟩ := hg.exists_group hm
  exact ⟨g, hmem, hin, hg.count_eq hmem hin, fun g' hg' hm' => hg.eq_of_mem hg' hmem hm' hin⟩

/-- A weight stands between two lengths. -/
theorem ofList?_groups_alternating :
    let meter := Measure.length "meter" ["m", "meter", "meters"] 1.0
    let gram := Measure.weight "gram" ["g", "gram", "grams"] 1.0
    let kilometer := Measure.length "kilometer" ["km", "kilometer", "kilometers"] 1000.0
    ∃ c, ofList? [meter, gram, kilometer] = .ok c ∧
      c.groups = [(.length, [meter, kilometer]), (.weight, [gram])] ∧
      (c.groups.map Prod.fst).Nodup ∧ (c.groups.flatMap Prod.snd).Perm [meter, gram, kilometer] := by
  intro meter gram kilometer
  let c : Catalog := ⟨[meter, gram, kilometer], by decide, by decide +kernel⟩
  have h : ofList? [meter, gram, kilometer] = .ok c := ofList?_eq_ok_iff.mpr rfl
  obtain ⟨hnodup, _, _, _, _, hwhole⟩ := ofList?_groups h
  exact ⟨c, h, rfl, hnodup, hwhole⟩

end Measures.Catalog
