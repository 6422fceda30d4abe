import Measures.Proofs.Catalog.Acceptance
import Measures.Proofs.Catalog.Naming

/-!
# The first fault of a list of measures

A list of measures that makes up no catalog is refused for the first thing wrong with it in reading
order. Reading goes from entry to entry and carries along the spellings that it has met. Here the
first fault is said of the list itself: where it stands, that nothing before it is at fault, and,
of a spelling that occurs for the second time, which measure had it before.

* `IsClear`, `OwnsBefore`: what can be said of the part of a list before some place;
* `firstFault?_readBefore_iff`, `lookup_metAfter_iff`: that is what reading finds of it;
* `FirstFault`: the first fault of a list, with the message that tells of it;
* `ofList?_firstFault`: a list is accepted, or refused for its first fault.
-/

namespace Measures

open Text (lower quoted)

/-! ## 1. The part of a list before some place -/

/-- Nothing is wrong with the measures `before` and the spellings `front` of the one after them:
    no measure lacks spellings, and no spelling occurs twice, whatever the letter case. -/
structure IsClear (before : List Measure) (front : List String) : Prop where
  named : ∀ m ∈ before, m.aliases ≠ []
  distinct : ((before.flatMap Measure.aliases ++ front).map lower).Nodup

/-- The measure `u` has the word for a spelling before the place that comes after the measures
    `before` and the spellings `front` of the measure `m`. -/
def OwnsBefore (before : List Measure) (m : Measure) (front : List String) (word : String)
    (u : Measure) : Prop :=
  (u ∈ before ∧ u.IsNamedBy word) ∨ (u = m ∧ ∃ a ∈ front, lower a = lower word)

/-- **The first fault of a list of measures**, with the message that tells of it. Nothing is wrong
    before the place where it stands. -/
inductive FirstFault (ms : List Measure) : CatalogFault → String → Prop where
  /-- A measure has no spelling. -/
  | nameless {before after : List Measure} {m : Measure} (hms : ms = before ++ m :: after)
      (hclear : IsClear before []) (hm : m.aliases = []) :
      FirstFault ms (.nameless m.key) ("Unit " ++ quoted m.key ++ " has no aliases.")
  /-- A spelling is that of one measure before, which may be the same measure. -/
  | shared {before after : List Measure} {m owner : Measure} {front back : List String}
      {word : String} (hms : ms = before ++ m :: after) (hm : m.aliases = front ++ word :: back)
      (hclear : IsClear before front) (ho : ∀ u, OwnsBefore before m front word u ↔ u = owner) :
      FirstFault ms (.shared word owner.key m.key)
        ("Alias " ++ quoted word ++ " is shared by " ++ quoted owner.key ++ " and "
          ++ quoted m.key ++ ".")

/-! ## 2. Reading entry by entry -/

/-- What an entry adds to the spellings that have been met. -/
def Entry.added? : Entry → Option (String × Measure)
  | .bare _ => none
  | .spelling word m => some (lower word, m)

/-- The spellings that have been met after more entries, the last in front. -/
def metAfter (seen : List (String × Measure)) (es : List Entry) : List (String × Measure) :=
  (es.filterMap Entry.added?).reverse ++ seen

/-- A step of reading adds the spelling to those that have been met. -/
theorem metAfter_spelling (seen : List (String × Measure)) (word : String) (m : Measure)
    (es : List Entry) :
    metAfter seen (.spelling word m :: es) = metAfter ((lower word, m) :: seen) es := by
  simp [metAfter, Entry.added?]

/-- **Where no fault has been found, reading goes on** with the spellings met so far. -/
theorem firstFault?_append : ∀ {seen : List (String × Measure)} {es : List Entry},
    firstFault? seen es = none → ∀ more, firstFault? seen (es ++ more) =
      firstFault? (metAfter seen es) more
  | _, [], _, _ => rfl
  | _, .bare m :: _, h, _ => by cases h
  | seen, .spelling word m :: es, h, more => by
    cases hs : seen.lookup (lower word) with
    | some owner =>
      rw [firstFault?, hs] at h
      cases h
    | none =>
      rw [firstFault?, hs] at h
      rw [List.cons_append, firstFault?, hs, metAfter_spelling]
      exact firstFault?_append h more

/-- **A fault is found at one entry**, with nothing wrong before it. -/
theorem exists_of_firstFault? : ∀ {seen : List (String × Measure)} {es : List Entry}
    {fault : CatalogFault}, firstFault? seen es = some fault →
      ∃ pre e post, es = pre ++ e :: post ∧ firstFault? seen pre = none ∧
        firstFault? (metAfter seen pre) [e] = some fault
  | _, [], _, h => by cases h
  | seen, .bare m :: es, _, h => ⟨[], .bare m, es, rfl, rfl, h⟩
  | seen, .spelling word m :: es, fault, h => by
    cases hs : seen.lookup (lower word) with
    | some owner =>
      rw [firstFault?, hs] at h
      refine ⟨[], .spelling word m, es, rfl, rfl, ?_⟩
      show firstFault? seen [.spelling word m] = some fault
      rw [firstFault?, hs]
      exact h
    | none =>
      rw [firstFault?, hs] at h
      obtain ⟨pre, e, post, rfl, hpre, he⟩ := exists_of_firstFault? h
      refine ⟨.spelling word m :: pre, e, post, rfl, ?_, ?_⟩
      · rw [firstFault?, hs]
        exact hpre
      · rw [metAfter_spelling]
        exact he

/-- A spelling is at fault if it has been met before. -/
theorem firstFault?_spelling_iff {seen : List (String × Measure)} {word : String} {m : Measure}
    {fault : CatalogFault} : firstFault? seen [.spelling word m] = some fault ↔
      ∃ owner, seen.lookup (lower word) = some owner ∧ .shared word owner.key m.key = fault := by
  rw [firstFault?]
  cases seen.lookup (lower word) with
  | none => simp [firstFault?]
  | some owner => simp

/-! ## 3. Reading up to some place -/

/-- The entries before the place that comes after the measures `before` and the spellings `front` of
    the measure `m`. -/
def readBefore (before : List Measure) (m : Measure) (front : List String) : List Entry :=
  before.flatMap Measure.entries ++ front.map (Entry.spelling · m)

variable {before : List Measure} {m u : Measure} {front : List String} {word : String}

/-- The spellings of a list of measures, without the measures. -/
theorem map_fst_spellings (ms : List Measure) :
    (spellings ms).map Prod.fst = (ms.flatMap Measure.aliases).map lower := by
  simp [spellings, List.map_flatMap, Function.comp_def]

/-- What is read of some spellings of a measure is read of each. -/
theorem filterMap_map_spelling {β : Type} {g : Entry → Option β} {f : String → β}
    (h : ∀ a, g (.spelling a m) = some (f a)) (front : List String) :
    (front.map (Entry.spelling · m)).filterMap g = front.map f := by
  induction front with
  | nil => rfl
  | cons a rest ih => rw [List.map_cons, List.filterMap_cons, h, ih, List.map_cons]

theorem added_entries (m : Measure) :
    m.entries.filterMap Entry.added? = m.aliases.map fun a => (lower a, m) := by
  unfold Measure.entries
  split
  · rename_i h
    simp [h, Entry.added?]
  · exact filterMap_map_spelling (g := Entry.added?) (fun _ => rfl) m.aliases

/-- **Nothing is found to be wrong up to a place** exactly if nothing is. -/
theorem firstFault?_readBefore_iff :
    firstFault? [] (readBefore before m front) = none ↔ IsClear before front := by
  have hfolded : (readBefore before m front).filterMap Entry.folded? =
      (before.flatMap Measure.aliases ++ front).map lower := by
    rw [readBefore, List.filterMap_append, folded_flatMap_entries, map_fst_spellings,
      filterMap_map_spelling (g := Entry.folded?) (fun _ => rfl), List.map_append]
  have hbare : ∀ {b : Measure}, Entry.bare b ∈ readBefore before m front ↔
      b ∈ before ∧ b.aliases = [] := by
    intro b
    rw [readBefore, List.mem_append, bare_mem_entries, or_iff_left (by simp)]
  rw [firstFault?_eq_none_iff, hfolded]
  constructor
  · exact fun ⟨hb, hd, _⟩ => ⟨fun b hm ha => hb b (hbare.mpr ⟨hm, ha⟩), hd⟩
  · intro h
    refine ⟨fun b hb => ?_, h.distinct, fun _ _ => List.not_mem_nil⟩
    exact h.named b (hbare.mp hb).1 (hbare.mp hb).2

/-- **What has been met up to a place** is the spellings before it, each with its measure. -/
theorem lookup_metAfter_iff (h : IsClear before front) :
    (metAfter [] (readBefore before m front)).lookup (lower word) = some u ↔
      OwnsBefore before m front word u := by
  have hadded : (readBefore before m front).filterMap Entry.added? =
      spellings before ++ front.map fun a => (lower a, m) := by
    rw [readBefore, List.filterMap_append, List.filterMap_flatMap,
      filterMap_map_spelling (g := Entry.added?) (fun _ => rfl)]
    simp only [added_entries]
    rfl
  have hkeys : ((metAfter [] (readBefore before m front)).map Prod.fst).Nodup := by
    have hd := h.distinct
    rw [List.map_append, ← map_fst_spellings] at hd
    rw [metAfter, hadded, List.append_nil, List.map_reverse, (List.reverse_perm _).nodup_iff,
      List.map_append, List.map_map]
    exact hd
  rw [lookup_eq_some_iff_of_nodup hkeys, metAfter, hadded, List.append_nil, List.mem_reverse,
    List.mem_append, mem_spellings]
  refine or_congr Iff.rfl ?_
  simp only [List.mem_map, Prod.mk.injEq]
  constructor
  · rintro ⟨a, ha, hw, rfl⟩
    exact ⟨rfl, a, ha, hw⟩
  · rintro ⟨rfl, a, ha, hw⟩
    exact ⟨a, ha, hw, rfl⟩

/-! ## 4. Places of entries -/

/-- The entry of a measure without spellings stands after the measures before it. -/
theorem entries_of_bare {ms after : List Measure} (hms : ms = before ++ m :: after)
    (hm : m.aliases = []) : ∃ more,
      ms.flatMap Measure.entries = readBefore before m [] ++ .bare m :: more := by
  refine ⟨after.flatMap Measure.entries, ?_⟩
  simp [hms, readBefore, Measure.entries, hm]

/-- The entry of a spelling stands after the measures and the spellings before it. -/
theorem entries_of_spelling {ms after : List Measure} {back : List String}
    (hms : ms = before ++ m :: after) (hm : m.aliases = front ++ word :: back) : ∃ more,
      ms.flatMap Measure.entries = readBefore before m front ++ .spelling word m :: more := by
  refine ⟨back.map (Entry.spelling · m) ++ after.flatMap Measure.entries, ?_⟩
  simp [hms, readBefore, Measure.entries, hm]

/-- An entry of one measure is its lack of spellings or one of its spellings. -/
theorem entries_eq_append {pre post : List Entry} {e : Entry} (h : m.entries = pre ++ e :: post) :
    (e = .bare m ∧ m.aliases = [] ∧ pre = []) ∨
      ∃ front word back, e = .spelling word m ∧ m.aliases = front ++ word :: back ∧
        pre = front.map (Entry.spelling · m) := by
  unfold Measure.entries at h
  split at h
  · rename_i hm
    rcases List.cons_eq_append_iff.mp h with ⟨rfl, he⟩ | ⟨_, rfl, hnil⟩
    · exact .inl ⟨(List.cons.inj he).1, hm, rfl⟩
    · exact absurd hnil (by simp)
  · obtain ⟨front, rest, hm, rfl, hrest⟩ := List.map_eq_append_iff.mp h
    obtain ⟨word, back, rfl, rfl, _⟩ := List.map_eq_cons_iff.mp hrest
    exact .inr ⟨front, word, back, rfl, hm, rfl⟩

/-- **Every entry is that of a measure without spellings, or of a spelling**, at a place of the
    list of measures. -/
theorem exists_place : ∀ {ms : List Measure} {pre post : List Entry} {e : Entry},
    ms.flatMap Measure.entries = pre ++ e :: post → ∃ before m after, ms = before ++ m :: after ∧
      ((e = .bare m ∧ m.aliases = [] ∧ pre = readBefore before m []) ∨
        ∃ front word back, e = .spelling word m ∧ m.aliases = front ++ word :: back ∧
          pre = readBefore before m front)
  | [], _, _, _, h => by simp at h
  | m :: rest, pre, post, e, h => by
    -- the entry is one of a later measure, or of the first
    have hcut : (∃ pre', pre = m.entries ++ pre' ∧
        rest.flatMap Measure.entries = pre' ++ e :: post) ∨ ∃ tail, m.entries = pre ++ e :: tail := by
      rw [List.flatMap_cons] at h
      rcases List.append_eq_append_iff.mp h with hlater | ⟨tail, hm, htail⟩
      · exact .inl hlater
      · cases tail with
        | nil => exact .inl ⟨[], by simpa using hm.symm, htail.symm⟩
        | cons e' tail =>
          obtain ⟨rfl, _⟩ := List.cons.inj htail
          exact .inr ⟨tail, hm⟩
    rcases hcut with ⟨pre', rfl, hrest⟩ | ⟨tail, hm⟩
    · obtain ⟨before, u, after, rfl, hu⟩ := exists_place hrest
      refine ⟨m :: before, u, after, rfl, ?_⟩
      rcases hu with ⟨he, hu, rfl⟩ | ⟨front, word, back, he, hu, rfl⟩
      · exact .inl ⟨he, hu, by simp [readBefore]⟩
      · exact .inr ⟨front, word, back, he, hu, by simp [readBefore]⟩
    · exact ⟨[], m, rest, rfl, entries_eq_append hm⟩

/-! ## 5. The first fault -/

namespace Catalog

/-- A list is refused for what reading finds. -/
theorem ofList?_eq_error_iff {ms : List Measure} {fault : CatalogFault} :
    ofList? ms = .error fault ↔ firstFault? [] (ms.flatMap Measure.entries) = some fault := by
  unfold ofList?
  split
  · rename_i f hf
    rw [hf, Except.error.injEq, Option.some.injEq]
  · rename_i hf
    simp [hf]

/-- What is found is the first fault. -/
theorem firstFault_of_firstFault? {ms : List Measure} {fault : CatalogFault}
    (h : firstFault? [] (ms.flatMap Measure.entries) = some fault) :
    FirstFault ms fault fault.problem.message := by
  obtain ⟨pre, e, post, he, hpre, hfault⟩ := exists_of_firstFault? h
  obtain ⟨before, m, after, hms, ⟨rfl, hm, rfl⟩ | ⟨front, word, back, rfl, hm, rfl⟩⟩ :=
    exists_place he
  · cases hfault
    exact .nameless hms (firstFault?_readBefore_iff.mp hpre) hm
  · have hclear := firstFault?_readBefore_iff.mp hpre
    obtain ⟨owner, ho, rfl⟩ := firstFault?_spelling_iff.mp hfault
    refine .shared hms hm hclear fun u => ?_
    rw [← lookup_metAfter_iff hclear, ho, Option.some.injEq, eq_comm]

/-- The first fault is found. -/
theorem firstFault?_of_firstFault {ms : List Measure} {fault : CatalogFault} {message : String}
    (h : FirstFault ms fault message) :
    firstFault? [] (ms.flatMap Measure.entries) = some fault := by
  cases h with
  | @nameless before _ m hms hclear hm =>
    obtain ⟨more, he⟩ := entries_of_bare hms hm
    rw [he, firstFault?_append (firstFault?_readBefore_iff.mpr hclear)]
    rfl
  | @shared before _ m owner front _ word hms hm hclear ho =>
    obtain ⟨more, he⟩ := entries_of_spelling hms hm
    have hlookup := (lookup_metAfter_iff hclear).mpr ((ho owner).mpr rfl)
    rw [he, firstFault?_append (firstFault?_readBefore_iff.mpr hclear), firstFault?, hlookup]

/-- **A list of measures is accepted or refused for its first fault.** It is accepted exactly if
    every measure has a spelling and all spellings together differ in lower case, and then the
    catalog consists of it. It is refused with a fault and a message exactly if these are of its
    first fault in reading order. -/
theorem ofList?_firstFault (ms : List Measure) :
    ((∃ c, ofList? ms = .ok c) ↔
      (∀ m ∈ ms, m.aliases ≠ []) ∧ ((ms.flatMap Measure.aliases).map lower).Nodup) ∧
    (∀ c, ofList? ms = .ok c ↔ c.measures = ms) ∧
    ∀ fault message,
      (ofList? ms = .error fault ∧ fault.problem = { kind := .catalog, message := message }) ↔
        FirstFault ms fault message := by
  refine ⟨?_, fun _ => ofList?_eq_ok_iff, fun fault message => ⟨fun ⟨h, hp⟩ => ?_, fun h => ?_⟩⟩
  · rw [← map_fst_spellings]
    constructor
    · rintro ⟨c, hc⟩
      rw [← ofList?_eq_ok_iff.mp hc]
      exact ⟨c.named, c.distinct⟩
    · exact fun ⟨hn, hd⟩ => ⟨⟨ms, hn, hd⟩, ofList?_eq_ok_iff.mpr rfl⟩
  · have hfirst := firstFault_of_firstFault? (ofList?_eq_error_iff.mp h)
    rwa [hp] at hfirst
  · refine ⟨ofList?_eq_error_iff.mpr (firstFault?_of_firstFault h), ?_⟩
    cases h <;> rfl

/-- The Kelvin sign is a `k` in lower case. -/
example : firstFault? [] ([⟨"kelvin", ["k", "kelvin"], .temperature, 0.0⟩,
    ⟨"kilometer", ["km", "\u212a"], .length, 1000.0⟩].flatMap Measure.entries) =
      some (.shared "\u212a" "kelvin" "kilometer") := by decide +kernel

end Catalog

end Measures
