import Measures.Measure
import Measures.Problem
import Measures.Text.Lowercase
import Measures.Text.Quoted

/-!
# Catalogs of measures

A catalog is a list of measures in which every measure has a spelling and no spelling, whatever its
letter case, occurs twice. So a word names one measure at most, and the order of the list matters
only where the list itself is shown.

* `Catalog.ofList?` accepts a list or tells the first thing wrong with it in reading order: the
  measures in order, for each its lack of spellings, then its spellings in order.
* `Catalog.find?` and `Catalog.lookup` name the measure a word stands for.
* `Catalog.groups` gathers the measures by category.
-/

namespace Measures

open Text (lower quoted)

/-! ## 1. Spellings -/

/-- The spellings of the measures in lower case, each with its measure. -/
def spellings (ms : List Measure) : List (String × Measure) :=
  ms.flatMap fun m => m.aliases.map fun a => (lower a, m)

/-- What is read of a list of measures: a measure without spellings, or one spelling of one. -/
inductive Entry where
  | bare (m : Measure)
  | spelling (word : String) (m : Measure)

/-- The entries of one measure. -/
def Measure.entries (m : Measure) : List Entry :=
  if m.aliases = [] then [.bare m] else m.aliases.map (Entry.spelling · m)

/-- The lower-case spelling that an entry adds, if it adds one. -/
def Entry.folded? : Entry → Option String
  | .bare _ => none
  | .spelling word _ => some (lower word)

/-! ## 2. What can be wrong with a list of measures -/

/-- Why a list of measures is no catalog. -/
inductive CatalogFault where
  /-- A measure has no spelling. -/
  | nameless (key : String)
  /-- A spelling occurs twice; the keys are those of its two measures, the earlier first. -/
  | shared (word earlier later : String)
deriving DecidableEq

/-- The fault as it is reported. -/
def CatalogFault.problem : CatalogFault → Problem
  | nameless key => { kind := .catalog, message := "Unit " ++ quoted key ++ " has no aliases." }
  | shared word earlier later =>
    { kind := .catalog
      message := "Alias " ++ quoted word ++ " is shared by " ++ quoted earlier ++ " and "
        ++ quoted later ++ "." }

/-- The first fault among the entries, where `seen` holds the spellings before them. -/
def firstFault? (seen : List (String × Measure)) : List Entry → Option CatalogFault
  | [] => none
  | .bare m :: _ => some (.nameless m.key)
  | .spelling word m :: rest =>
    match seen.lookup (lower word) with
    | some owner => some (.shared word owner.key m.key)
    | none => firstFault? ((lower word, m) :: seen) rest

/-- Where there is no fault there is no measure without spellings. -/
theorem not_bare_of_firstFault? : ∀ (seen : List (String × Measure)) (es : List Entry),
    firstFault? seen es = none → ∀ m, Entry.bare m ∉ es
  | _, [], _, _ => by simp
  | _, .bare m :: _, h, _ => by simp [firstFault?] at h
  | seen, .spelling word m :: rest, h, m' => by
    unfold firstFault? at h
    split at h
    · cases h
    · simpa using not_bare_of_firstFault? _ rest h m'

/-- Where there is no fault no spelling occurs twice, nor one that came before. -/
theorem nodup_of_firstFault? : ∀ (seen : List (String × Measure)) (es : List Entry),
    firstFault? seen es = none →
    (es.filterMap Entry.folded?).Nodup ∧
      ∀ w ∈ es.filterMap Entry.folded?, w ∉ seen.map Prod.fst
  | _, [], _ => by simp
  | _, .bare m :: _, h => by simp [firstFault?] at h
  | seen, .spelling word m :: rest, h => by
    unfold firstFault? at h
    split at h
    · cases h
    · rename_i hs
      obtain ⟨hd, hn⟩ := nodup_of_firstFault? _ rest h
      have hw : lower word ∉ seen.map Prod.fst := by
        intro hm
        obtain ⟨p, hp, he⟩ := List.mem_map.mp hm
        have := List.lookup_eq_none_iff.mp hs p hp
        simp [he] at this
      simp only [List.filterMap_cons, Entry.folded?]
      refine ⟨List.nodup_cons.mpr ⟨fun hm => hn _ hm (by simp), hd⟩, fun w hm => ?_⟩
      rcases List.mem_cons.mp hm with rfl | hm
      · exact hw
      · exact fun hx => hn w hm (by simp only [List.map_cons, List.mem_cons]; exact .inr hx)

/-- The entries of a measure add its spellings in lower case. -/
theorem folded_entries (m : Measure) :
    m.entries.filterMap Entry.folded? = m.aliases.map lower := by
  unfold Measure.entries
  split
  · rename_i h
    simp [h, Entry.folded?]
  · induction m.aliases with
    | nil => rfl
    | cons a rest ih => simp [Entry.folded?, ih]

/-- The entries of a list of measures add its spellings. -/
theorem folded_flatMap_entries : ∀ ms : List Measure,
    (ms.flatMap Measure.entries).filterMap Entry.folded? = (spellings ms).map Prod.fst
  | [] => rfl
  | m :: rest => by
    have ih := folded_flatMap_entries rest
    simp only [spellings, List.flatMap_cons, List.filterMap_append, List.map_append] at ih ⊢
    rw [ih, folded_entries]
    simp [Function.comp_def]

/-! ## 3. Catalogs -/

/-- A list of measures, each with a spelling, and no spelling in two places. -/
structure Catalog where
  measures : List Measure
  named : ∀ m ∈ measures, m.aliases ≠ []
  distinct : ((spellings measures).map Prod.fst).Nodup

namespace Catalog

/-- The catalog of a list of measures, or the first fault in reading order. -/
def ofList? (ms : List Measure) : Except CatalogFault Catalog :=
  match h : firstFault? [] (ms.flatMap Measure.entries) with
  | some fault => .error fault
  | none => .ok
    { measures := ms
      named := fun m hm he => not_bare_of_firstFault? _ _ h m
        (List.mem_flatMap.mpr ⟨m, hm, by simp [Measure.entries, he]⟩)
      distinct := folded_flatMap_entries ms ▸ (nodup_of_firstFault? _ _ h).1 }

/-- The measure that has the word among its spellings, whatever the letter case. -/
def find? (c : Catalog) (word : String) : Option Measure :=
  (spellings c.measures).lookup (lower word)

/-- The measure that a word stands for: `Measure.unknown` if it names none. -/
def lookup (c : Catalog) (word : String) : Measure := (c.find? word).getD .unknown

/-- Whether a word names a measure. -/
def contains (c : Catalog) (word : String) : Bool := (c.find? word).isSome

/-- Puts a measure at the end of the group of its category, or opens that group at the end. -/
def addTo (m : Measure) : List (Category × List Measure) → List (Category × List Measure)
  | [] => [(m.category, [m])]
  | (category, members) :: rest =>
    if category = m.category then (category, members ++ [m]) :: rest
    else (category, members) :: addTo m rest

/-- The measures by category, the categories in the order in which they first occur. -/
def groups (c : Catalog) : List (Category × List Measure) :=
  c.measures.foldl (fun gathered m => addTo m gathered) []

/-- Every measure that a word stands for in the catalog is one of its measures. -/
theorem mem_of_find? {c : Catalog} {word : String} {m : Measure} (h : c.find? word = some m) :
    m ∈ c.measures := by
  unfold find? at h
  obtain ⟨l₁, l₂, hl, _⟩ := List.lookup_eq_some_iff.mp h
  have hm : (lower word, m) ∈ spellings c.measures := by simp [hl]
  simp only [spellings, List.mem_flatMap, List.mem_map] at hm
  obtain ⟨m', hm', a, _, he⟩ := hm
  exact (Prod.mk.inj he).2 ▸ hm'

end Catalog

end Measures
