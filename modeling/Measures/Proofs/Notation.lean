import Measures.Catalog.Standard
import Measures.Proofs.Query.Acceptance
import Measures.Proofs.Request

/-!
# Every notation of two measures is understood

A spelling of a measure is one word or several. Those of one or two words of letters can be typed on
either side of a question, in any letter case, as long as the second of two words is itself a
spelling: routing looks up one word for each side. There are four shapes, one or two words on each
side, and three ways to find the words that name the measures.

* `Side`, `unitWords_sides`: in all four shapes routing picks the last word of each side, unless the
  first of two words after the connector is a connector itself;
* `phrase_of_sides`: a connector between words of letters makes a phrase;
* `resolve_notation`: every question made of such spellings is admitted, with the amount typed.
-/

namespace Measures

open Text (IsLetters lower)
open Decimal (IsAmount)

namespace Query

/-! ## 1. Phrases -/

/-- **A connector between words of letters**, one or more before it and one or two after it, makes
    them a phrase. -/
theorem phrase_of_sides {before after : List (List Char)} {connector : List Char}
    (hl : ∀ w ∈ before ++ connector :: after, IsLetters w) (hc : Connects connector)
    (hb : before ≠ []) (ha : after.length = 1 ∨ after.length = 2) :
    Phrase (before ++ connector :: after) := by
  have hpos := List.length_pos_iff.mpr hb
  have hlen : (before ++ connector :: after).length = before.length + after.length + 1 := by
    rw [List.length_append, List.length_cons, Nat.add_assoc]
  have hget : (before ++ connector :: after)[before.length]? = some connector := by simp
  refine ⟨hl, ?_⟩
  rw [hlen]
  rcases ha with h1 | h2
  · refine .inl ⟨by omega, connector, ?_, hc⟩
    rw [show before.length + after.length + 1 - 2 = before.length by omega, hget]
  · refine .inr ⟨by omega, connector, ?_, hc⟩
    rw [show before.length + after.length + 1 - 3 = before.length by omega, hget]

/-- A word of letters is one still in lower case. -/
theorem isLetters_lowered {w : String} (h : IsLetters w.toList) : IsLetters (lowered w) := by
  rw [lowered, Text.toList_lower,
    Text.lowerChars_of_ascii fun c hc => Text.toNat_lt_of_isAlpha (h.2 c hc)]
  refine ⟨by simpa using h.1, fun c hc => ?_⟩
  obtain ⟨d, hd, rfl⟩ := List.mem_map.mp hc
  rw [Text.isAlpha_toLower]
  exact h.2 d hd

theorem isToken_of_isLetters {w : String} (h : IsLetters w.toList) : IsToken w :=
  ⟨h.1, fun c hc => Text.isBlank_of_isAlpha (h.2 c hc)⟩

/-! ## 2. Routing -/

/-- The words on one side of a question, and the one that names the measure. -/
inductive Side : List String → String → Prop where
  | one (w : String) : Side [w] w
  | two (x y : String) : Side [x, y] y

/-- **Routing picks the last word of each side.** -/
theorem unitWords_sides {before after : List String} {amount source connector target : String}
    (hs : Side before source) (ht : Side after target) (hc : connector ∈ connectors)
    (hfirst : ∀ x y, after = [x, y] → x ∉ connectors) :
    unitWords (amount :: (before ++ connector :: after)) = some (source, target) := by
  cases hs with
  | one w =>
    cases ht with
    | one v => rfl
    | two x y =>
      have hx := hfirst x _ rfl
      simp [unitWords, hx]
  | two x y =>
    cases ht with
    | one v => simp [unitWords, hc]
    | two x' y' => rfl

end Query

/-! ## 3. Spellings as they are typed -/

/-- The same text but for the case of ASCII letters. -/
def SameLetters (s t : String) : Prop := s.toList.map Char.toLower = t.toList.map Char.toLower

/-- A spelling of the measure that can be typed on one side of a question: a word of letters, or two
    with a space between them of which the second names the measure as well. -/
def Measure.Typable (m : Measure) (a : String) : Prop :=
  a ∈ m.aliases ∧ (IsLetters a.toList ∨ ∃ first second : String, a = first ++ " " ++ second ∧
    IsLetters first.toList ∧ IsLetters second.toList ∧ m.IsNamedBy second)

theorem isLetters_of_sameLetters {s t : List Char} (h : s.map Char.toLower = t.map Char.toLower)
    (ht : IsLetters t) : IsLetters s := by
  refine ⟨?_, fun c hc => ?_⟩
  · rintro rfl
    exact ht.1 (List.map_eq_nil_iff.mp h.symm)
  · have hm : c.toLower ∈ t.map Char.toLower := h ▸ List.mem_map_of_mem hc
    obtain ⟨d, hd, he⟩ := List.mem_map.mp hm
    rw [← Text.isAlpha_toLower, ← he, Text.isAlpha_toLower]
    exact ht.2 d hd

/-- Words of letters that differ in letter case only name the same measures. -/
theorem lower_eq_of_sameLetters {s t : String} (h : SameLetters s t) (ht : IsLetters t.toList) :
    lower s = lower t := by
  have hascii : ∀ {w : String}, IsLetters w.toList →
      (lower w).toList = w.toList.map Char.toLower := by
    intro w hw
    rw [Text.toList_lower,
      Text.lowerChars_of_ascii fun c hc => Text.toNat_lt_of_isAlpha (hw.2 c hc)]
  have hs : IsLetters s.toList := isLetters_of_sameLetters h ht
  rw [← String.toList_inj, hascii hs, hascii ht, h]

theorem IsNamedBy.of_sameLetters {m : Measure} {s t : String} (h : SameLetters s t)
    (ht : IsLetters t.toList) (hm : m.IsNamedBy t) : m.IsNamedBy s := by
  obtain ⟨a, ha, he⟩ := hm
  exact ⟨a, ha, he.trans (lower_eq_of_sameLetters h ht).symm⟩

/-- **A spelling in any letter case is the words of one side**, of which the last names the
    measure. -/
theorem exists_side {m : Measure} {s a : String} (ha : m.Typable a) (hs : SameLetters s a) :
    ∃ ws name, s = String.intercalate " " ws ∧ Query.Side ws name ∧ m.IsNamedBy name ∧
      ∀ w ∈ ws, IsLetters w.toList := by
  obtain ⟨hm, hl | ⟨first, second, rfl, hf, hl, hn⟩⟩ := ha
  · have hsl := isLetters_of_sameLetters hs hl
    refine ⟨[s], s, by simp, .one s, ⟨a, hm, (lower_eq_of_sameLetters hs hl).symm⟩, ?_⟩
    simpa using hsl
  · have he : s.toList.map Char.toLower =
        first.toList.map Char.toLower ++ ' ' :: second.toList.map Char.toLower := by
      rw [hs]
      simp
    obtain ⟨us, vs, hcut, hu, hv⟩ := List.map_eq_append_iff.mp he
    obtain ⟨c, ws, rfl, hc, hw⟩ := List.map_eq_cons_iff.mp hv
    have hspace : c = ' ' := Text.eq_of_toLower_eq hc (by decide)
    subst hspace
    have hx : SameLetters (String.ofList us) first := by
      rw [SameLetters, String.toList_ofList, hu]
    have hy : SameLetters (String.ofList ws) second := by
      rw [SameLetters, String.toList_ofList, hw]
    refine ⟨[String.ofList us, String.ofList ws], String.ofList ws, ?_, .two _ _,
      IsNamedBy.of_sameLetters hy hl hn, ?_⟩
    · rw [← String.toList_inj, hcut]
      simp
    · intro w hm
      rcases List.mem_cons.mp hm with rfl | hm
      · exact isLetters_of_sameLetters hx hf
      · rw [List.mem_singleton.mp hm]
        exact isLetters_of_sameLetters hy hl

/-! ## 4. Questions -/

open Query in
/-- A question of two sides is of the grammar. -/
theorem isQuestion_of_sides {before after : List String} {amount source connector target : String}
    (hx : IsAmount amount.toList) (hs : Side before source) (ht : Side after target)
    (hbefore : ∀ w ∈ before, IsLetters w.toList) (hafter : ∀ w ∈ after, IsLetters w.toList)
    (hc : IsLetters connector.toList) (hconn : Connects (lowered connector)) :
    IsQuestion (amount :: (before ++ connector :: after)) := by
  refine ⟨amount, _, rfl, hx, .inl ?_⟩
  rw [List.map_append, List.map_cons]
  refine phrase_of_sides ?_ hconn ?_ ?_
  · intro w hw
    rw [← List.map_cons, ← List.map_append] at hw
    obtain ⟨v, hv, rfl⟩ := List.mem_map.mp hw
    refine isLetters_lowered ?_
    rcases List.mem_append.mp hv with hv | hv
    · exact hbefore v hv
    · rcases List.mem_cons.mp hv with rfl | hv
      · exact hc
      · exact hafter v hv
  · cases hs <;> simp
  · cases ht <;> simp

open Query in
/-- All words of such a question are words of a line. -/
theorem isToken_of_sides {before after : List String} {amount connector : String}
    (hx : IsAmount amount.toList) (hbefore : ∀ w ∈ before, IsLetters w.toList)
    (hc : IsLetters connector.toList) (hafter : ∀ w ∈ after, IsLetters w.toList) :
    ∀ w ∈ amount :: (before ++ connector :: after), IsToken w := by
  intro w hw
  rcases List.mem_cons.mp hw with rfl | hw
  · exact ⟨hx.ne_nil, fun d hd => (hx.ascii d hd).2.2⟩
  · refine isToken_of_isLetters ?_
    rcases List.mem_append.mp hw with hw | hw
    · exact hbefore w hw
    · rcases List.mem_cons.mp hw with rfl | hw
      · exact hc
      · exact hafter w hw

/-- A question typed side by side is the line of all its words. -/
theorem intercalate_sides {before after : List String} {source target : String}
    (hs : Query.Side before source) (ht : Query.Side after target) (amount connector : String) :
    amount ++ " " ++ String.intercalate " " before ++ " " ++ connector ++ " " ++
      String.intercalate " " after =
        String.intercalate " " (amount :: (before ++ connector :: after)) := by
  cases hs <;> cases ht <;> simp [String.append_assoc]

/-- **A question of two sides is read** as the question for the last word of each side, with the
    amount that its first word writes. -/
theorem ofLine_sides {before after : List String} {amount source connector target : String}
    {x : Float} (hx : IsAmount amount.toList) (hread : Decimal.read? amount = some x)
    (hs : Query.Side before source) (ht : Query.Side after target)
    (hbefore : ∀ w ∈ before, IsLetters w.toList) (hafter : ∀ w ∈ after, IsLetters w.toList)
    (hc : connector = "to" ∨ connector = "in")
    (hfirst : ∀ v w, after = [v, w] → v ∉ Query.connectors) :
    Query.ofLine (amount ++ " " ++ String.intercalate " " before ++ " " ++ connector ++ " " ++
      String.intercalate " " after) = .ok ⟨x, source, target⟩ := by
  have hcl : IsLetters connector.toList := by rcases hc with rfl | rfl <;> decide
  have hconn : Query.Connects (Query.lowered connector) := by
    rw [← Query.isConnector_iff]
    rcases hc with rfl | rfl <;> decide
  have hmem : connector ∈ Query.connectors := by rcases hc with rfl | rfl <;> decide
  have htokens := isToken_of_sides hx hbefore hcl hafter
  rw [intercalate_sides hs ht, Query.ofLine, Text.words_intercalate htokens]
  exact Query.ofWords_eq htokens (isQuestion_of_sides hx hs ht hbefore hafter hcl hconn) hread
    (Query.unitWords_sides hs ht hmem hfirst)

/-- **Every notation is understood.** A question that gives two measures of one category by
    spellings which can be typed, in any letter case, is admitted as the request for these two
    measures, with the amount typed. -/
theorem resolve_notation (c : Catalog) {u v : Measure} (hu : u ∈ c.measures) (hv : v ∈ c.measures)
    (hcat : u.category = v.category) {a b s t : String} (ha : u.Typable a) (hb : v.Typable b)
    (hs : SameLetters s a) (ht : SameLetters t b) (hfirst : ∀ y, t ≠ "to " ++ y ∧ t ≠ "in " ++ y)
    {connector : String} (hc : connector = "to" ∨ connector = "in") {amount : String}
    (hx : IsAmount amount.toList) :
    ∃ x, Decimal.read? amount = some x ∧ ((x < 0.0 → u.category = .temperature) →
      (Query.ofLine (amount ++ " " ++ s ++ " " ++ connector ++ " " ++ t)).bind c.resolve =
        .ok ⟨x, u, v⟩) := by
  obtain ⟨x, hread⟩ := Decimal.exists_read? hx
  obtain ⟨before, source, rfl, hbefore, hsource, hlb⟩ := exists_side ha hs
  obtain ⟨after, target, rfl, hafter, htarget, hla⟩ := exists_side hb ht
  refine ⟨x, hread, fun hneg => ?_⟩
  have hroute : ∀ y z, after = [y, z] → y ∉ Query.connectors := by
    intro y z he hm
    have htyped : String.intercalate " " after = y ++ " " ++ z := by rw [he]; simp
    rcases List.mem_cons.mp hm with rfl | hm
    · exact (hfirst z).1 htyped
    · obtain rfl := List.mem_singleton.mp hm
      exact (hfirst z).2 htyped
  rw [ofLine_sides hx hread hbefore hafter hlb hla hc hroute]
  exact Catalog.resolve_of_asks ⟨hu, hsource, hv, htarget⟩ hneg hcat

/-- Two words on each side, in mixed case, and a temperature below zero. -/
theorem resolve_notation_celsius :
    let celsius := Measure.temperature "celsius"
      ["c", "dc", "celsius", "degree Celsius", "degrees Celsius"]
    let fahrenheit := Measure.temperature "fahrenheit"
      ["f", "df", "fahrenheit", "degree Fahrenheit", "degrees Fahrenheit"]
    celsius.Typable "degree Celsius" ∧ fahrenheit.Typable "degrees Fahrenheit" ∧
      ∃ x, Decimal.read? "-4E1" = some x ∧
        (Query.ofLine "-4E1 DEGREE celsius in degrees FahrenHeit").bind Catalog.standard.resolve =
          .ok ⟨x, celsius, fahrenheit⟩ := by
  intro celsius fahrenheit
  have hc : celsius.Typable "degree Celsius" :=
    ⟨by decide, .inr ⟨"degree", "Celsius", rfl, by decide, by decide, "celsius", by decide,
      by decide⟩⟩
  have hf : fahrenheit.Typable "degrees Fahrenheit" :=
    ⟨by decide, .inr ⟨"degrees", "Fahrenheit", rfl, by decide, by decide, "fahrenheit", by decide,
      by decide⟩⟩
  have hfirst : ∀ y, "degrees FahrenHeit" ≠ "to " ++ y ∧ "degrees FahrenHeit" ≠ "in " ++ y := by
    intro y
    constructor <;> intro h <;> simpa using congrArg (fun s => s.toList.head?) h
  have hx : IsAmount "-4E1".toList :=
    .inr ⟨['-', '4'], 'E', ['1'], rfl, .inr ⟨['4'], rfl, by decide⟩, by decide, by decide⟩
  obtain ⟨x, hread, h⟩ := resolve_notation Catalog.standard (u := celsius) (v := fahrenheit)
    (by decide) (by decide) rfl hc hf (s := "DEGREE celsius") (t := "degrees FahrenHeit")
    (by unfold SameLetters; decide) (by unfold SameLetters; decide) hfirst (.inr rfl) hx
  exact ⟨hc, hf, x, hread, h fun _ => rfl⟩

end Measures
