import Measures.Proofs.Query.Acceptance
import Measures.Proofs.Query.Routing

/-!
# Routing and the connector

Two steps of reading look for the connector, each in its own way. The shape of a question has two
places for it, counted from the end, and asks only that the word there holds `to` or `in`. Routing
does not know which place that was: it counts the words and looks at the last but one as it was
typed. Here the two are brought together. Whatever routing picks, there is a way to read the line as
a question in which the source stands before the connector and the target after it.

* `IsConnectorAt`: the places at which a question can have its connector;
* `IsQuestion.isConnectorAt`, `IsQuestion.isConnectorAt_of_flagged`: there is one, and what routing
  takes at its word stands at one;
* `IsQuestion.sourcePlace_lt`: the source stands before it;
* `ofLine_connector`: the same, said of lines.
-/

namespace Measures.Query

open Text (IsLetters)

/-! ## 1. The places of a connector -/

/-- The words can be read as a question with the connector at this place: it is the last but one or
    the last but two, what stands there holds `to` or `in`, and between it and the amount there is
    at least one word of letters. -/
structure IsConnectorAt (tokens : List String) (i : Nat) : Prop where
  place : i + 2 = tokens.length ∨ i + 3 = tokens.length
  connects : ∃ w, tokens[i]? = some w ∧ Connects (lowered w)
  preceded : 2 ≤ i ∧ ∃ w, tokens[i - 1]? = some w ∧ IsLetters (lowered w)

variable {tokens : List String}

/-- **A question is a number and a phrase.** The number has one word, or two if there is a space
    inside it. -/
theorem IsQuestion.exists_phrase (h : IsQuestion tokens) :
    ∃ number phrase, tokens = number ++ phrase ∧ 1 ≤ number.length ∧
      Phrase (phrase.map lowered) := by
  obtain ⟨first, rest, rfl, _, hp | ⟨_, group, more, rfl, _, hp⟩⟩ := h
  · exact ⟨[first], rest, rfl, Nat.le_refl 1, hp⟩
  · exact ⟨[first, group], more, rfl, Nat.le_succ 1, hp⟩

/-- A place of the phrase that can have the connector is such a place of the whole question. -/
theorem isConnectorAt_append {number phrase : List String} (hn : 1 ≤ number.length)
    (hp : Phrase (phrase.map lowered)) {k : Nat} (hk : 1 ≤ k)
    (hplace : k + 2 = phrase.length ∨ k + 3 = phrase.length)
    (hc : ∃ w, phrase[k]? = some w ∧ Connects (lowered w)) :
    IsConnectorAt (number ++ phrase) (number.length + k) where
  place := by
    rw [List.length_append]
    omega
  connects := by
    rwa [List.getElem?_append_right (Nat.le_add_right _ _), Nat.add_sub_cancel_left]
  preceded := by
    have hget : phrase[k - 1]? = some phrase[k - 1] := List.getElem?_eq_getElem (by omega)
    refine ⟨by omega, phrase[k - 1], ?_, hp.letters _ (List.mem_map_of_mem (List.getElem_mem _))⟩
    rw [List.getElem?_append_right (by omega), ← hget]
    congr 1
    omega

/-- **There is a place for the connector**, or the words would be no question. -/
theorem IsQuestion.isConnectorAt (h : IsQuestion tokens) : ∃ i, IsConnectorAt tokens i := by
  obtain ⟨number, phrase, rfl, hn, hp⟩ := h.exists_phrase
  have hword : ∀ {k : Nat}, (∃ w, (phrase.map lowered)[k]? = some w ∧ Connects w) →
      ∃ w, phrase[k]? = some w ∧ Connects (lowered w) := by
    intro k ⟨w, hw, hc⟩
    rw [List.getElem?_map, Option.map_eq_some_iff] at hw
    obtain ⟨t, ht, rfl⟩ := hw
    exact ⟨t, ht, hc⟩
  have hconn := hp.connected
  rw [List.length_map] at hconn
  rcases hconn with ⟨hlen, hc⟩ | ⟨hlen, hc⟩
  · exact ⟨_, isConnectorAt_append hn hp (by omega) (.inl (by omega)) (hword hc)⟩
  · exact ⟨_, isConnectorAt_append hn hp (by omega) (.inr (by omega)) (hword hc)⟩

/-- What routing takes at its word holds `to` or `in`. -/
theorem connects_of_mem_connectors {w : String} (h : w ∈ connectors) : Connects (lowered w) := by
  have hall : ∀ w ∈ connectors, isConnector (lowered w) = true := by decide
  exact (isConnector_iff _).mp (hall w h)

/-- **A word that is taken at its word is the connector** in one way to read the question. -/
theorem IsQuestion.isConnectorAt_of_flagged (h : IsQuestion tokens) (hf : Flagged tokens) :
    IsConnectorAt tokens (tokens.length - 2) := by
  obtain ⟨w, hw, hget⟩ := hf
  obtain ⟨number, phrase, rfl, hn, hp⟩ := h.exists_phrase
  have hlen : 3 ≤ phrase.length := by simpa using hp.length_le
  have hplace : (number ++ phrase).length - 2 = number.length + (phrase.length - 2) := by
    rw [List.length_append]
    omega
  rw [hplace] at hget ⊢
  rw [List.getElem?_append_right (Nat.le_add_right _ _), Nat.add_sub_cancel_left] at hget
  exact isConnectorAt_append hn hp (by omega) (.inl (by omega))
    ⟨w, hget, connects_of_mem_connectors hw⟩

/-! ## 2. The source stands before it -/

/-- **The source stands before a connector.** Where routing takes the last word but one at its word,
    that is the connector. Elsewhere any connector will do: the source is the second word then, or
    the third of six, and no connector stands as early. -/
theorem IsQuestion.sourcePlace_lt (h : IsQuestion tokens) :
    ∃ i, IsConnectorAt tokens i ∧ 1 ≤ sourcePlace tokens ∧ sourcePlace tokens < i := by
  have hlen := h.length_le
  by_cases hf : Flagged tokens
  · refine ⟨_, h.isConnectorAt_of_flagged hf, ?_⟩
    unfold sourcePlace
    split
    · omega
    · split <;> omega
  · obtain ⟨i, hi⟩ := h.isConnectorAt
    have hplace := hi.place
    have hearly := hi.preceded.1
    refine ⟨i, hi, ?_⟩
    unfold sourcePlace
    simp only [hf, or_false]
    split
    · omega
    · split <;> omega

/-! ## 3. Lines -/

/-- The words that a question names its measures by are those that routing picks. -/
theorem unitWords_of_ofWords {q : Query} (ht : ∀ t ∈ tokens, IsToken t)
    (h : ofWords tokens = .ok q) : unitWords tokens = some (q.source, q.target) := by
  have hq := isQuestion_of_ofWords ht h
  obtain ⟨⟨source, target⟩, hu⟩ := exists_unitWords hq.length_le
  obtain ⟨first, rest, rfl, ha, _⟩ := id hq
  obtain ⟨x, hx⟩ := Decimal.exists_read? ha
  rw [ofWords_eq ht hq hx hu] at h
  cases h
  exact hu

/-- **The source comes from before a connector, and the target from after it.** For every question,
    routing picks two words; the line can be read as a question with the connector at some place
    `i`, the source is an earlier word after the first, and the target is the last word, which
    comes after that place. -/
theorem ofLine_connector {line : String} {q : Query} (h : ofLine line = .ok q) :
    let tokens := Text.words line
    unitWords tokens = some (q.source, q.target) ∧
      ∃ i j, IsConnectorAt tokens i ∧ 1 ≤ j ∧ j < i ∧ tokens[j]? = some q.source ∧
        i < tokens.length - 1 ∧ tokens[tokens.length - 1]? = some q.target := by
  intro tokens
  have ht : ∀ t ∈ tokens, IsToken t := fun t => isToken_of_mem_words
  have hq : IsQuestion tokens := isQuestion_of_ofWords ht h
  have hu : unitWords tokens = some (q.source, q.target) := unitWords_of_ofWords ht h
  obtain ⟨i, hi, hone, hlt⟩ := hq.sourcePlace_lt
  refine ⟨hu, i, sourcePlace tokens, hi, hone, hlt, ?_⟩
  have hlast : i < tokens.length - 1 := by
    have := hi.place
    omega
  have hsource : tokens[sourcePlace tokens]? = some tokens[sourcePlace tokens] :=
    List.getElem?_eq_getElem (by omega)
  have htarget : tokens[tokens.length - 1]? = some tokens[tokens.length - 1] :=
    List.getElem?_eq_getElem (by omega)
  rw [unitWords_eq (Nat.le_trans (by decide) hq.length_le), List.getLast?_eq_getElem?, hsource,
    htarget] at hu
  obtain ⟨hs, hl⟩ := Prod.mk.inj (Option.some.inj hu)
  exact ⟨hsource.trans (congrArg some hs), hlast, htarget.trans (congrArg some hl)⟩

/-- Both places for the connector are taken by one. The last but one is taken at its word, so that
    `to` is the source. -/
theorem ofLine_connector_inch :
    let tokens := Text.words "1 inch to in feet"
    ofLine "1 inch to in feet" = .ok ⟨1.0, "to", "feet"⟩ ∧ IsConnectorAt tokens 2 ∧
      unitWords tokens = some ("to", "feet") ∧
      ∃ i j, IsConnectorAt tokens i ∧ 1 ≤ j ∧ j < i ∧ tokens[j]? = some "to" ∧
        i < tokens.length - 1 ∧ tokens[tokens.length - 1]? = some "feet" := by
  intro tokens
  have hline : ofLine "1 inch to in feet" = .ok ⟨1.0, "to", "feet"⟩ := by decide +kernel
  have htwo : IsConnectorAt tokens 2 :=
    ⟨.inr (by decide), ⟨"to", by decide, connects_of_mem_connectors (by decide)⟩, by decide,
      "inch", by decide, by decide⟩
  exact ⟨hline, htwo, ofLine_connector hline⟩

/-- A group of digits after the amount can be picked as the source. -/
example : ofLine "1 5 km into mi" = .ok ⟨1.0, "5", "mi"⟩ := by decide +kernel

end Measures.Query
