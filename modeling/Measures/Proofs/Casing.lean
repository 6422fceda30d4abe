import Measures.Catalog.Standard
import Measures.Proofs.Decimal.Casing
import Measures.Proofs.Outcome
import Measures.Proofs.Query.Routing

/-!
# Letter case and spacing do not matter

An answer depends on the words of a line in lower case, and on nothing else of the line, with one
exception: where the number of words does not tell the sides of a question apart, routing asks
whether the last word but one is exactly `to` or `in`, and does not know these words in capitals.

Letter case is met with in three places, and each has its own way with it: the shape is looked for
in the whole line lower-cased, the amount is read as it was typed, and a word is lower-cased to be
looked up. What holds them together is that no character beyond ASCII becomes part of a numeral in
lower case, though some, such as the Kelvin sign, become letters.

* `sameLetters_of_lower_eq`: what is a numeral of a question in lower case was one before;
* `ofLine_alike`: lines of the same words ask questions that differ in letter case only;
* `answer_of_sameWords`: so they have the same answer, or the same problem.
-/

namespace Measures

open Text (lower words lowerChars IsNative)
open Decimal (IsAmount)

/-- The same words, one by one, but for letter case. -/
def SameWords (line line' : String) : Prop := (words line).map lower = (words line').map lower

instance (line line' : String) : Decidable (SameWords line line') :=
  inferInstanceAs (Decidable ((words line).map lower = (words line').map lower))

theorem SameWords.length_eq {line line' : String} (h : SameWords line line') :
    (words line).length = (words line').length := by
  simpa using congrArg List.length h

namespace Query

variable {tokens tokens' : List String} {first first' : String} {x : Float} {q : Query}

/-- Questions with the same amount, whose words are the same but for letter case. -/
structure Alike (q q' : Query) : Prop where
  amount : q.amount = q'.amount
  source : lower q.source = lower q'.source
  target : lower q.target = lower q'.target

/-! ## 1. The shape -/

theorem isWellFormed_of_lower_eq (h : tokens.map lower = tokens'.map lower) :
    isWellFormed tokens = isWellFormed tokens' := by
  have hlow : ∀ ts : List String, ts.map lowered = (ts.map lower).map String.toList := fun ts =>
    (List.map_map ..).symm
  rw [isWellFormed_eq, isWellFormed_eq, hlow, hlow, h]

/-! ## 2. The amount -/

/-- The characters of an amount are told in lower case as well. -/
theorem isAmountChar_toLower (c : Char) :
    (decide (c.toLower.toNat < 128) && decide (c.toLower ≠ '_')) =
      (decide (c.toNat < 128) && decide (c ≠ '_')) := by
  have hunderscore : c.toLower = '_' ↔ c = '_' :=
    ⟨fun h => Text.eq_of_toLower_eq h (by decide), fun h => by rw [h]; decide⟩
  simp only [Text.toNat_toLower_lt_iff, ne_eq, hunderscore]

/-- Words that differ in the case of ASCII letters only write the same amount. -/
theorem amount?_of_sameLetters
    (h : first.toList.map Char.toLower = first'.toList.map Char.toLower) :
    amount? first = amount? first' := by
  have hall : ∀ cs : List Char, (cs.all fun c => c.toNat < 128 && c ≠ '_') =
      (cs.map Char.toLower).all fun c => c.toNat < 128 && c ≠ '_' := by
    intro cs
    rw [List.all_map]
    exact congrArg cs.all (funext fun c => (isAmountChar_toLower c).symm)
  rw [amount?, amount?, hall first.toList, hall first'.toList, h, Decimal.read?_of_sameLetters h]

/-- A numeral of a question holds, in lower case, no character that could come from beyond ASCII. -/
theorem isNative_of_isAmount (h : IsAmount first.toList) : ∀ d ∈ lowered first, IsNative d := by
  intro d hd
  rw [lowered, Text.toList_lower, Text.lowerChars_of_ascii fun c hc => (h.ascii c hc).1] at hd
  obtain ⟨c, hc, rfl⟩ := List.mem_map.mp hd
  rcases h.chars c hc with hdigit | hmark
  · exact Text.forall_ascii (fun c => c.isDigit = true → IsNative c.toLower) (by decide)
      (Text.toNat_lt_of_isDigit hdigit) hdigit
  · exact Text.forall_of_all (fun c => IsNative c.toLower) (by decide) hmark

/-- **What is a numeral of a question in lower case** is the same text up to the case of ASCII
    letters: no other character is taken for one of a numeral. -/
theorem sameLetters_of_lower_eq (h : IsAmount first.toList) (hl : lower first = lower first') :
    first.toList.map Char.toLower = first'.toList.map Char.toLower := by
  have hlow : lowerChars first'.toList = lowered first := by
    rw [← Text.toList_lower, ← hl, lowered]
  have hascii : ∀ c ∈ first'.toList, c.toNat < 128 := by
    refine Text.ascii_of_lowerChars ?_
    rw [hlow]
    exact isNative_of_isAmount h
  rw [← Text.lowerChars_of_ascii fun c hc => (h.ascii c hc).1, ← Text.lowerChars_of_ascii hascii,
    hlow, lowered, Text.toList_lower]

/-! ## 3. The words that name the measures -/

theorem unitWords_of_lower_eq (h : tokens.map lower = tokens'.map lower)
    (hp : sourcePlace tokens = sourcePlace tokens') (hn : 2 ≤ tokens.length) :
    (unitWords tokens).map (Prod.map lower lower) =
      (unitWords tokens').map (Prod.map lower lower) := by
  have hlen : tokens.length = tokens'.length := by simpa using congrArg List.length h
  have hget : ∀ i : Nat, tokens[i]?.map lower = tokens'[i]?.map lower := fun i => by
    rw [← List.getElem?_map, h, List.getElem?_map]
  have hlast : tokens.getLast?.map lower = tokens'.getLast?.map lower := by
    rw [← List.getLast?_map, h, List.getLast?_map]
  have hpair : ∀ s t : Option String,
      (do return (← s, ← t) : Option (String × String)).map (Prod.map lower lower) =
        (do return (← s.map lower, ← t.map lower)) := by
    intro s t
    cases s <;> cases t <;> rfl
  rw [unitWords_eq hn, unitWords_eq (hlen ▸ hn), hpair, hpair, ← hp, hget, hlast]

/-! ## 4. Questions -/

/-- Words that are the same but for letter case ask questions that are. -/
theorem ofWords_alike (ht : ∀ t ∈ tokens, IsToken t) (ht' : ∀ t ∈ tokens', IsToken t)
    (hl : tokens.map lower = tokens'.map lower) (hp : sourcePlace tokens = sourcePlace tokens')
    (h : ofWords tokens = .ok q) : ∃ q', ofWords tokens' = .ok q' ∧ q.Alike q' := by
  have hq := isQuestion_of_ofWords ht h
  have hshape' : isWellFormed tokens' = true :=
    (isWellFormed_of_lower_eq hl).symm.trans (hq.isWellFormed ht)
  obtain ⟨⟨source, target⟩, hu⟩ := exists_unitWords hq.length_le
  have hwords := unitWords_of_lower_eq hl hp (Nat.le_trans (by decide) hq.length_le)
  obtain ⟨first, rest, rfl, ha, _⟩ := id hq
  cases tokens' with
  | nil => cases hl
  | cons first' rest' =>
    have hsame := sameLetters_of_lower_eq ha (List.cons.inj hl).1
    obtain ⟨x, hx⟩ := Decimal.exists_read? ha
    have hx' : Decimal.read? first' = some x := (Decimal.read?_of_sameLetters hsame).symm.trans hx
    have hamount' : amount? first' = some x :=
      (amount?_of_sameLetters hsame).symm.trans ((amount?_of_isAmount ha).trans hx)
    have hq' := isQuestion_of_isWellFormed ht' hshape' hamount'
    obtain ⟨⟨source', target'⟩, hu'⟩ := exists_unitWords hq'.length_le
    rw [hu, hu'] at hwords
    obtain ⟨hs, htgt⟩ := Prod.mk.inj (Option.some.inj hwords)
    rw [ofWords_eq ht hq hx hu] at h
    cases h
    exact ⟨⟨x, source', target'⟩, ofWords_eq ht' hq' hx' hu', rfl, hs, htgt⟩

/-- **Lines of the same words ask questions that differ in letter case only**, if routing picks the
    same places in both. -/
theorem ofLine_alike {line line' : String} (hw : SameWords line line')
    (hr : SameRoute (words line) (words line')) (h : ofLine line = .ok q) :
    ∃ q', ofLine line' = .ok q' ∧ q.Alike q' := by
  have ht : ∀ t ∈ words line, IsToken t := fun t => isToken_of_mem_words
  have hn := (isQuestion_of_ofWords ht h).length_le
  have hp := hr.sourcePlace_eq hw.length_eq (Nat.le_trans (by decide) hn)
  exact ofWords_alike ht (fun t => isToken_of_mem_words) hw hp h

end Query

/-! ## 5. Answers -/

namespace Catalog

theorem requestOf_of_alike (c : Catalog) {q q' : Query} (h : q.Alike q') :
    c.requestOf q = c.requestOf q' := by
  rw [requestOf, requestOf, h.amount, lookup_of_lower_eq h.source, lookup_of_lower_eq h.target]

/-- **Letter case and spacing do not matter.** Two lines with the same words but for letter case
    have the same answer in every catalog, or the same problem. Where there are neither four words
    nor six, their last words but one must both be taken at their word, or neither of them. -/
theorem answer_of_sameWords (c : Catalog) {line line' : String} (hw : SameWords line line')
    (hr : Query.SameRoute (words line) (words line')) : c.answer line = c.answer line' := by
  cases hq : Query.ofLine line with
  | ok q =>
    obtain ⟨q', hq', ha⟩ := Query.ofLine_alike hw hr hq
    rw [answer_of_ofLine hq, answer_of_ofLine hq', resolve, resolve, requestOf_of_alike c ha]
  | error f =>
    have hnone : ∀ q, Query.ofLine line ≠ .ok q := fun q hok => by
      rw [hq] at hok
      cases hok
    -- a question in the second line would make one of the first
    have hnone' : ∀ q', Query.ofLine line' ≠ .ok q' := fun q' hq' => by
      obtain ⟨q, hok, _⟩ := Query.ofLine_alike hw.symm (hr.symm hw.length_eq) hq'
      exact hnone q hok
    rw [answer, answer, Query.ofLine_of_not_question hnone, Query.ofLine_of_not_question hnone']

/-- Five words, with capitals, a Kelvin sign, a tab and a no-break space. -/
theorem answer_of_sameWords_kelvin :
    let line := "1 degree Celsius to K"
    let line' := "\t1 DEGREE\u00a0celsius to \u212a "
    SameWords line line' ∧ Query.SameRoute (words line) (words line') ∧
      standard.answer line = .ok ⟨1.0, 274.15, "degree Celsius", "degrees Kelvin"⟩ ∧
      standard.answer line' = standard.answer line := by
  intro line line'
  have hw : SameWords line line' := by decide +kernel
  have hr : Query.SameRoute (words line) (words line') :=
    .inr (.inr (.inr (iff_of_true (by decide +kernel) (by decide +kernel))))
  exact ⟨hw, hr, by decide +kernel, (answer_of_sameWords standard hw hr).symm⟩

/-- In five words a connector in capitals makes another question. -/
example : SameWords "1 degree Celsius to K" "1 degree Celsius TO K" ∧
    standard.answer "1 degree Celsius to K" ≠ standard.answer "1 degree Celsius TO K" :=
  ⟨by decide +kernel, by decide +kernel⟩

end Catalog

end Measures
