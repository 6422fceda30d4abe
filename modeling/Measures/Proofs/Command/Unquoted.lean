import Measures.Proofs.Command.Service

/-!
# Questions without quotes

A question can be given as one argument, in quotes, or without them, each of its words being an
argument of its own. The two runs agree as long as all arguments are taken for words. The one thing
that can keep them from it is the minus of an amount below zero, which is also the dash of a flag:

* without quotes, an amount with a minus and an exponent is taken for a flag nobody knows
  (`HasMinusExponent`), since what looks like a negative number has no exponent there;
* in quotes, a question with a minus is taken for a flag unless there is a space in it, which there
  need not be, since other white space parts words as well (`IsUnspaced`).

`perform_unquoted` says what comes of both runs for every question, and that they agree exactly if
neither is the case.
-/

namespace Measures.Command

open Text (words)
open Query (IsQuestion)
open Decimal (IsAmount)

/-! ## 1. Questions as arguments -/

/-- The word has a minus in front and an exponent. -/
def HasMinusExponent (word : String) : Prop :=
  word.toList.head? = some '-' ∧ ('e' ∈ word.toList ∨ 'E' ∈ word.toList)

instance (word : String) : Decidable (HasMinusExponent word) :=
  inferInstanceAs (Decidable (_ ∧ _))

/-- The line has a minus in front and no space. -/
def IsUnspaced (line : String) : Prop := line.toList.head? = some '-' ∧ ' ' ∉ line.toList

instance (line : String) : Decidable (IsUnspaced line) := inferInstanceAs (Decidable (_ ∧ _))

variable {line first : String} {rest : List String}

/-- A question has four words or more, so that it does not ask for the listing. -/
theorem asksListing_tokens (h : IsQuestion (first :: rest)) :
    asksListing (first :: rest) = false := by
  refine decide_eq_false fun hu => ?_
  have hlen := h.length_le
  rw [← List.length_map (f := Text.lower), hu] at hlen
  exact absurd hlen (by decide)

/-- The words after the amount are words among the arguments too. -/
theorem isPlain_of_mem_rest (h : IsQuestion (first :: rest)) : ∀ w ∈ rest, IsPlain w := by
  intro w hw
  refine isPlain_of_head?_ne fun hhead => h.dash_not_mem w hw ?_
  exact List.mem_of_mem_head? hhead

/-- What starts with a dash and a digit does not end the flags. -/
theorem ne_dashes {arg : String} {d : Char} {more : List Char} (h : arg.toList = '-' :: d :: more)
    (hd : d.isDigit = true) : arg ≠ "--" := by
  rintro rfl
  obtain rfl : '-' = d := (List.cons.inj (List.cons.inj h).2).1
  exact absurd hd (by decide)

/-- The first word with a minus: a dash and a digit. -/
theorem mark_first {cs : List Char} (ha : IsAmount first.toList) (hcs : first.toList = '-' :: cs) :
    first ≠ "--" ∧
      classify first.toList = .ok (if 'e' ∈ cs ∨ 'E' ∈ cs then .stranger else .word) := by
  rw [hcs] at ha
  obtain ⟨d, more, rfl, hd⟩ := ha.exists_digit
  exact ⟨ne_dashes hcs hd, hcs ▸ classify_amount ha⟩

theorem hasMinusExponent_iff {cs : List Char} (hcs : first.toList = '-' :: cs) :
    HasMinusExponent first ↔ 'e' ∈ cs ∨ 'E' ∈ cs := by
  simp [HasMinusExponent, hcs]

/-- The first word is a word among the arguments unless it has a minus and an exponent. -/
theorem isPlain_first (ha : IsAmount first.toList) (h : ¬ HasMinusExponent first) :
    IsPlain first := by
  by_cases hhead : first.toList.head? = some '-'
  · obtain ⟨cs, hcs⟩ := List.head?_eq_some_iff.mp hhead
    obtain ⟨hne, hmark⟩ := mark_first ha hcs
    rw [if_neg ((hasMinusExponent_iff hcs).not.mp h)] at hmark
    exact ⟨hne, hmark⟩
  · exact isPlain_of_head?_ne hhead

/-- Otherwise it is a stranger. -/
theorem stranger_first (ha : IsAmount first.toList) (h : HasMinusExponent first) :
    first ≠ "--" ∧ classify first.toList = .ok .stranger := by
  obtain ⟨cs, hcs⟩ := List.head?_eq_some_iff.mp h.1
  obtain ⟨hne, hmark⟩ := mark_first ha hcs
  rw [if_pos ((hasMinusExponent_iff hcs).mp h)] at hmark
  exact ⟨hne, hmark⟩

/-- A whole question with a minus is a word only if there is a space in it: it never looks like a
    number, which would be one word. -/
theorem mark_line (hw : words line = first :: rest) (h : IsQuestion (first :: rest))
    (hhead : line.toList.head? = some '-') : line ≠ "--" ∧
      classify line.toList = .ok (if ' ' ∈ line.toList then .word else .stranger) := by
  obtain ⟨ha, _⟩ := h.words
  obtain ⟨tail, hline⟩ := Text.prefix_of_words hw hhead (by decide)
  obtain ⟨cs, hcs⟩ : ∃ cs, first.toList = '-' :: cs := by
    rw [hline, List.head?_append_of_ne_nil _ ha.ne_nil] at hhead
    exact List.head?_eq_some_iff.mp hhead
  obtain ⟨d, more, rfl, hd⟩ := (hcs ▸ ha).exists_digit
  rw [hcs] at hline
  have hlooks : looksNegative line.toList = false := Bool.eq_false_iff.mpr fun hlooks => by
    have hone := length_wordsOf_of_looksNegative hlooks
    have hlen := h.length_le
    rw [← hw, words, List.length_map, hone] at hlen
    exact absurd hlen (by decide)
  refine ⟨ne_dashes hline hd, ?_⟩
  have hmark : classify ('-' :: d :: (more ++ tail)) = _ := classify_digit hd
  rw [List.cons_append, List.cons_append] at hline
  rw [← hline, hlooks, Bool.false_or] at hmark
  simpa only [decide_eq_true_eq] using hmark

/-- In quotes, a question does not ask for the listing either: there is a digit in it. -/
theorem asksListing_line (hw : words line = first :: rest) (h : IsQuestion (first :: rest)) :
    asksListing [line] = false := by
  refine decide_eq_false fun hu => ?_
  obtain ⟨d, hd, hdigit⟩ := h.words.1.exists_mem_isDigit
  obtain ⟨margin, tail, hline, _⟩ := Text.eq_append_of_words hw
  have hlow : d ∈ (Text.lower line).toList := by
    rw [Text.toList_lower]
    refine Text.mem_lowerChars (Text.toNat_lt_of_isDigit hdigit) (Text.isAlpha_of_isDigit hdigit) ?_
    rw [hline]
    exact List.mem_append_left _ (List.mem_append_right _ hd)
  rw [List.singleton_inj.mp hu] at hlow
  have hnone := Text.forall_of_all (fun c => c.isDigit = false) (by decide) hlow
  rw [hdigit] at hnone
  cases hnone

/-! ## 2. The two runs -/

variable {c : Catalog} {script : Option (List Response)} {styled : Bool}

/-- A run that is ended by an argument taken for a flag nobody knows. -/
def rejected (arg : String) (styled : Bool) : Outcome :=
  { items := [.direct .diagnostics (complaintText ("unrecognized arguments: " ++ arg))]
    ending := .exit 2
    styled := styled }

/-- Without quotes. -/
theorem perform_tokens (hw : words line = first :: rest) (h : IsQuestion (first :: rest))
    (s : Setting) : perform c script (words line) s =
      if HasMinusExponent first then rejected first s.styled
      else answerLine c line (.quiet s.styled) := by
  obtain ⟨ha, _⟩ := h.words
  have hrest := isPlain_of_mem_rest h
  rw [hw]
  by_cases hexp : HasMinusExponent first
  · obtain ⟨hne, hmark⟩ := stranger_first ha hexp
    rw [if_pos hexp, perform, Directive.ofArguments_stranger hne hmark hrest]
    rfl
  · have hplain := List.forall_mem_cons.mpr ⟨isPlain_first ha hexp, hrest⟩
    have hwords : words (String.intercalate " " (first :: rest)) = words line := by
      rw [← hw, Text.words_intercalate fun w hm => Text.mem_words hm]
    rw [if_neg hexp, perform_of_words (List.cons_ne_nil first rest) (asksListing_tokens h) hplain,
      quiet_answerLine_of_words_eq hwords]

/-- In quotes. -/
theorem perform_line (hw : words line = first :: rest) (h : IsQuestion (first :: rest))
    (s : Setting) : perform c script [line] s =
      if IsUnspaced line then rejected line s.styled else answerLine c line (.quiet s.styled) := by
  by_cases hun : IsUnspaced line
  · obtain ⟨hne, hmark⟩ := mark_line hw h hun.1
    rw [if_neg hun.2] at hmark
    rw [if_pos hun, perform, Directive.ofArguments_stranger hne hmark (by simp)]
    rfl
  · have hplain : IsPlain line := by
      by_cases hhead : line.toList.head? = some '-'
      · obtain ⟨hne, hmark⟩ := mark_line hw h hhead
        rw [if_pos (not_not.mp (not_and.mp hun hhead))] at hmark
        exact ⟨hne, hmark⟩
      · exact isPlain_of_head?_ne hhead
    rw [if_neg hun, perform_of_words (List.cons_ne_nil line []) (asksListing_line hw h)
      (List.forall_mem_singleton.mpr hplain), String.intercalate_singleton]

/-- Tabs part the words of a line, but there is no space in it. -/
example : perform .standard none ["-20\tc\tto\tf"] = rejected "-20\tc\tto\tf" true := by
  decide +kernel

/-! ## 3. Where they agree -/

/-- The complaint names the argument. -/
theorem rejected_inj {arg arg' : String}
    (h : (rejected arg styled).bounded.Agree (rejected arg' styled).bounded) : arg = arg' := by
  have htext : complaintText ("unrecognized arguments: " ++ arg) =
      complaintText ("unrecognized arguments: " ++ arg') := by
    simpa [rejected, Outcome.bounded, Item.plain] using h.diagnostics
  simpa [complaintText, unlines] using htext

/-- A run that answers a line is not one that is ended by an argument. -/
theorem Serves.ending_ne {o : Outcome} (h : Serves c line o) : o.ending ≠ .exit 2 := by
  cases h with
  | answered _ _ he => rw [he]; decide
  | refused _ _ he => rw [he]; decide

/-- **Questions with and without quotes.** For every question: without quotes it is answered unless
    its first word has a minus and an exponent, in quotes it is answered unless it has a minus and
    no space, and a run that does not answer it complains about the argument. So the two runs agree
    exactly if neither is the case. -/
theorem perform_unquoted (script : Option (List Response)) (s : Setting) {line : String} {q : Query}
    (h : Query.ofLine line = .ok q) :
    ∃ first rest, words line = first :: rest ∧
      perform .standard script (words line) s =
        (if HasMinusExponent first then rejected first s.styled
          else answerLine .standard line (.quiet s.styled)) ∧
      perform .standard script [line] s =
        (if IsUnspaced line then rejected line s.styled
          else answerLine .standard line (.quiet s.styled)) ∧
      Serves .standard line (answerLine .standard line (.quiet s.styled)).bounded ∧
      ((perform .standard script (words line) s).bounded.Agree
          (perform .standard script [line] s).bounded ↔
        ¬ HasMinusExponent first ∧ ¬ IsUnspaced line) := by
  have hquestion := Query.isQuestion_of_ofWords (fun t => Query.isToken_of_mem_words) h
  obtain ⟨first, rest, hw, _⟩ := id hquestion
  rw [hw] at hquestion
  have htokens : perform .standard script (words line) s = _ := perform_tokens hw hquestion s
  have hline : perform .standard script [line] s = _ := perform_line hw hquestion s
  have hserves : Serves .standard line (answerLine .standard line (.quiet s.styled)).bounded :=
    serves_answerLine (Catalog.standard_convertible.not_dividesByZero line)
  refine ⟨first, rest, hw, htokens, hline, hserves, ?_⟩
  rw [htokens, hline]
  by_cases hexp : HasMinusExponent first <;> by_cases hun : IsUnspaced line
  · rw [if_pos hexp, if_pos hun]
    refine iff_of_false (fun hagree => ?_) fun hno => hno.1 hexp
    -- one complaint is about the first word, the other about the whole line
    have hfirst : words first = [first] :=
      Text.words_of_not_blank (Text.mem_words (hw ▸ List.mem_cons_self))
    have hlen := hquestion.length_le
    rw [← hw, ← rejected_inj hagree, hfirst] at hlen
    exact absurd hlen (by simp)
  · rw [if_pos hexp, if_neg hun]
    exact iff_of_false (fun hagree => hserves.ending_ne hagree.ending.symm) fun hno => hno.1 hexp
  · rw [if_neg hexp, if_pos hun]
    exact iff_of_false (fun hagree => hserves.ending_ne hagree.ending) fun hno => hno.2 hun
  · rw [if_neg hexp, if_neg hun]
    exact iff_of_true (Outcome.Agree.refl _) ⟨hexp, hun⟩

/-- Twenty degrees below zero can be typed without quotes; a hundred thousand cannot, if they are
    written with an exponent. -/
theorem perform_unquoted_exponent :
    let plain := "-20 c to f"
    let line := "-1e5 c to f"
    let s : Setting := ⟨.late, false⟩
    (perform .standard none (words plain) s).bounded.Agree
        (perform .standard none [plain] s).bounded ∧
      words line = ["-1e5", "c", "to", "f"] ∧
      perform .standard none (words line) s = rejected "-1e5" false ∧
      perform .standard none [line] s = answerLine .standard line (.quiet false) ∧
      ¬ (perform .standard none (words line) s).bounded.Agree
        (perform .standard none [line] s).bounded := by
  intro plain line s
  have hplain : Query.ofLine plain = .ok ⟨-20.0, "c", "f"⟩ := by decide +kernel
  have hline : Query.ofLine line = .ok ⟨-100000.0, "c", "f"⟩ := by decide +kernel
  have hwords : words plain = ["-20", "c", "to", "f"] := by decide
  have hwords' : words line = ["-1e5", "c", "to", "f"] := by decide
  obtain ⟨first, _, hw, _, _, _, hagree⟩ := perform_unquoted none s hplain
  obtain ⟨first', _, hw', htokens, hquoted, _, hagree'⟩ := perform_unquoted none s hline
  obtain ⟨rfl, _⟩ := List.cons.inj (hwords.symm.trans hw)
  obtain ⟨rfl, _⟩ := List.cons.inj (hwords'.symm.trans hw')
  have hexp : HasMinusExponent "-1e5" := by decide
  rw [if_pos hexp] at htokens
  rw [if_neg (by decide)] at hquoted
  exact ⟨hagree.mpr ⟨by decide, by decide⟩, hwords', htokens, hquoted,
    fun h => (hagree'.mp h).1 hexp⟩

/-- Not every question can be typed without quotes. -/
theorem exists_unquoted_rejected :
    ¬ ∀ line q (r : Release), Query.ofLine line = .ok q →
      (perform .standard none (words line) ⟨r, false⟩).bounded.Agree
        (perform .standard none [line] ⟨r, false⟩).bounded := by
  intro h
  have hline : Query.ofLine "-1e5 c to f" = .ok ⟨-100000.0, "c", "f"⟩ := by decide +kernel
  have hending := (h _ _ .late hline).ending
  have hne : (perform .standard none (words "-1e5 c to f") ⟨.late, false⟩).bounded.ending ≠
      (perform .standard none ["-1e5 c to f"] ⟨.late, false⟩).bounded.ending := by decide +kernel
  exact hne hending

end Measures.Command
