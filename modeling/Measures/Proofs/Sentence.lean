import Measures.Catalog.Standard
import Measures.Proofs.Decimal.RoundTrip
import Measures.Proofs.Reply
import Measures.Proofs.Text.Words

/-!
# What a sentence tells

A sentence holds four things, two numbers and two labels, and one can be read off only if the parts
of a sentence are found again. The numbers are single words, so the word `is` between the two halves
is the first such word as long as no label holds one. The messages of faults start with other
characters than numbers do, so no message is taken for a sentence.

* `pieces_describe`: a sentence cut at its spaces;
* `describe_injective`: the sentence gives the answer away;
* `Fault.message_ne_describe`: no message is a sentence;
* `reply_unambiguous`: what two equal replies of a catalog mean.
-/

namespace Measures

open Text (pieces)
open Decimal (IsWritten)

/-- The text has the word `is` between its spaces. -/
def HoldsIs (text : String) : Prop := ['i', 's'] ∈ pieces (· = ' ') text.toList

/-! ## 1. Sentences -/

theorem pieces_writeNumber (x : Float) :
    pieces (· = ' ') (writeNumber x).toList = [(writeNumber x).toList] := by
  refine Text.pieces_of_not_sep fun c hc => decide_eq_false ?_
  rintro rfl
  exact absurd (Decimal.isBlank_of_mem_write hc) (by decide)

/-- **A sentence cut at its spaces**: a number, the words of a label, `is`, and the same again. -/
theorem pieces_describe (a : Answer) : pieces (· = ' ') a.describe.toList =
    (writeNumber a.amount).toList :: (pieces (· = ' ') a.sourceLabel.toList ++
      ['i', 's'] :: (writeNumber a.value).toList :: pieces (· = ' ') a.targetLabel.toList) := by
  have htext : a.describe.toList = (writeNumber a.amount).toList ++ ' ' ::
      (a.sourceLabel.toList ++ ' ' :: (['i', 's'] ++ ' ' ::
        ((writeNumber a.value).toList ++ ' ' :: a.targetLabel.toList))) := by
    simp [Answer.describe]
  have hspace : decide (' ' = ' ') = true := by decide
  rw [htext, Text.pieces_append_sep hspace, Text.pieces_append_sep hspace,
    Text.pieces_append_sep hspace, Text.pieces_append_sep hspace, pieces_writeNumber,
    pieces_writeNumber]
  rfl

/-- Lists cut at the first place of one element have the same parts if they are the same. -/
theorem eq_of_first_eq {α : Type} {a : α} {us vs us' vs' : List α} (hu : a ∉ us) (hu' : a ∉ us')
    (h : us ++ a :: vs = us' ++ a :: vs') : us = us' ∧ vs = vs' := by
  rcases List.append_eq_append_iff.mp h with ⟨ws, rfl, hw⟩ | ⟨ws, rfl, hw⟩
  · cases ws with
    | nil => exact ⟨(List.append_nil us).symm, (List.cons.inj hw).2⟩
    | cons w more =>
      obtain ⟨rfl, _⟩ := List.cons.inj hw
      exact absurd (List.mem_append_right us List.mem_cons_self) hu'
  · cases ws with
    | nil => exact ⟨List.append_nil us', (List.cons.inj hw).2.symm⟩
    | cons w more =>
      obtain ⟨rfl, _⟩ := List.cons.inj hw
      exact absurd (List.mem_append_right us' List.mem_cons_self) hu

/-- A text is known by its pieces. -/
theorem eq_of_pieces_eq {s t : String}
    (h : pieces (· = ' ') s.toList = pieces (· = ' ') t.toList) : s = t := by
  rw [← String.toList_inj, ← Text.intercalate_pieces ' ' s.toList, h, Text.intercalate_pieces]

/-- **A sentence gives its answer away** if the label before `is` does not hold that word. -/
theorem Answer.describe_injective {a b : Answer} (ha : ¬ HoldsIs a.sourceLabel)
    (hb : ¬ HoldsIs b.sourceLabel) (h : a.describe = b.describe) : a = b := by
  have hpieces := congrArg (fun s : String => pieces (· = ' ') s.toList) h
  simp only [pieces_describe, List.cons.injEq] at hpieces
  obtain ⟨hamount, hrest⟩ := hpieces
  obtain ⟨hsource, hrest⟩ := eq_of_first_eq ha hb hrest
  obtain ⟨hvalue, htarget⟩ := List.cons.inj hrest
  have hamount := Decimal.write_injective (String.toList_inj.mp hamount)
  have hvalue := Decimal.write_injective (String.toList_inj.mp hvalue)
  cases a
  cases b
  simp only at hamount hvalue hsource htarget
  rw [hamount, hvalue, eq_of_pieces_eq hsource, eq_of_pieces_eq htarget]

/-! ## 2. Messages -/

/-- A sentence starts as its first number does. -/
theorem Answer.exists_describe_cons (a : Answer) :
    ∃ c rest, a.describe.toList = c :: rest ∧ IsWritten c := by
  obtain ⟨c, more, hc⟩ := List.exists_cons_of_ne_nil (Decimal.write_ne_nil numberFormat a.amount)
  refine ⟨c, more ++ (" " ++ a.sourceLabel ++ " is " ++ writeNumber a.value ++ " " ++
    a.targetLabel).toList, ?_, Decimal.isWritten_of_mem_write (hc ▸ List.mem_cons_self)⟩
  have htext : a.describe.toList = (writeNumber a.amount).toList ++ (" " ++ a.sourceLabel ++
      " is " ++ writeNumber a.value ++ " " ++ a.targetLabel).toList := by
    simp [Answer.describe]
  rw [htext, writeNumber, hc]
  rfl

/-- A message that is told starts with a letter or a space that no number has. -/
theorem Fault.exists_message_cons {f : Fault} (h : f.problem.kind.isQuery = true) :
    ∃ c rest, f.message.toList = c :: rest ∧ ¬ IsWritten c := by
  have himpossible : ∀ s t : String, ∃ c rest, (impossible s t).toList = c :: rest ∧
      ¬ IsWritten c := by
    intro s t
    have hlead : "Conversion from ".toList = 'C' :: "onversion from ".toList := by decide
    have htext : (impossible s t).toList =
        "Conversion from ".toList ++ (s ++ " to " ++ t ++ " is impossible").toList := by
      show ("Conversion from " ++ s ++ " to " ++ t ++ " is impossible").toList = _
      simp only [String.toList_append, List.append_assoc]
    rw [hlead, List.cons_append] at htext
    exact ⟨'C', _, htext, by decide⟩
  cases f with
  | malformed => exact ⟨'P', "arse Error".toList, rfl, by decide⟩
  | unknownMeasure => exact himpossible _ _
  | negativeAmount category =>
    cases category with
    | length => exact ⟨'L', "ength shouldn't be negative".toList, rfl, by decide⟩
    | weight => exact ⟨'W', "eight  shouldn't be negative".toList, rfl, by decide⟩
    | temperature => exact ⟨'T', "emperature shouldn't be negative".toList, rfl, by decide⟩
    | unknown => exact ⟨' ', "shouldn't be negative".toList, rfl, by decide⟩
  | categoryMismatch => exact himpossible _ _
  | noFormula => exact himpossible _ _
  | zeroScale => exact absurd h (by decide)
  | missingWord => exact absurd h (by decide)

/-- **No message is a sentence.** -/
theorem Fault.message_ne_describe {f : Fault} (h : f.problem.kind.isQuery = true) (a : Answer) :
    f.message ≠ a.describe := by
  intro he
  obtain ⟨c, rest, hc, hn⟩ := f.exists_message_cons h
  obtain ⟨d, rest', hd, hw⟩ := a.exists_describe_cons
  rw [he, hd] at hc
  obtain ⟨rfl, _⟩ := List.cons.inj hc
  exact hn hw

/-! ## 3. Replies of a catalog -/

namespace Catalog

variable {c : Catalog} {line line' : String}

/-- The name that goes with a number is a spelling. -/
theorem mem_aliases_of_isLabel {m : Measure} {x : Float} {s : String} (h : m.IsLabel x s) :
    s ∈ m.aliases := by
  cases h with
  | only h => simp [h]
  | singular h => simp [h]
  | plural h => simp [h]

/-- The labels of an answer are spellings of measures of the catalog. -/
theorem exists_sourceLabel_mem {a : Answer} (h : c.answer line = .ok a) :
    ∃ m ∈ c.measures, a.sourceLabel ∈ m.aliases := by
  have ho := c.outcome_answer line
  rw [h] at ho
  cases ho with
  | answered _ ha _ _ _ hs _ => exact ⟨_, ha.source_mem, mem_aliases_of_isLabel hs⟩

/-- A reply is the sentence of an answer or the message of a fault. -/
theorem reply_cases {s : String} (h : c.reply line = .ok s) :
    (∃ a, c.answer line = .ok a ∧ s = a.describe) ∨
      ∃ f, c.answer line = .error f ∧ f.problem.kind.isQuery = true ∧ s = f.message := by
  cases ha : c.answer line with
  | ok a =>
    rw [reply_of_answer ha] at h
    exact .inl ⟨a, rfl, (Except.ok.inj h).symm⟩
  | error f =>
    rcases isQuery_of_answer ha with hk | rfl
    · rw [reply_of_isQuery ha hk] at h
      exact .inr ⟨f, rfl, hk, (Except.ok.inj h).symm⟩
    · rw [reply_of_zeroScale ha] at h
      cases h

/-- **A reply tells what came of the line.** Where no spelling of a catalog holds the word `is`, two
    lines with the same reply have both no answer, or both the same answer, with the same two numbers
    and the same two labels. -/
theorem reply_unambiguous (c : Catalog)
    (hc : ∀ m ∈ c.measures, ∀ a ∈ m.aliases, ['i', 's'] ∉ pieces (· = ' ') a.toList)
    {line line' reply : String} (h : c.reply line = .ok reply) (h' : c.reply line' = .ok reply) :
    (∃ f f', c.answer line = .error f ∧ c.answer line' = .error f') ∨
      ∃ a, c.answer line = .ok a ∧ c.answer line' = .ok a := by
  have hlabel : ∀ {l : String} {a : Answer}, c.answer l = .ok a → ¬ HoldsIs a.sourceLabel := by
    intro l a ha
    obtain ⟨m, hm, hs⟩ := exists_sourceLabel_mem ha
    exact hc m hm _ hs
  rcases reply_cases h with ⟨a, ha, he⟩ | ⟨f, hf, hk, he⟩
  · rcases reply_cases h' with ⟨b, hb, he'⟩ | ⟨f', hf', hk', he'⟩
    · obtain rfl := Answer.describe_injective (hlabel ha) (hlabel hb) (he.symm.trans he')
      exact .inr ⟨a, ha, hb⟩
    · exact absurd (he'.symm.trans he) (Fault.message_ne_describe hk' a)
  · rcases reply_cases h' with ⟨b, hb, he'⟩ | ⟨f', hf', hk', he'⟩
    · exact absurd (he.symm.trans he') (Fault.message_ne_describe hk b)
    · exact .inl ⟨f, f', hf, hf'⟩

/-- Two lines that ask for the same in different letters. -/
theorem reply_unambiguous_kilometer :
    (∀ m ∈ standard.measures, ∀ a ∈ m.aliases, ['i', 's'] ∉ pieces (· = ' ') a.toList) ∧
      standard.reply "2 km to m" = .ok "2.0 kilometers is 2000.0 meters" ∧
      standard.reply "2.0 KM in Meters" = .ok "2.0 kilometers is 2000.0 meters" ∧
      ((∃ f f', standard.answer "2 km to m" = .error f ∧
          standard.answer "2.0 KM in Meters" = .error f') ∨
        ∃ a, standard.answer "2 km to m" = .ok a ∧ standard.answer "2.0 KM in Meters" = .ok a) := by
  have hlabels : ∀ m ∈ standard.measures, ∀ a ∈ m.aliases,
      ['i', 's'] ∉ pieces (· = ' ') a.toList := by decide +kernel
  have h : standard.reply "2 km to m" = .ok "2.0 kilometers is 2000.0 meters" := by
    decide +kernel
  have h' : standard.reply "2.0 KM in Meters" = .ok "2.0 kilometers is 2000.0 meters" := by
    decide +kernel
  exact ⟨hlabels, h, h', standard.reply_unambiguous hlabels h h'⟩

end Catalog

end Measures
