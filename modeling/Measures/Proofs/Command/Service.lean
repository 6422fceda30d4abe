import Measures.Proofs.Catalog.Standard
import Measures.Proofs.Command.Arguments
import Measures.Proofs.Command.Boundary

/-!
# One question on the command line

A run on words other than the single `units` answers the line that they make. It does not matter
how the line is split into arguments, since only its words count; and what the run puts out is what
a dialogue would reply: to the output with exit code 0 if it is an answer, and to the diagnostics
with exit code 1 if it is the reason why there is none.

* `quiet_answerLine_of_words_eq`: lines of the same words make the same run;
* `Serves`, `serves_answerLine`: what such a run shows, and how it ends;
* `perform_words`: the two put together, for any way to split the line.
-/

namespace Measures

open Text (words)

/-! ## 1. Lines of the same words -/

theorem Catalog.answer_of_words_eq (c : Catalog) {line line' : String}
    (h : words line = words line') : c.answer line = c.answer line' := by
  rw [answer, answer, Query.ofLine, Query.ofLine, h]

/-! ## 2. Reasons, as a run reports them -/

theorem Kind.isGeneral_of_isQuery {k : Kind} (h : k.isQuery = true) : k.isGeneral = true := by
  cases k with
  | other name => exact absurd h (by simp)
  | _ => revert h; decide

namespace Command

/-- A hint is given about unknown measures only. -/
theorem hintLine_problem (f : Fault) : hintLine f.problem.hint =
    if f.problem.kind = .unknownMeasure then
      "[yellow]Hint:[/yellow] Run 'unit-converter units' to list the supported units.\n"
    else "" := by
  cases f <;> rfl

/-! ## 3. Runs that answer a line -/

variable {c : Catalog} {script : Option (List Response)} {line line' : String} {styled : Bool}

theorem filter_isNote_map (notes : List Note) :
    (notes.map Item.note).filter (!·.isNote) = [] := by
  simp [Item.isNote]

/-- Notes that are not wanted are not put anywhere. -/
theorem put_quiet_notes (styled : Bool) (notes : List Note) :
    (Console.quiet styled).put (notes.map Item.note) = [] := by
  have hwanted : (Console.quiet styled).wanted (notes.map Item.note) = [] := filter_isNote_map notes
  cases styled <;> simp [Console.put, hwanted]

/-- Without its notes, a run on a line with an answer shows the answer. -/
theorem quiet_answerLine_ok {a : Answer} (h : c.answer line = .ok a) :
    answerLine c line (.quiet styled) =
      { items := (Console.quiet styled).put [.sentence a.describe]
        ending := .exit success
        styled := styled } := by
  rw [answerLine, h, put_quiet_notes]
  rfl

/-- Without its notes, a run on a line without an answer shows nothing before it ends. -/
theorem quiet_answerLine_error {f : Fault} (h : c.answer line = .error f) :
    answerLine c line (.quiet styled) =
      { items := [], ending := .raised f.problem, styled := styled } := by
  rw [answerLine, h, put_quiet_notes]
  rfl

/-- **Only the words of a line count** for what a run without notes shows, and how it ends. -/
theorem quiet_answerLine_of_words_eq (h : words line = words line') :
    answerLine c line (.quiet styled) = answerLine c line' (.quiet styled) := by
  have ha := c.answer_of_words_eq h
  cases hline : c.answer line with
  | ok a => rw [quiet_answerLine_ok hline, quiet_answerLine_ok (ha.symm.trans hline)]
  | error f => rw [quiet_answerLine_error hline, quiet_answerLine_error (ha.symm.trans hline)]

/-- What a run shows that answers a line, and how it ends: the answer as a sentence, or the message
    of the reason why there is none. -/
inductive Serves (c : Catalog) (line : String) (o : Outcome) : Prop where
  | answered {a : Answer} {sentence : String} (ha : c.answer line = .ok a)
      (hs : c.reply line = .ok sentence) (he : o.ending = .exit 0)
      (ho : plainText .output o.items = sentence ++ "\n")
      (hd : plainText .diagnostics o.items = "")
  | refused {f : Fault} {message : String} (hf : c.answer line = .error f)
      (hs : c.reply line = .ok message) (he : o.ending = .exit 1)
      (ho : plainText .output o.items = "")
      (hd : plainText .diagnostics o.items =
        "[bold red]Error:[/bold red] " ++ message ++ "\n" ++
          if f.problem.kind = .unknownMeasure then
            "[yellow]Hint:[/yellow] Run 'unit-converter units' to list the supported units.\n"
          else "")

/-- **A run and a reply agree on every line** that has a reply. -/
theorem serves_answerLine (h : ¬ c.DividesByZero line) :
    Serves c line (answerLine c line (.quiet styled)).bounded := by
  cases hline : c.answer line with
  | ok a =>
    have hwanted : (Console.quiet styled).wanted [.sentence a.describe] = [.sentence a.describe] :=
      rfl
    rw [quiet_answerLine_ok hline, Outcome.bounded_of_exit rfl]
    refine .answered hline (Catalog.reply_of_answer hline) rfl ?_ ?_
    · rw [Console.plainText_put, hwanted]
      simp [Item.sentence, Item.plain]
    · rw [Console.plainText_put, hwanted]
      simp [Item.sentence, Item.plain]
  | error f =>
    have hquery := Catalog.isQuery_iff_not_dividesByZero.mpr h f hline
    have hgeneral := Kind.isGeneral_of_isQuery hquery
    have hcode : problemCode f.problem = 1 := if_pos hgeneral
    rw [quiet_answerLine_error hline]
    refine .refused hline (Catalog.reply_of_isQuery hline hquery) ?_ ?_ ?_
    · rw [Outcome.bounded_of_raised rfl, hcode]
    · rw [Outcome.plainText_bounded rfl, output_problemItems]
      rfl
    · rw [Outcome.plainText_bounded rfl, diagnostics_problemItems hgeneral, hintLine_problem]
      exact String.empty_append

/-! ## 4. Runs on arguments -/

/-- Arguments that are all words, and not the one word that asks for the listing, make a line. -/
theorem perform_of_words {args : List String} (hne : args ≠ []) (hu : asksListing args = false)
    (h : ∀ arg ∈ args, IsPlain arg) (s : Setting) :
    perform c script args s =
      answerLine c (String.intercalate " " args) (.quiet s.styled) := by
  rw [perform, Directive.ofArguments_words h]
  show serve c script args (.quiet s.styled) = _
  rw [serve, if_neg hne, if_neg (by rw [hu]; decide)]

/-- **A question on the command line is served as a dialogue would reply to it**, however it is
    split into arguments. -/
theorem perform_words (script : Option (List Response)) (s : Setting) {args : List String}
    {line : String} (hne : args ≠ []) (hdash : ∀ arg ∈ args, arg.toList.head? ≠ some '-')
    (hunits : args.map Text.lower ≠ ["units"]) (hline : words line = args.flatMap words) :
    Serves .standard line (perform .standard script args s).bounded := by
  have hwords : words (String.intercalate " " args) = words line :=
    (Text.words_intercalate_flatMap args).trans hline.symm
  have hplain : ∀ arg ∈ args, IsPlain arg := fun arg hm => isPlain_of_head?_ne (hdash arg hm)
  rw [perform_of_words hne (decide_eq_false hunits) hplain, quiet_answerLine_of_words_eq hwords]
  exact serves_answerLine (Catalog.standard_convertible.not_dividesByZero line)

/-- Four arguments, one of them empty, and one of them two words with a tab between. -/
theorem perform_words_split :
    let args := ["10\tkm", "", " to", "mi"]
    args.map Text.lower ≠ ["units"] ∧ words "10 km to mi" = args.flatMap words ∧
      Serves .standard "10 km to mi" (perform .standard none args ⟨.late, false⟩).bounded := by
  intro args
  have hunits : args.map Text.lower ≠ ["units"] := by decide
  have hline : words "10 km to mi" = args.flatMap words := by decide
  exact ⟨hunits, hline, perform_words none _ (List.cons_ne_nil _ _) (by decide) hunits hline⟩

end Command

end Measures
