import Measures.Proofs.Command.Console

/-!
# What becomes of a problem that ends a run

A bounded run always ends by an exit code. If the run itself ended by one, nothing is changed;
if it ended by a problem, the problem is shown among the diagnostics, and the exit code tells the
kind of problem: one that the program itself reports, an interruption, or anything else.

* `Reported`, `reported_problem`: the exit code and the text for every problem;
* `Outcome.output_bounded`: what a run has put out stays as it was, and nothing is added to it.
-/

namespace Measures.Command

/-! ## 1. The report of a problem -/

/-- The line with the hint of a problem. An empty hint is none. -/
def hintLine : Option String → String
  | none | some "" => ""
  | some hint => "[yellow]Hint:[/yellow] " ++ hint ++ "\n"

/-- The exit code for a problem, and the text that tells of it. -/
inductive Reported (p : Problem) : Nat → String → Prop where
  /-- A problem that the program itself reports: its message, and its hint if it has one. -/
  | general (h : p.kind.isGeneral = true) :
      Reported p 1 ("[bold red]Error:[/bold red] " ++ p.message ++ "\n" ++ hintLine p.hint)
  /-- The user has interrupted the program. -/
  | interrupt (h : p.kind = .interrupt) : Reported p 130 "\n[yellow]Aborted by user.[/yellow]\n"
  /-- Any other problem: its kind and its message. -/
  | unexpected (h : p.kind.isGeneral = false) (hi : p.kind ≠ .interrupt) :
      Reported p 2 ("[bold red]Unexpected error.[/bold red] Please report this issue.\n  " ++
        p.kind.name ++ ": " ++ p.message ++ "\n")

@[simp] theorem plain_warning (text : String) :
    (Item.warning text).plain .diagnostics = text ++ "\n" := by
  simp [Item.warning, Item.plain]

@[simp] theorem plain_output_warning (text : String) : (Item.warning text).plain .output = "" := by
  simp [Item.warning, Item.plain]

theorem diagnostics_problemItems {p : Problem} (h : p.kind.isGeneral = true) :
    plainText .diagnostics (problemItems p) =
      "[bold red]Error:[/bold red] " ++ p.message ++ "\n" ++ hintLine p.hint := by
  rw [problemItems, if_pos h, plainText_cons, plain_warning]
  congr 1
  cases p.hint with
  | none => rfl
  | some hint =>
    by_cases he : hint = ""
    · subst he
      rfl
    · simp [hintLine]

/-- **Every problem is reported** as its kind demands. -/
theorem reported_problem (p : Problem) :
    Reported p (problemCode p) (plainText .diagnostics (problemItems p)) := by
  by_cases hg : p.kind.isGeneral = true
  · rw [diagnostics_problemItems hg, problemCode, if_pos hg]
    exact .general hg
  · rw [problemCode, problemItems, if_neg hg, if_neg hg]
    by_cases hi : p.kind = .interrupt
    · rw [if_pos hi, if_pos hi, plainText_cons, plain_warning]
      exact .interrupt hi
    · rw [if_neg hi, if_neg hi, plainText_cons, plain_warning, plainText_nil, String.append_empty]
      exact .unexpected (by simpa using hg) hi

theorem output_problemItems (p : Problem) : plainText .output (problemItems p) = "" := by
  unfold problemItems
  split
  · split <;> simp
  · split <;> simp

/-! ## 2. Bounded runs -/

namespace Outcome

variable {o : Outcome} {p : Problem}

theorem bounded_of_exit {code : Nat} (h : o.ending = .exit code) : o.bounded = o := by
  rw [bounded, h]

theorem bounded_of_raised (h : o.ending = .raised p) :
    o.bounded = { o with
      items := o.items ++ ({ styled := o.styled } : Console).put (problemItems p)
      ending := .exit (problemCode p) } := by
  rw [bounded, h]

/-- What is shown about a problem comes last. -/
theorem plainText_bounded (h : o.ending = .raised p) (stream : Stream) :
    plainText stream o.bounded.items =
      plainText stream o.items ++ plainText stream (problemItems p) := by
  rw [bounded_of_raised h, plainText_append, Console.plainText_put]
  rfl

theorem prompts_bounded (o : Outcome) : o.bounded.prompts = o.prompts := by
  cases h : o.ending with
  | exit code => rw [bounded_of_exit h]
  | raised p => rw [bounded_of_raised h]

/-- **The boundary adds nothing to the output**, and takes nothing away from it. -/
theorem output_bounded (o : Outcome) :
    plainText .output o.bounded.items = plainText .output o.items := by
  cases h : o.ending with
  | exit code => rw [bounded_of_exit h]
  | raised p => rw [plainText_bounded h, output_problemItems, String.append_empty]

/-- Two runs that nobody can tell apart: they end in the same way, with the same text on both
    streams. -/
structure Agree (o o' : Outcome) : Prop where
  ending : o.ending = o'.ending
  output : plainText .output o.items = plainText .output o'.items
  diagnostics : plainText .diagnostics o.items = plainText .diagnostics o'.items

theorem Agree.refl (o : Outcome) : o.Agree o := ⟨rfl, rfl, rfl⟩

end Outcome

end Measures.Command
