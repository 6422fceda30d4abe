import Measures.Proofs.Command.Service
import Measures.Proofs.Command.Ending

/-!
# Headings without a printer

The report of a problem has a heading, and so has its hint. Both stand between tags, which are meant
for a printer that styles text itself. Where there is none the report is put out as it is, the tags
included: what the user reads is not the heading and the message, but the heading with its tags and
the message. Apart from the tags the report is complete: a hint is shown exactly if there is one and
it is not empty, and nothing else goes to the diagnostics of a run without notes.

* `report`: the report of a problem, with its headings set in some way;
* `diagnostics_of_raised`: the diagnostics of a run that ends by a problem;
* `perform_tags`: they have the tags in them, for every problem that the program itself reports;
* `exists_tags_shown`: a line that is no question.
-/

namespace Measures.Command

/-- A text between two tags. -/
def tagged (tag text : String) : String := "[" ++ tag ++ "]" ++ text ++ "[/" ++ tag ++ "]"

/-- The report of a problem, its two headings set as given. An empty hint is none. -/
def report (heading subheading : String → String) (p : Problem) : String :=
  heading "Error:" ++ " " ++ p.message ++ "\n" ++
    match p.hint with
    | none | some "" => ""
    | some hint => subheading "Hint:" ++ " " ++ hint ++ "\n"

variable {c : Catalog} {script : Option (List Response)} {args : List String} {p : Problem}
  {styled : Bool} {r : Release}

/-- **What stands among the diagnostics of a run that ends by a problem** is the report of the
    problem, if notes are not asked for. -/
theorem diagnostics_of_raised {d : Directive} (hv : d.isVerbose = false)
    (hp : (d.perform c script styled).ending = .raised p) :
    plainText .diagnostics (d.perform c script styled).bounded.items =
      plainText .diagnostics (problemItems p) := by
  rw [Outcome.plainText_bounded hp]
  cases d with
  | help => cases hp
  | version => cases hp
  | complaint message => cases hp
  | run verbose words =>
    obtain rfl : verbose = false := hv
    have hquiet := diagnostics_quiet c script words styled
    exact hquiet ▸ String.empty_append

theorem report_tagged (hg : p.kind.isGeneral = true) :
    plainText .diagnostics (problemItems p) = report (tagged "bold red") (tagged "yellow") p := by
  have hheading : tagged "bold red" "Error:" ++ " " = "[bold red]Error:[/bold red] " := by decide
  have hhint : hintLine p.hint = match p.hint with
      | none | some "" => ""
      | some hint => tagged "yellow" "Hint:" ++ " " ++ hint ++ "\n" := rfl
  rw [diagnostics_problemItems hg, report, hheading, hhint]

/-- The first character tells the two apart. -/
theorem report_tagged_ne (p : Problem) :
    report (tagged "bold red") (tagged "yellow") p ≠ report id id p := by
  have hhead : ∀ heading subheading, (report heading subheading p).toList.head? =
      (heading "Error:" ++ " ").toList.head? := by
    intro heading subheading
    simp [report, List.head?_append]
  intro h
  have hfirst := hhead (tagged "bold red") (tagged "yellow")
  rw [h, hhead] at hfirst
  exact absurd hfirst (by decide)

/-- **Every problem that the program itself reports is shown with tags in it** where there is no
    printer. If the run is without notes, its diagnostics are the message and the hint behind
    headings that stand between tags, and never the plain headings. -/
theorem perform_tags (hv : (Directive.ofArguments args r).isVerbose = false)
    (hp : (perform c script args ⟨r, false⟩).ending = .raised p) (hg : p.kind.isGeneral = true) :
    plainText .diagnostics (perform c script args ⟨r, false⟩).bounded.items =
        report (tagged "bold red") (tagged "yellow") p ∧
      plainText .diagnostics (perform c script args ⟨r, false⟩).bounded.items ≠
        report id id p := by
  have htext : plainText .diagnostics (perform c script args ⟨r, false⟩).bounded.items =
      report (tagged "bold red") (tagged "yellow") p :=
    (diagnostics_of_raised hv hp).trans (report_tagged hg)
  exact ⟨htext, htext ▸ report_tagged_ne p⟩

/-- A problem with a hint that comes up in a prompt. -/
theorem perform_tags_prompt :
    let p : Problem := { kind := .general, message := "no table", hint := some "try again" }
    let o := perform .standard (some [.line "1 km to m", .raised p]) [] ⟨.late, false⟩
    o.ending = .raised p ∧ p.kind.isGeneral = true ∧
      plainText .diagnostics o.bounded.items =
        "[bold red]Error:[/bold red] no table\n[yellow]Hint:[/yellow] try again\n" := by
  intro p o
  have hp : o.ending = .raised p := by decide
  obtain ⟨htext, _⟩ := perform_tags (by decide) hp (by decide)
  exact ⟨hp, by decide, htext.trans (by decide)⟩

/-- The report is not the plain one that is announced: a line that is no question is reported with
    tags around the heading. -/
theorem exists_tags_shown :
    ¬ ∀ script args p (r : Release), (Directive.ofArguments args r).isVerbose = false →
      (perform .standard script args ⟨r, false⟩).ending = .raised p → p.kind.isGeneral = true →
        plainText .diagnostics (perform .standard script args ⟨r, false⟩).bounded.items =
          report id id p := by
  intro h
  have hv : (Directive.ofArguments ["abc"] .late).isVerbose = false := by decide
  have hp : (perform .standard none ["abc"] ⟨.late, false⟩).ending =
      .raised Fault.malformed.problem := by decide
  have htext := h none ["abc"] _ .late hv hp (by decide)
  exact absurd htext (by decide)

end Measures.Command
