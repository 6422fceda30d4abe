import Measures.Command.Arguments
import Measures.Command.Manual
import Measures.Dialogue

/-!
# The command line

A run of the program is a function of its arguments, of what the user answers to prompts, and of the
setting: the release of the argument reader, and the console that is printed to. Without words it is
a dialogue; with the single word `units`, in any letter case, the listing; otherwise the words make
one question. `perform` gives what a run shows and how it ends, which may be by a problem;
`Outcome.bounded` turns every problem into a message and an exit code, so that a bounded run always
ends by an exit code.
-/

namespace Measures.Command

/-! ## 1. Outcomes -/

/-- The exit codes. -/
def success : Nat := 0
/-- A problem that the program itself reports. -/
def failure : Nat := 1
/-- Arguments that cannot be understood, or a problem from outside. -/
def unexpected : Nat := 2
/-- The user has interrupted the program. -/
def interrupted : Nat := 130

/-- How a run ends. -/
inductive Ending where
  | exit (code : Nat)
  | raised (p : Problem)
deriving DecidableEq

/-- What a run shows, how many prompts it makes, and how it ends. -/
structure Outcome where
  items : List Item
  prompts : Nat := 0
  ending : Ending
  /-- Whether it is shown by a printer that styles text itself. -/
  styled : Bool := true
deriving DecidableEq

/-! ## 2. The boundary -/

/-- What is shown about a problem that ends a run. -/
def problemItems (p : Problem) : List Item :=
  if p.kind.isGeneral then
    .warning ("[bold red]Error:[/bold red] " ++ p.message) ::
      match p.hint with
      | none | some "" => []
      | some hint => [.warning ("[yellow]Hint:[/yellow] " ++ hint)]
  else if p.kind = .interrupt then [.warning "\n[yellow]Aborted by user.[/yellow]"]
  else
    [.warning ("[bold red]Unexpected error.[/bold red] Please report this issue.\n  "
      ++ p.kind.name ++ ": " ++ p.message)]

/-- The exit code for a problem that ends a run. -/
def problemCode (p : Problem) : Nat :=
  if p.kind.isGeneral then failure else if p.kind = .interrupt then interrupted else unexpected

/-- The outcome with a problem at its end shown and turned into an exit code. -/
def Outcome.bounded (o : Outcome) : Outcome :=
  match o.ending with
  | .exit _ => o
  | .raised p =>
    { o with
      items := o.items ++ ({ styled := o.styled } : Console).put (problemItems p)
      ending := .exit (problemCode p) }

/-! ## 3. Runs -/

/-- The problem that there is nothing to prompt with. -/
def noPrompt : Problem :=
  { kind := .missingTool
    message := "questionary is not installed. Install with: pip install questionary" }

/-- The words that ask for the listing. -/
def asksListing (words : List String) : Bool := words.map Text.lower = ["units"]

/-- A run that holds a dialogue. Without a script there is nothing to prompt with. -/
def converse (c : Catalog) (script : Option (List Response)) (k : Console := {}) : Outcome :=
  match script with
  | none => { items := [], ending := .raised noPrompt, styled := k.styled }
  | some script =>
    let d := c.dialogue script k
    { items := d.items
      prompts := d.prompts
      ending := match d.problem with
        | none => .exit success
        | some p => .raised p
      styled := k.styled }

/-- A run that lists the catalog. -/
def list (c : Catalog) (k : Console := {}) : Outcome :=
  { items := k.put [.listing c.rows], ending := .exit success, styled := k.styled }

/-- A run that answers one line. -/
def answerLine (c : Catalog) (line : String) (k : Console := {}) : Outcome :=
  let notes := (c.answerNotes line).map Item.note
  match c.answer line with
  | .ok a =>
    { items := k.put notes ++ k.put [.sentence a.describe]
      ending := .exit success
      styled := k.styled }
  | .error f => { items := k.put notes, ending := .raised f.problem, styled := k.styled }

/-- A run on the words of a query. -/
def serve (c : Catalog) (script : Option (List Response)) (words : List String)
    (k : Console := {}) : Outcome :=
  if words = [] then converse c script k
  else if asksListing words then list c k
  else answerLine c (String.intercalate " " words) k

/-- A run of what the arguments ask for. Notes are shown on request only. -/
def Directive.perform (c : Catalog) (script : Option (List Response)) (d : Directive)
    (styled : Bool := true) : Outcome :=
  match d with
  | help => { items := [.direct .output helpText], ending := .exit success, styled := styled }
  | version => { items := [.direct .output versionText], ending := .exit success, styled := styled }
  | complaint message =>
    { items := [.direct .diagnostics (complaintText message)]
      ending := .exit unexpected
      styled := styled }
  | run verbose words => serve c script words { styled := styled, noted := verbose }

/-- What a run finds around it: if nothing is said, the oldest release, and a printer. -/
structure Setting where
  release : Release := .early
  /-- Whether there is a printer that styles text itself. -/
  styled : Bool := true

/-- A run on the given arguments. -/
def perform (c : Catalog) (script : Option (List Response)) (arguments : List String)
    (s : Setting := {}) : Outcome :=
  (Directive.ofArguments arguments s.release).perform c script s.styled

end Measures.Command
