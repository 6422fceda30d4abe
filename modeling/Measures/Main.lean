import Measures.Catalog.Standard
import Measures.Command

/-!
# The program

The outer layer: it reads the arguments and, in a dialogue, the lines that the user types, and prints
what the command line (`Measures/Command.lean`) says is shown. The arguments are read as the latest
release of the argument reader reads them, and no printer styles the text.
-/

namespace Measures.Program

/-- Prints what a transcript puts on the two streams. -/
def display (items : List Item) : IO Unit := do
  IO.print (plainText .output items)
  IO.eprint (plainText .diagnostics items)

/-- Prompts for one line. The end of the input cancels the prompt. -/
def ask : IO Response := do
  IO.print (Dialogue.prompt ++ " ")
  (← IO.getStdout).flush
  return .ofInput (← (← IO.getStdin).getLine)

/-- Holds the dialogue, one response at a time, until it ends. -/
partial def converse (verbose : Bool) : IO Command.Ending := do
  let d := Catalog.standard.dialogue [← ask] { styled := false, noted := verbose }
  display d.items
  match d.problem with
  | some p => return .raised p
  | none => if 1 < d.prompts then converse verbose else return .exit Command.success

/-- Ends the program as a bounded run ends. -/
def finish (ending : Command.Ending) : IO UInt32 := do
  let outcome := Command.Outcome.bounded { items := [], ending := ending, styled := false }
  display outcome.items
  match outcome.ending with
  | .exit code => return UInt32.ofNat code
  | .raised _ => return UInt32.ofNat Command.unexpected

end Measures.Program

open Measures in
/-- Runs the program on its arguments. -/
def main (arguments : List String) : IO UInt32 := do
  match Command.Directive.ofArguments arguments .late with
  | .run verbose [] => Program.finish (← Program.converse verbose)
  | directive =>
    let outcome := directive.perform Catalog.standard none false
    Program.display outcome.items
    Program.finish outcome.ending
