import Measures.Catalog.Standard
import Measures.Proofs.Command.Boundary

/-!
# How a run ends

A run on arguments ends by an exit code of its own, or by a problem, which the boundary reports. Of
the many things a run can be (help, the version, a complaint about the arguments, a listing, an
answer, a dialogue), only a complaint has text of its own among the diagnostics; all others put
nothing there but notes. So whether anything is shown among the diagnostics of a run without notes
tells whether it has failed.

* `OnlyNotes`, `onlyNotes_serve`: nothing but notes goes to the diagnostics;
* `serve_cases`, `ends_serve`: a run on words ends well, or by a problem;
* `EndsBy`, `perform_endsBy`: exit code, diagnostics and output of any run, for whatever it is that
  ends it.
-/

namespace Measures

/-! ## 1. What goes to the diagnostics -/

/-- Nothing among the items but notes puts text on the diagnostics. -/
def OnlyNotes (items : List Item) : Prop :=
  ∀ i ∈ items, i.isNote = false → i.plain .diagnostics = ""

theorem onlyNotes_nil : OnlyNotes [] := fun _ h => absurd h List.not_mem_nil

theorem OnlyNotes.append {items items' : List Item} (h : OnlyNotes items) (h' : OnlyNotes items') :
    OnlyNotes (items ++ items') := List.forall_mem_append.mpr ⟨h, h'⟩

theorem onlyNotes_map_note (notes : List Note) : OnlyNotes (notes.map Item.note) := by
  intro i hi hn
  obtain ⟨_, _, rfl⟩ := List.mem_map.mp hi
  cases hn

/-- An item that is no note, and whose text goes to the output. -/
theorem onlyNotes_singleton {i : Item} (h : i.plain .diagnostics = "") : OnlyNotes [i] :=
  List.forall_mem_singleton.mpr fun _ => h

/-- Without its notes a transcript puts nothing on the diagnostics. -/
theorem OnlyNotes.diagnostics_filter {items : List Item} (h : OnlyNotes items) :
    plainText .diagnostics (items.filter (!·.isNote)) = "" := by
  induction items with
  | nil => rfl
  | cons i rest ih =>
    obtain ⟨hi, hrest⟩ := List.forall_mem_cons.mp h
    cases hn : i.isNote with
    | true => simpa [hn] using ih hrest
    | false => simpa [hn, hi hn] using ih hrest

/-- Nor does what is put of it on a console where notes are not wanted. -/
theorem OnlyNotes.diagnostics_put {items : List Item} (h : OnlyNotes items) (styled : Bool) :
    plainText .diagnostics ((Console.quiet styled).put items) = "" := by
  rw [Console.plainText_put]
  exact h.diagnostics_filter

/-- Notes are not part of the output. -/
theorem output_filter (items : List Item) :
    plainText .output (items.filter (!·.isNote)) = plainText .output items := by
  induction items with
  | nil => rfl
  | cons i rest ih =>
    cases hn : i.isNote with
    | true =>
      have hi : i.plain .output = "" := by
        cases i with
        | note n => rfl
        | _ => cases hn
      simpa [hn, hi] using ih
    | false => simpa [hn] using ih

/-- **A dialogue puts nothing on the diagnostics but notes.** -/
theorem Catalog.onlyNotes_dialogue (c : Catalog) :
    ∀ script : List Response, OnlyNotes (c.dialogue script).items
  | [] | .cancelled :: _ | .raised _ :: _ => onlyNotes_nil
  | .line text :: rest => by
    have ih := c.onlyNotes_dialogue rest
    rw [dialogue]
    split
    · exact onlyNotes_nil
    · cases c.reply text with
      | ok reply =>
        have hturn : OnlyNotes (c.replyItems text reply) :=
          (onlyNotes_map_note _).append ((onlyNotes_singleton rfl).append (onlyNotes_singleton rfl))
        exact hturn.append ih
      | error f =>
        simp only [Dialogue.items, List.flatten_cons, List.flatten_nil, List.append_nil]
        exact onlyNotes_map_note _

namespace Command

variable {c : Catalog} {script : Option (List Response)}

/-- A run on words is a dialogue, the listing, or the answer to a line. What holds of all these
    holds of it. -/
theorem serve_cases {P : Outcome → Prop} (words : List String)
    (hconverse : P (converse c script)) (hlist : P (list c))
    (hline : ∀ line, P (answerLine c line)) : P (serve c script words) := by
  unfold serve
  split
  · exact hconverse
  · split
    · exact hlist
    · exact hline _

theorem onlyNotes_converse (c : Catalog) : ∀ script, OnlyNotes (converse c script).items
  | none => onlyNotes_nil
  | some script => c.onlyNotes_dialogue script

theorem onlyNotes_answerLine (c : Catalog) (line : String) :
    OnlyNotes (answerLine c line).items := by
  unfold answerLine
  cases c.answer line with
  | ok a => exact (onlyNotes_map_note _).append (onlyNotes_singleton rfl)
  | error f => exact onlyNotes_map_note _

/-- **Nor does any other run on words.** -/
theorem onlyNotes_serve (c : Catalog) (script : Option (List Response)) (words : List String) :
    OnlyNotes (serve c script words).items :=
  serve_cases (P := fun o => OnlyNotes o.items) words (onlyNotes_converse c script)
    (onlyNotes_singleton rfl) (onlyNotes_answerLine c)

/-! ## 2. How runs on words end -/

/-- A run ends well, or by a problem. -/
def Outcome.Ends (o : Outcome) : Prop := o.ending = .exit success ∨ ∃ p, o.ending = .raised p

theorem ends_converse (c : Catalog) : ∀ script, (converse c script).Ends
  | none => .inr ⟨_, rfl⟩
  | some script => by
    rw [converse]
    cases (c.dialogue script).problem with
    | none => exact .inl rfl
    | some p => exact .inr ⟨p, rfl⟩

theorem ends_answerLine (c : Catalog) (line : String) : (answerLine c line).Ends := by
  rw [answerLine]
  cases c.answer line with
  | ok a => exact .inl rfl
  | error f => exact .inr ⟨_, rfl⟩

/-- **A run on words has no exit code but that of success**, unless it ends by a problem. -/
theorem ends_serve (c : Catalog) (script : Option (List Response)) (words : List String) :
    (serve c script words).Ends :=
  serve_cases words (ends_converse c script) (.inl rfl) (ends_answerLine c)

/-! ## 3. Exit codes -/

namespace Reported

variable {p : Problem} {code : Nat} {text : String} (h : Reported p code text)
include h

/-- Every report says something. -/
theorem ne_empty : text ≠ "" := by cases h <;> simp

theorem ne_success : code ≠ 0 := by cases h <;> decide

theorem mem_codes : code ∈ [0, 1, 2, 130] := by cases h <;> decide

/-- Exit code 1 is for the problems that the program itself reports. -/
theorem eq_failure_iff : code = 1 ↔ p.kind.isGeneral = true := by
  cases h with
  | general hg => exact iff_of_true rfl hg
  | interrupt hi => exact iff_of_false (by decide) (by rw [hi]; decide)
  | unexpected hg _ => exact iff_of_false (by decide) (by rw [hg]; decide)

/-- Exit code 130 is for interruptions. -/
theorem eq_interrupted_iff : code = 130 ↔ p.kind = .interrupt := by
  cases h with
  | general hg => exact iff_of_false (by decide) fun hi => by rw [hi] at hg; cases hg
  | interrupt hi => exact iff_of_true rfl hi
  | unexpected _ hne => exact iff_of_false (by decide) hne

/-- Exit code 2 is for all other problems. -/
theorem eq_unexpected_iff : code = 2 ↔ p.kind.isGeneral = false ∧ p.kind ≠ .interrupt := by
  cases h with
  | general hg => exact iff_of_false (by decide) fun hno => by rw [hg] at hno; cases hno.1
  | interrupt hi => exact iff_of_false (by decide) fun hno => hno.2 hi
  | unexpected hg hne => exact iff_of_true rfl ⟨hg, hne⟩

end Reported

/-! ## 4. Runs on arguments -/

/-- Whether the arguments ask for a run with notes. -/
def Directive.isVerbose : Directive → Bool
  | run verbose _ => verbose
  | help | version | complaint _ => false

/-- The run `main`, which follows the directive `d`, ends by this exit code once the problem that it
    ends with, if it does, has been reported. -/
structure EndsBy (d : Directive) (main : Outcome) (code : Nat) : Prop where
  ending : main.bounded.ending = .exit code
  codes : code ∈ [0, 1, 2, 130]
  /-- Without notes, nothing is shown among the diagnostics exactly if the run has ended well. -/
  silent : d.isVerbose = false → (plainText .diagnostics main.bounded.items = "" ↔ code = 0)
  failed : code = 1 ↔ ∃ p, main.ending = .raised p ∧ p.kind.isGeneral = true
  interrupted : code = 130 ↔ ∃ p, main.ending = .raised p ∧ p.kind = .interrupt
  unexpected : code = 2 ↔ (∃ message, d = .complaint message) ∨
    ∃ p, main.ending = .raised p ∧ p.kind.isGeneral = false ∧ p.kind ≠ .interrupt
  /-- Arguments that are complained about put nothing out. -/
  complaint : ∀ message, d = .complaint message → plainText .output main.bounded.items = ""
  /-- What has been put out before the end is kept, and nothing is added to it. -/
  output : plainText .output main.bounded.items = plainText .output main.items

section

variable {d : Directive} {main : Outcome} {p : Problem} {code : Nat}

/-- A run that ends by an exit code has raised no problem. -/
theorem not_exists_raised (h : main.ending = .exit code) (P : Problem → Prop) :
    ¬ ∃ p, main.ending = .raised p ∧ P p := by
  rintro ⟨p, hp, _⟩
  rw [h] at hp
  cases hp

/-- A run that ends by a problem has raised no other. -/
theorem exists_raised_iff (h : main.ending = .raised p) (P : Problem → Prop) :
    (∃ p', main.ending = .raised p' ∧ P p') ↔ P p := by
  constructor
  · rintro ⟨p', hp', hP⟩
    rw [h] at hp'
    cases hp'
    exact hP
  · exact fun hP => ⟨p, h, hP⟩

/-- A run that ends well. -/
theorem endsBy_of_success (hd : ∀ message, d ≠ .complaint message)
    (h : main.ending = .exit success)
    (hs : d.isVerbose = false → plainText .diagnostics main.items = "") : EndsBy d main 0 := by
  have hmain : main.bounded = main := Outcome.bounded_of_exit h
  exact
    { ending := by rw [hmain, h, success]
      codes := by decide
      silent := fun hv => iff_of_true (by rw [hmain, hs hv]) rfl
      failed := iff_of_false (by decide) (not_exists_raised h _)
      interrupted := iff_of_false (by decide) (not_exists_raised h _)
      unexpected := iff_of_false (by decide) fun hno =>
        hno.elim (fun ⟨m, hm⟩ => hd m hm) (not_exists_raised h _)
      complaint := fun m hm => absurd hm (hd m)
      output := Outcome.output_bounded main }

/-- A run that ends by a problem. -/
theorem endsBy_of_raised (hd : ∀ message, d ≠ .complaint message) (h : main.ending = .raised p) :
    EndsBy d main (problemCode p) := by
  have hr : Reported p (problemCode p) (plainText .diagnostics (problemItems p)) :=
    reported_problem p
  have htext : plainText .diagnostics main.bounded.items ≠ "" := by
    rw [Outcome.plainText_bounded h]
    exact fun he => hr.ne_empty (String.append_eq_empty_iff.mp he).2
  exact
    { ending := by rw [Outcome.bounded_of_raised h]
      codes := hr.mem_codes
      silent := fun _ => iff_of_false htext hr.ne_success
      failed := hr.eq_failure_iff.trans (exists_raised_iff h (·.kind.isGeneral = true)).symm
      interrupted := hr.eq_interrupted_iff.trans (exists_raised_iff h (·.kind = .interrupt)).symm
      unexpected := by
        rw [or_iff_right fun ⟨m, hm⟩ => hd m hm, exists_raised_iff h]
        exact hr.eq_unexpected_iff
      complaint := fun m hm => absurd hm (hd m)
      output := Outcome.output_bounded main }

end

/-- A complaint about the arguments. -/
theorem endsBy_of_complaint (message : String) (styled : Bool) :
    EndsBy (.complaint message) (Directive.perform c script (.complaint message) styled) 2 where
  ending := rfl
  codes := by decide
  silent := fun _ => iff_of_false
    (by simp [Outcome.bounded, Directive.perform, Item.plain, complaintText, unlines]) (by decide)
  failed := iff_of_false (by decide) (not_exists_raised rfl _)
  interrupted := iff_of_false (by decide) (not_exists_raised rfl _)
  unexpected := iff_of_true rfl (.inl ⟨message, rfl⟩)
  complaint := fun _ _ => by simp [Outcome.bounded, Directive.perform, Item.plain]
  output := rfl

/-- Without notes, a run on words puts nothing on the diagnostics before it ends. -/
theorem diagnostics_quiet (c : Catalog) (script : Option (List Response)) (words : List String)
    (styled : Bool) : plainText .diagnostics (serve c script words (.quiet styled)).items = "" := by
  rw [serve_on]
  exact (onlyNotes_serve c script words).diagnostics_put styled

/-- A run on words, with notes or without. -/
theorem exists_endsBy_run (c : Catalog) (script : Option (List Response)) (verbose : Bool)
    (words : List String) (styled : Bool) :
    ∃ code, EndsBy (.run verbose words)
      (Directive.perform c script (.run verbose words) styled) code := by
  have hd : ∀ message, Directive.run verbose words ≠ .complaint message := fun _ h => by cases h
  have hending : (Directive.perform c script (.run verbose words) styled).ending =
      (serve c script words).ending := by
    rw [Directive.perform, serve_on, Outcome.printedOn]
  have hsilent : verbose = false → plainText .diagnostics
      (Directive.perform c script (.run verbose words) styled).items = "" := by
    rintro rfl
    exact diagnostics_quiet c script words styled
  rcases ends_serve c script words with h | ⟨p, h⟩
  · exact ⟨0, endsBy_of_success hd (hending.trans h) hsilent⟩
  · exact ⟨problemCode p, endsBy_of_raised hd (hending.trans h)⟩

theorem Directive.exists_endsBy (c : Catalog) (script : Option (List Response)) (d : Directive)
    (styled : Bool) : ∃ code, EndsBy d (d.perform c script styled) code := by
  cases d with
  | help => exact ⟨0, endsBy_of_success nofun rfl fun _ => rfl⟩
  | version => exact ⟨0, endsBy_of_success nofun rfl fun _ => rfl⟩
  | complaint message => exact ⟨2, endsBy_of_complaint message styled⟩
  | run verbose words => exact exists_endsBy_run c script verbose words styled

/-- **Every run ends by an exit code that tells what ended it.** For all arguments and all scripts,
    in every setting, the exit code is one of four: 1 for a problem that the program itself reports,
    130 for an interruption, 2 for arguments that are complained about and for any other problem, and
    0 otherwise. Without notes, the diagnostics are empty exactly in the last case. The output is
    what it was when the run ended. -/
theorem perform_endsBy (c : Catalog) (script : Option (List Response)) (args : List String)
    (s : Setting) : ∃ code, EndsBy (.ofArguments args s.release) (perform c script args s) code :=
  Directive.exists_endsBy c script (.ofArguments args s.release) s.styled

/-- A prompt breaks down after one line has been replied to, where there is no printer. -/
theorem perform_endsBy_breakdown :
    let script : List Response :=
      [.line "100 c to f", .raised { kind := .breakdown, message := "no terminal" }]
    let main := perform .standard (some script) [] ⟨.late, false⟩
    Directive.isVerbose (.ofArguments [] .late) = false ∧ main.bounded.ending = .exit 2 ∧
      plainText .diagnostics main.bounded.items ≠ "" ∧
      plainText .output main.bounded.items =
        "100.0 degrees Celsius is 212.0 degrees Fahrenheit\n\n" := by
  intro script main
  have hv : Directive.isVerbose (.ofArguments [] .late) = false := by decide
  obtain ⟨code, h⟩ := perform_endsBy .standard (some script) [] ⟨.late, false⟩
  have hraised : main.ending = .raised { kind := .breakdown, message := "no terminal" } := by
    decide +kernel
  obtain rfl : code = 2 := h.unexpected.mpr (.inr ⟨_, hraised, by decide, by decide⟩)
  refine ⟨hv, h.ending, fun he => absurd ((h.silent hv).mp he) (by decide), ?_⟩
  exact h.output.trans (by decide +kernel)

end Command

end Measures
