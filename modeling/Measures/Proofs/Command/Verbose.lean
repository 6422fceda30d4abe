import Measures.Proofs.Command.Ending
import Measures.Proofs.Note

/-!
# Asking for notes changes nothing else

Two runs are compared that differ by one more `-v` in front of the arguments. All that it changes is
one bit of what the arguments ask for; and a run with notes ends in the same way as the run without,
makes as many prompts and puts out the same. Its diagnostics are its notes, one on each line, and
then those of the run without: no note comes after the text about a problem, since that is shown
last.

* `OnlyNotes.diagnostics_eq`: the diagnostics of a run, before any problem is reported, are its
  notes;
* `exists_line_serve`: every note of a run is a note on some line;
* `Directive.loud`, `Directive.ofArguments_verbose`: what the arguments ask for with one more `-v`;
* `Noted`, `perform_verbose`: the two runs side by side.
-/

namespace Measures

/-! ## 1. The notes of a transcript -/

/-- The note that an item is, if it is one. -/
def Item.note? : Item → Option Note
  | note n => some n
  | texts .. | listing _ | direct .. => none

/-- The notes of a transcript, in order. -/
def notesOf (items : List Item) : List Note := items.filterMap Item.note?

@[simp] theorem unlines_nil : unlines [] = "" := by simp [unlines]

@[simp] theorem unlines_cons (line : String) (lines : List String) :
    unlines (line :: lines) = line ++ "\n" ++ unlines lines := by simp [unlines]

theorem mem_notesOf {items : List Item} {n : Note} (h : n ∈ notesOf items) :
    .note n ∈ items := by
  obtain ⟨i, hi, hn⟩ := List.mem_filterMap.mp h
  cases i with
  | note m => exact Option.some.inj hn ▸ hi
  | _ => cases hn

/-- **Where only notes go to the diagnostics, these are the notes**, each on a line of its own. -/
theorem OnlyNotes.diagnostics_eq {items : List Item} (h : OnlyNotes items) :
    plainText .diagnostics items = unlines ((notesOf items).map Note.line) := by
  induction items with
  | nil => simp [notesOf]
  | cons i rest ih =>
    obtain ⟨hi, hrest⟩ := List.forall_mem_cons.mp h
    rw [plainText_cons, ih hrest]
    cases i with
    | note n => simp [notesOf, Item.note?, Item.plain]
    | _ => rw [hi rfl, String.empty_append]; rfl

/-- What is shown of a line starts with its notes, and the rest has none. -/
theorem mem_of_note_mem {notes : List Note} {n : Note} {items : List Item}
    (hitems : ∀ i ∈ items, i.isNote = false) (h : .note n ∈ notes.map Item.note ++ items) :
    n ∈ notes := by
  rcases List.mem_append.mp h with h | h
  · obtain ⟨m, hm, he⟩ := List.mem_map.mp h
    exact Item.note.inj he ▸ hm
  · cases hitems _ h

namespace Catalog

variable {c : Catalog} {n : Note}

/-- The notes of a dialogue are notes on the way to its replies. -/
theorem exists_line_dialogue : ∀ {script : List Response}, .note n ∈ (c.dialogue script).items →
    ∃ line, n ∈ c.replyNotes line
  | [], h | .cancelled :: _, h | .raised _ :: _, h => absurd h List.not_mem_nil
  | .line text :: rest, h => by
    rw [dialogue] at h
    split at h
    · exact absurd h List.not_mem_nil
    · cases hr : c.reply text with
      | ok reply =>
        have hshown : ∀ i ∈ [Item.sentence reply, .emptyLine], i.isNote = false :=
          List.forall_mem_cons.mpr ⟨rfl, List.forall_mem_singleton.mpr rfl⟩
        rw [hr] at h
        rcases List.mem_append.mp h with h | h
        · exact ⟨text, mem_of_note_mem hshown h⟩
        · exact exists_line_dialogue h
      | error f =>
        rw [hr] at h
        exact ⟨text, mem_of_note_mem (fun _ hi => absurd hi List.not_mem_nil) h⟩

end Catalog

namespace Command

variable {c : Catalog} {script : Option (List Response)}

theorem mem_replyNotes_answerLine {line : String} {n : Note}
    (h : .note n ∈ (answerLine c line).items) : n ∈ c.replyNotes line := by
  refine Catalog.mem_replyNotes ?_
  unfold answerLine at h
  cases ha : c.answer line with
  | ok a =>
    rw [ha] at h
    exact mem_of_note_mem (List.forall_mem_singleton.mpr rfl) h
  | error f =>
    rw [ha] at h
    exact mem_of_note_mem (fun _ hi => absurd hi List.not_mem_nil) (List.mem_append_left [] h)

theorem exists_line_converse {n : Note} : ∀ {script : Option (List Response)},
    .note n ∈ (converse c script).items → ∃ line, n ∈ c.replyNotes line
  | none, h => absurd h List.not_mem_nil
  | some _, h => Catalog.exists_line_dialogue h

/-- **Every note of a run is a note on the way to the reply to some line.** -/
theorem exists_line_serve {words : List String} {n : Note} :
    .note n ∈ (serve c script words).items → ∃ line, n ∈ c.replyNotes line := by
  refine serve_cases (P := fun o => .note n ∈ o.items → ∃ line, n ∈ c.replyNotes line) words
    exists_line_converse (fun h => ?_) fun line h => ⟨line, mem_replyNotes_answerLine h⟩
  cases List.mem_singleton.mp h

/-! ## 2. One more flag -/

/-- What is asked for if notes are asked for besides. -/
def Directive.loud : Directive → Directive
  | run _ words => .run true words
  | help => .help
  | version => .version
  | complaint message => .complaint message

/-- The progress in which notes have been asked for besides. -/
def Progress.loud (p : Progress) : Progress := { p with verbose := true }

namespace Progress

theorem finish_loud (p : Progress) : p.loud.finish = p.finish.loud := by
  have hsurplus : p.loud.surplus = p.surplus := rfl
  rw [finish, finish, hsurplus]
  split <;> rfl

theorem addWord_loud (p : Progress) (text : String) :
    p.loud.addWord text = (p.addWord text).loud := by
  have hclosed : p.loud.closed = p.closed := rfl
  rw [addWord, addWord, hclosed]
  split <;> rfl

/-- Flags may ask for notes, too; those that end it all ask for nothing that has notes. -/
theorem addFlags_loud : ∀ (p : Progress) (flags : List Flag), p.loud.addFlags flags =
    match p.addFlags flags with
    | .ok next => .ok next.loud
    | .error directive => .error directive.loud
  | _, [] | _, .help :: _ | _, .version :: _ => rfl
  | p, .verbose :: rest => addFlags_loud { p with verbose := true } rest

/-- **Taking the arguments** does not depend on whether notes have been asked for. -/
theorem take_loud (r : Release) : ∀ (p : Progress) (marks : List (String × Mark)),
    p.loud.take r marks = (p.take r marks).loud
  | p, [] => p.finish_loud
  | p, (text, .word) :: rest => by
    rw [take, take, addWord_loud, take_loud r (p.addWord text) rest]
  | p, (text, .stranger) :: rest => take_loud r (p.close.addSurplus [text]) rest
  | p, (_, .flag f short attached) :: rest => by
    rw [take, take]
    cases flagsOf r f short attached with
    | error message => rfl
    | ok bundle =>
      have hflags : p.loud.close.addFlags bundle.flags = _ := addFlags_loud p.close bundle.flags
      simp only [hflags]
      cases p.close.addFlags bundle.flags with
      | error directive => rfl
      | ok next => exact take_loud r (next.addSurplus bundle.surplus) rest

end Progress

/-- `-v` in front is a flag, and what follows is marked as before. -/
theorem markAll_verbose (args : List String) :
    markAll ("-v" :: args) = (markAll args).map (("-v", .flag .verbose true none) :: ·) := by
  have hmark : classify "-v".toList = .ok (.flag .verbose true none) := rfl
  rw [markAll, if_neg (by decide), hmark]

/-- **One more `-v` in front asks for notes and for nothing else.** -/
theorem Directive.ofArguments_verbose (args : List String) (r : Release) :
    ofArguments ("-v" :: args) r = (ofArguments args r).loud := by
  rw [ofArguments, ofArguments, markAll_verbose]
  cases markAll args with
  | error message => rfl
  | ok marks => exact Progress.take_loud r {} marks

/-! ## 3. The two runs -/

/-- The run `loud` is the run `quiet` with these notes, a line each, before its diagnostics. -/
structure Noted (notes : List Note) (loud quiet : Outcome) : Prop where
  ending : loud.ending = quiet.ending
  prompts : loud.prompts = quiet.prompts
  output : plainText .output loud.items = plainText .output quiet.items
  diagnostics : plainText .diagnostics loud.items =
    unlines (notes.map Note.line) ++ plainText .diagnostics quiet.items

namespace Noted

variable {notes : List Note} {loud quiet : Outcome}

/-- A run is itself with no notes added. -/
theorem refl (o : Outcome) : Noted [] o o := ⟨rfl, rfl, rfl, by simp⟩

/-- **What is shown about a problem comes after the notes.** -/
theorem bounded (h : Noted notes loud quiet) : Noted notes loud.bounded quiet.bounded := by
  cases he : quiet.ending with
  | exit code =>
    rw [Outcome.bounded_of_exit he, Outcome.bounded_of_exit (h.ending.trans he)]
    exact h
  | raised p =>
    have hl : loud.ending = .raised p := h.ending.trans he
    exact
      { ending := by rw [Outcome.bounded_of_raised he, Outcome.bounded_of_raised hl]
        prompts := by rw [Outcome.prompts_bounded, Outcome.prompts_bounded, h.prompts]
        output := by rw [Outcome.output_bounded, Outcome.output_bounded, h.output]
        diagnostics := by
          rw [Outcome.plainText_bounded he, Outcome.plainText_bounded hl, h.diagnostics,
            String.append_assoc] }

end Noted

/-- What is put on two consoles of which one does not want the notes. -/
theorem noted_printedOn {o : Outcome} (h : OnlyNotes o.items) (styled : Bool) :
    Noted (notesOf o.items) (o.printedOn { styled := styled }) (o.printedOn (.quiet styled)) where
  ending := rfl
  prompts := rfl
  output := by
    have hquiet : plainText .output ((Console.quiet styled).put o.items) =
        plainText .output o.items := (Console.plainText_put ..).trans (output_filter o.items)
    exact (Console.plainText_put ..).trans hquiet.symm
  diagnostics := by
    have hquiet : plainText .diagnostics (o.printedOn (.quiet styled)).items = "" :=
      h.diagnostics_put styled
    rw [hquiet, String.append_empty]
    exact (Console.plainText_put ..).trans h.diagnostics_eq

/-- The notes of a run on words, and the run on a console where they are not wanted. -/
theorem noted_quiet (c : Catalog) (script : Option (List Response)) (words : List String)
    (styled : Bool) :
    Noted (notesOf (serve c script words).items) (serve c script words { styled := styled })
      (serve c script words (.quiet styled)) := by
  have h := noted_printedOn (onlyNotes_serve c script words) styled
  rwa [← serve_on, ← serve_on] at h

/-- Whatever is asked for, asking for notes besides adds the notes and changes nothing else. -/
theorem Directive.exists_noted (c : Catalog) (script : Option (List Response)) (d : Directive)
    (styled : Bool) :
    ∃ notes, Noted notes (d.loud.perform c script styled) (d.perform c script styled) ∧
      ∀ n ∈ notes, ∃ line, n ∈ c.replyNotes line := by
  have hsame : ∀ {o : Outcome}, ∃ notes, Noted notes o o ∧
      ∀ n ∈ notes, ∃ line, n ∈ c.replyNotes line :=
    fun {o} => ⟨[], .refl o, fun n hn => absurd hn List.not_mem_nil⟩
  cases d with
  | help => exact hsame
  | version => exact hsame
  | complaint message => exact hsame
  | run verbose words =>
    cases verbose with
    | true => exact hsame
    | false =>
      exact ⟨_, noted_quiet c script words styled, fun n hn => exists_line_serve (mem_notesOf hn)⟩

/-- **Notes do not interfere.** For all arguments and all scripts, in every setting, the run with one
    more `-v` in front has the exit code, the prompts and the output of the run without. Its
    diagnostics are those of the run without after some notes, each of them a complete line. -/
theorem perform_verbose (script : Option (List Response)) (args : List String) (s : Setting) :
    ∃ notes : List Note,
      Noted notes (perform .standard script ("-v" :: args) s).bounded
        (perform .standard script args s).bounded ∧
      ∀ n ∈ notes, '\n' ∉ n.line.toList := by
  obtain ⟨notes, hnoted, hlines⟩ :=
    (Directive.ofArguments args s.release).exists_noted .standard script s.styled
  refine ⟨notes, ?_, fun n hn => ?_⟩
  · rw [perform, Directive.ofArguments_verbose]
    exact hnoted.bounded
  · obtain ⟨line, hline⟩ := hlines n hn
    exact (Catalog.isPrintable_of_mem_replyNotes Catalog.standard_keys hline).lineFeed_not_mem

/-- Lengths and weights do not convert into each other. The notes quote the line feed typed in. -/
theorem perform_verbose_mismatch :
    let quiet := (perform .standard none ["10 km\nto kg"] ⟨.late, false⟩).bounded
    let loud := (perform .standard none ["-v", "10 km\nto kg"] ⟨.late, false⟩).bounded
    quiet.ending = .exit failure ∧ loud.ending = .exit failure ∧
      ∃ notes : List Note, notes ≠ [] ∧
        plainText .diagnostics loud.items =
          unlines (notes.map Note.line) ++ plainText .diagnostics quiet.items ∧
        ∀ n ∈ notes, '\n' ∉ n.line.toList := by
  intro quiet loud
  obtain ⟨notes, h, hlines⟩ := perform_verbose none ["10 km\nto kg"] ⟨.late, false⟩
  have hquiet : quiet.ending = .exit failure := by decide +kernel
  have hmore : plainText .diagnostics loud.items ≠ plainText .diagnostics quiet.items := by
    decide +kernel
  refine ⟨hquiet, h.ending.trans hquiet, notes, ?_, h.diagnostics, hlines⟩
  rintro rfl
  refine hmore (h.diagnostics.trans ?_)
  rw [List.map_nil, unlines_nil, String.empty_append]

end Command

end Measures
