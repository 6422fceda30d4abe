import Measures.Proofs.Command.Service
import Measures.Proofs.Command.Ending

/-!
# With a printer and without one

What a run shows can be printed in two ways: by a printer that styles text itself and is given the
lines, or as plain text, with the tags of the markup left in it. A run that shows neither notes nor
the listing shows lines of text and nothing else, but for the texts about the command line itself,
which no printer touches. So the run without a printer can be told from the run with one: it puts
out the untouched text, and then every line that the printer is given, with spaces between its parts
and a line feed after it.

* `Line`, `Printed`: transcripts that consist of lines;
* `perform_unstyled`: the run without a printer is the run with one, item by item;
* `Display`, `Spells`, `spells_of_printed`: what is seen of the two runs, one told from the other;
* `printed_dialogue`, `printed_problemItems`: what runs consist of;
* `perform_display`: the two displays.
-/

namespace Measures

/-! ## 1. Lines -/

/-- A line that a printer is given. `markup` tells whether it is to look for tags in it. -/
structure Line where
  stream : Stream
  markup : Bool
  parts : List String
deriving DecidableEq

namespace Line

/-- The line in a transcript. -/
def item (l : Line) : Item := .texts l.stream l.markup l.parts

/-- The line as a printer is given it. -/
def event (l : Line) : Event := .print l.stream l.markup (l.parts.map .text)

/-- The line as plain text on a stream. -/
def text (stream : Stream) (l : Line) : String :=
  if l.stream = stream then String.intercalate " " l.parts ++ "\n" else ""

end Line

theorem events_map_item (lines : List Line) :
    events (lines.map Line.item) = lines.map Line.event := by
  induction lines with
  | nil => rfl
  | cons l rest ih =>
    have hcons : events ((l :: rest).map Line.item) = [l.event] ++ events (rest.map Line.item) := rfl
    rw [hcons, ih, List.map_cons, List.singleton_append]

theorem plainText_map_item (stream : Stream) (lines : List Line) :
    plainText stream (lines.map Line.item) = String.join (lines.map (Line.text stream)) := by
  rw [plainText, List.map_map]
  rfl

/-- No line goes past the printer. -/
theorem bypassed_map_item (stream : Stream) (lines : List Line) :
    bypassed stream (lines.map Line.item) = "" := by
  induction lines with
  | nil => rfl
  | cons l rest ih =>
    have hcons : bypassed stream ((l :: rest).map Line.item) =
        "" ++ bypassed stream (rest.map Line.item) := String.join_cons
    rw [hcons, ih, String.empty_append]

/-- The transcript consists of lines. -/
def Printed (items : List Item) : Prop := ∃ lines : List Line, items = lines.map Line.item

theorem printed_nil : Printed [] := ⟨[], rfl⟩

theorem Printed.append {items items' : List Item} (h : Printed items) (h' : Printed items') :
    Printed (items ++ items') := by
  obtain ⟨lines, rfl⟩ := h
  obtain ⟨lines', rfl⟩ := h'
  exact ⟨lines ++ lines', List.map_append.symm⟩

theorem printed_sentence (text : String) : Printed [.sentence text] := ⟨[⟨_, _, _⟩], rfl⟩

theorem printed_emptyLine : Printed [.emptyLine] := ⟨[⟨_, _, _⟩], rfl⟩

theorem printed_warning (text : String) : Printed [.warning text] := ⟨[⟨_, _, _⟩], rfl⟩

/-- **A dialogue without its notes consists of lines.** -/
theorem Catalog.printed_dialogue (c : Catalog) :
    ∀ script : List Response, Printed ((c.dialogue script).items.filter (!·.isNote))
  | [] | .cancelled :: _ | .raised _ :: _ => printed_nil
  | .line text :: rest => by
    have ih := c.printed_dialogue rest
    rw [dialogue]
    split
    · exact printed_nil
    · cases c.reply text with
      | ok reply =>
        have hturn : (c.replyItems text reply).filter (!·.isNote) =
            [.sentence reply] ++ [.emptyLine] := by
          rw [replyItems, List.filter_append, Command.filter_isNote_map]
          rfl
        show Printed ((c.replyItems text reply ++ (c.dialogue rest).items).filter (!·.isNote))
        rw [List.filter_append, hturn]
        exact ((printed_sentence reply).append printed_emptyLine).append ih
      | error f =>
        show Printed (((c.replyNotes text).map Item.note ++ ([] : List Item)).filter (!·.isNote))
        rw [List.append_nil, Command.filter_isNote_map]
        exact printed_nil

namespace Command

variable {c : Catalog} {script : Option (List Response)} {o : Outcome}

/-- The report of a problem consists of lines. -/
theorem printed_problemItems (p : Problem) : Printed (problemItems p) := by
  unfold problemItems
  split
  · split
    · exact printed_warning _
    · exact printed_warning _
    · exact (printed_warning _).append (printed_warning _)
  · split
    · exact printed_warning _
    · exact printed_warning _

theorem printed_bounded (hs : o.styled = true) (h : Printed o.items) : Printed o.bounded.items := by
  cases he : o.ending with
  | exit code => rwa [Outcome.bounded_of_exit he]
  | raised p =>
    rw [Outcome.bounded_of_raised he, hs]
    exact h.append (printed_problemItems p)

theorem printed_converse (c : Catalog) : ∀ script,
    Printed ((converse c script).items.filter (!·.isNote))
  | none => printed_nil
  | some script => c.printed_dialogue script

theorem printed_answerLine (c : Catalog) (line : String) :
    Printed ((answerLine c line).items.filter (!·.isNote)) := by
  have hquiet : (answerLine c line (.quiet true)).items =
      (answerLine c line).items.filter (!·.isNote) := by
    rw [answerLine_on]
    rfl
  rw [← hquiet]
  cases h : c.answer line with
  | ok a =>
    rw [quiet_answerLine_ok h]
    exact printed_sentence a.describe
  | error f =>
    rw [quiet_answerLine_error h]
    exact printed_nil

/-- **So does a run on words without its notes**, unless it is the listing. -/
theorem printed_serve {words : List String} (hl : asksListing words = false) :
    Printed (serve c script words (.quiet true)).items := by
  rw [serve_on]
  show Printed ((serve c script words).items.filter (!·.isNote))
  unfold serve
  split
  · exact printed_converse c script
  · rw [if_neg (by rw [hl]; decide)]
    exact printed_answerLine c _

/-! ## 2. Without a printer -/

theorem bypassed_map_spelled (stream : Stream) (items : List Item) :
    bypassed stream (items.map Item.spelled) = plainText stream items := by
  rw [bypassed, plainText, List.map_map]
  rfl

theorem events_map_spelled (items : List Item) : events (items.map Item.spelled) = [] := by
  simp [events, Item.spelled, Item.events]

/-- The outcome as it is where there is no printer. -/
def Outcome.unstyled (o : Outcome) : Outcome :=
  { o with items := o.items.map Item.spelled, styled := false }

theorem Outcome.bounded_unstyled (hs : o.styled = true) :
    o.unstyled.bounded = o.bounded.unstyled := by
  cases he : o.ending with
  | exit code =>
    have he' : o.unstyled.ending = .exit code := he
    rw [bounded_of_exit he, bounded_of_exit he']
  | raised p =>
    have he' : o.unstyled.ending = .raised p := he
    rw [bounded_of_raised he, bounded_of_raised he', hs]
    exact congrArg (Outcome.mk · o.prompts (.exit (problemCode p)) false) List.map_append.symm

/-- **A run without a printer** is the run with one, every item of it spelled out. -/
theorem perform_unstyled (c : Catalog) (script : Option (List Response)) (args : List String)
    (r : Release) :
    perform c script args ⟨r, false⟩ = (perform c script args ⟨r, true⟩).unstyled := by
  rw [perform, perform]
  cases Directive.ofArguments args r with
  | help => rfl
  | version => rfl
  | complaint message => rfl
  | run verbose words =>
    rw [Directive.perform, Directive.perform, serve_on,
      serve_on c script words { styled := true, noted := verbose }]
    rfl

/-! ## 3. The two displays -/

/-- What is seen of a run: how it ends, its prompts, the text on the two streams, and what a printer
    that styles text itself is given. -/
structure Display where
  ending : Ending
  prompts : List String
  text : Stream → String
  events : List Event

/-- What is seen of an outcome. -/
def Outcome.display (o : Outcome) : Display where
  ending := o.ending
  prompts := List.replicate o.prompts Dialogue.prompt
  text := fun stream => bypassed stream o.items
  events := events o.items

/-- The display `plain` is the display `styled` spelled out: the printer has been given lines and
    nothing else, and they stand, in order, behind the text that it has not touched. -/
structure Spells (plain styled : Display) (lines : List Line) : Prop where
  ending : plain.ending = styled.ending
  prompts : plain.prompts = styled.prompts
  unstyled : plain.events = []
  events : styled.events = lines.map Line.event
  text : ∀ stream,
    plain.text stream = styled.text stream ++ String.join (lines.map (Line.text stream))

/-- **A transcript of lines is spelled out line by line.** -/
theorem spells_of_printed (h : Printed o.items) :
    ∃ lines, Spells o.unstyled.display o.display lines := by
  obtain ⟨lines, hlines⟩ := h
  refine ⟨lines, rfl, rfl, events_map_spelled o.items, ?_, fun stream => ?_⟩
  · show events o.items = _
    rw [hlines, events_map_item]
  · show bypassed stream (o.items.map Item.spelled) = bypassed stream o.items ++ _
    rw [bypassed_map_spelled, hlines, plainText_map_item, bypassed_map_item, String.empty_append]

/-- A text that no printer touches is the same in both displays. -/
theorem spells_of_direct {stream : Stream} {text : String} (h : o.items = [.direct stream text]) :
    Spells o.unstyled.display o.display [] where
  ending := rfl
  prompts := rfl
  unstyled := events_map_spelled o.items
  events := by
    show events o.items = _
    rw [h]
    rfl
  text := fun s => by
    show bypassed s (o.items.map Item.spelled) = bypassed s o.items ++ String.join []
    rw [bypassed_map_spelled, h]
    exact String.append_empty.symm

/-! ## 4. Runs on arguments -/

/-- Whether the arguments ask for the listing. -/
def Directive.isListing : Directive → Bool
  | run _ words => asksListing words
  | help | version | complaint _ => false

theorem Directive.styled_perform (c : Catalog) (script : Option (List Response)) (d : Directive)
    (styled : Bool) : (d.perform c script styled).styled = styled := by
  cases d with
  | run verbose words => rw [Directive.perform, serve_on]; rfl
  | _ => rfl

theorem Directive.exists_spells (c : Catalog) (script : Option (List Response)) {d : Directive}
    (hv : d.isVerbose = false) (hl : d.isListing = false) :
    ∃ lines, Spells (d.perform c script).bounded.unstyled.display
      (d.perform c script).bounded.display lines := by
  cases d with
  | help => exact ⟨[], spells_of_direct rfl⟩
  | version => exact ⟨[], spells_of_direct rfl⟩
  | complaint message => exact ⟨[], spells_of_direct rfl⟩
  | run verbose words =>
    obtain rfl : verbose = false := hv
    exact spells_of_printed (printed_bounded (styled_perform ..) (printed_serve hl))

/-- **A run looks the same with a printer and without one.** For all arguments that ask neither for
    notes nor for the listing, and for all scripts, the two runs have one exit code and the same
    prompts, and the text of the run without a printer is the text that the printer of the other has
    not touched with the lines that it has been given after it, their tags left in them. -/
theorem perform_display (c : Catalog) (script : Option (List Response)) (r : Release)
    {args : List String} (hv : (Directive.ofArguments args r).isVerbose = false)
    (hl : (Directive.ofArguments args r).isListing = false) :
    let plain := (perform c script args ⟨r, false⟩).bounded
    let styled := (perform c script args ⟨r, true⟩).bounded
    ∃ code lines, plain.ending = .exit code ∧ styled.ending = .exit code ∧
      Spells plain.display styled.display lines := by
  intro plain styled
  have hstyled : (perform c script args ⟨r, true⟩).styled = true := Directive.styled_perform ..
  have hplain : plain = styled.unstyled := by
    show (perform c script args ⟨r, false⟩).bounded = _
    rw [perform_unstyled, Outcome.bounded_unstyled hstyled]
  obtain ⟨code, hcode⟩ := perform_endsBy c script args ⟨r, true⟩
  obtain ⟨lines, hlines⟩ := Directive.exists_spells c script hv hl
  rw [hplain]
  exact ⟨code, lines, hcode.ending, hcode.ending, hlines⟩

/-- An unknown measure: one line for the problem and one for the hint. -/
theorem perform_display_unknown :
    let args := ["10", "km", "to", "xyz"]
    let plain := (perform .standard none args ⟨.late, false⟩).bounded
    let styled := (perform .standard none args ⟨.late, true⟩).bounded
    (Directive.ofArguments args .late).isVerbose = false ∧
      (Directive.ofArguments args .late).isListing = false ∧
      ∃ first second, Spells plain.display styled.display [first, second] := by
  intro args plain styled
  have hv : (Directive.ofArguments args .late).isVerbose = false := by decide
  have hl : (Directive.ofArguments args .late).isListing = false := by decide
  obtain ⟨_, lines, _, _, h⟩ := perform_display .standard none .late hv hl
  have hlength : lines.length = 2 := by
    have hevents : styled.display.events.length = 2 := by decide +kernel
    rwa [h.events, List.length_map] at hevents
  obtain ⟨first, second, rfl⟩ := List.length_eq_two.mp hlength
  exact ⟨hv, hl, first, second, h⟩

end Command

end Measures
