import Measures.Catalog.Listing
import Measures.Note

/-!
# What a run shows

A run shows a list of items, each on one of two streams. Two readings of the list are defined:

* as plain text (`plainText`), with any markup left in place;
* as events for a printer that styles text itself (`events`), together with the text that does not
  go through that printer (`bypassed`).

Both readings work item by item, so what they have in common is a fact about single items.

A `Console` is what a run prints to. It decides what becomes of the items it is given (`put`): where
there is a printer they are left to it, and where there is none their text goes to the streams.
-/

namespace Measures

/-- Where an item is shown: answers go to the output, everything about them to the diagnostics. -/
inductive Stream where
  | output
  | diagnostics
deriving DecidableEq

/-- An item of a transcript. -/
inductive Item where
  /-- Texts on one line. `markup` tells whether tags in square brackets are meant as tags. -/
  | texts (stream : Stream) (markup : Bool) (parts : List String)
  /-- The listing of a catalog. -/
  | listing (rows : List Row)
  /-- A note. -/
  | note (n : Note)
  /-- Text that no printer touches. -/
  | direct (stream : Stream) (text : String)
deriving DecidableEq

namespace Item

/-- A sentence. It may hold any character, so that nothing in it is a tag. -/
def sentence (text : String) : Item := .texts .output false [text]

/-- An empty line. -/
def emptyLine : Item := .texts .output true []

/-- A styled line about a problem. -/
def warning (text : String) : Item := .texts .diagnostics true [text]

/-- Whether the item is a note. -/
def isNote : Item → Bool
  | note _ => true
  | texts .. | listing _ | direct .. => false

end Item

/-! ## 1. Plain text -/

/-- The lines, each with its line feed. -/
def unlines (lines : List String) : String := String.join (lines.map (· ++ "\n"))

namespace Item

/-- The stream that an item is shown on. -/
@[simp] def stream : Item → Stream
  | texts s .. => s
  | listing _ => .output
  | note _ => .diagnostics
  | direct s _ => s

/-- The text of an item. -/
@[simp] def text : Item → String
  | texts _ _ parts => String.intercalate " " parts ++ "\n"
  | listing rows => unlines (plainListing rows)
  | note n => n.line ++ "\n"
  | direct _ text => text

/-- The text that an item puts on a stream. -/
def plain (stream : Stream) (i : Item) : String := if i.stream = stream then i.text else ""

end Item

/-- The text that a transcript puts on a stream. -/
def plainText (stream : Stream) (items : List Item) : String :=
  String.join (items.map (Item.plain stream))

@[simp] theorem plainText_nil (stream : Stream) : plainText stream [] = "" := by simp [plainText]

@[simp] theorem plainText_cons (stream : Stream) (item : Item) (items : List Item) :
    plainText stream (item :: items) = item.plain stream ++ plainText stream items := by
  simp [plainText]

@[simp] theorem plainText_append (stream : Stream) (first second : List Item) :
    plainText stream (first ++ second) = plainText stream first ++ plainText stream second := by
  simp [plainText, String.join_append]

/-! ## 2. Events -/

/-- What a printer is given to print. -/
inductive Printable where
  | text (text : String)
  | grid (g : Grid)
deriving DecidableEq

/-- What a printer is asked to do: to print something, or to record a note. -/
inductive Event where
  | print (stream : Stream) (markup : Bool) (objects : List Printable)
  | log (message : String)
deriving DecidableEq

/-- The events that an item makes. -/
def Item.events : Item → List Event
  | texts s markup parts => [.print s markup (parts.map .text)]
  | listing rows =>
    [.print .output true [], .print .output true [.grid (.ofRows rows)], .print .output true []]
  | note n => [.log n.message]
  | direct .. => []

/-- The events that a transcript makes. -/
def events (items : List Item) : List Event := items.flatMap Item.events

/-- The text that an item puts on a stream past any printer. -/
def Item.bypassed (stream : Stream) : Item → String
  | direct s text => if s = stream then text else ""
  | texts .. | listing _ | note _ => ""

/-- The text that a transcript puts on a stream past any printer. -/
def bypassed (stream : Stream) (items : List Item) : String :=
  String.join (items.map (Item.bypassed stream))

/-! ## 3. Consoles -/

/-- What a run prints to. -/
structure Console where
  /-- Whether there is a printer that styles text itself. -/
  styled : Bool := true
  /-- Whether notes are wanted. -/
  noted : Bool := true
deriving DecidableEq

/-- The item as it is put out where there is no printer. -/
def Item.spelled (i : Item) : Item := .direct i.stream i.text

namespace Console

/-- The items that are wanted on the console. -/
def wanted (k : Console) (items : List Item) : List Item :=
  if k.noted then items else items.filter (!·.isNote)

/-- What becomes of items on the console. -/
def put (k : Console) (items : List Item) : List Item :=
  if k.styled then k.wanted items else (k.wanted items).map Item.spelled

/-- A console on which no notes are wanted. -/
def quiet (styled : Bool) : Console := { styled := styled, noted := false }

@[simp] theorem wanted_nil (k : Console) : k.wanted [] = [] := by simp [wanted]

theorem wanted_append (k : Console) (first second : List Item) :
    k.wanted (first ++ second) = k.wanted first ++ k.wanted second := by
  unfold wanted
  split <;> simp

@[simp] theorem put_nil (k : Console) : k.put [] = [] := by simp [put]

theorem put_append (k : Console) (first second : List Item) :
    k.put (first ++ second) = k.put first ++ k.put second := by
  unfold put
  split <;> simp [wanted_append]

end Console

end Measures
