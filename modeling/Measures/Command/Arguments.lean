import Measures.Text.Digit
import Measures.Text.Quoted

/-!
# Command-line arguments

Arguments are words or flags. There are three flags, each with a short and a long spelling. A long
spelling may be cut short as long as it stays unambiguous, and short flags may be run together
after one dash. `--` makes words of all arguments after it.

Reading is in two passes. The first tells words and flags apart (`classify`) for all arguments up to
`--`, and an ambiguous spelling stops there, wherever it stands. The second takes the arguments in
order (`Progress.take`): the words that stand together at the first place where words stand are the
query, words after a later flag are surplus, and so are flags nobody knows. Surplus arguments are
an error once all others have been taken; but asking for help or for the version answers at once.

How short flags run together are read has changed between releases of the reader (`Release`). Both
ways are defined here, and nothing else depends on the release.
-/

namespace Measures.Command

open Text (quoted)

/-! ## 1. Flags -/

/-- The flags. -/
inductive Flag where
  | help
  | version
  | verbose
deriving DecidableEq

/-- The name of a flag in messages. -/
def Flag.title : Flag → String
  | help => "-h/--help"
  | version => "-V/--version"
  | verbose => "-v/--verbose"

/-- The spellings of the flags. -/
def flagSpellings : List (List Char × Flag) :=
  [(['-', 'h'], .help), ("--help".toList, .help),
   (['-', 'V'], .version), ("--version".toList, .version),
   (['-', 'v'], .verbose), ("--verbose".toList, .verbose)]

/-- The flag spelled like this. -/
def exactFlag? (cs : List Char) : Option Flag := flagSpellings.lookup cs

/-! ## 2. Telling words and flags apart -/

/-- A text attached to a flag, after `=` or right after its letter. -/
structure Attached where
  equals : Bool
  text : List Char
deriving DecidableEq

/-- What an argument is taken for. A flag may have a text attached; `short` tells whether it was
    spelled with a letter. -/
inductive Mark where
  | word
  | flag (f : Flag) (short : Bool) (attached : Option Attached)
  | stranger
deriving DecidableEq

/-- The text before the first `=` and the text after it, if there is one. -/
def splitEquals (cs : List Char) : List Char × Option (List Char) :=
  match cs.dropWhile (· ≠ '=') with
  | [] => (cs, none)
  | _ :: value => (cs.takeWhile (· ≠ '='), some value)

/-- A spelling with two dashes is long. -/
def isShort : List Char → Bool
  | '-' :: '-' :: _ => false
  | _ => true

/-- The long flags that a text starting with two dashes may be short for. -/
def longCandidates (cs : List Char) : List (List Char × Mark) :=
  let (start, attached) := splitEquals cs
  (flagSpellings.filter fun s => start.isPrefixOf s.1).map fun s =>
    (s.1, .flag s.2 (isShort s.1) (attached.map (⟨true, ·⟩)))

/-- What a text starting with one dash is if its letter is a flag: that flag with the rest
    attached. -/
def runCandidates (cs : List Char) : List (List Char × Mark) :=
  match exactFlag? (cs.take 2) with
  | some f => [(cs.take 2, .flag f true (some ⟨false, cs.drop 2⟩))]
  | none => []

/-- The flags that a text may stand for though it spells none exactly. -/
def candidates (cs : List Char) : List (List Char × Mark) :=
  if isShort cs then runCandidates cs else longCandidates cs

/-- One decimal digit or more, possibly with a line feed after them. -/
def isDigitRun (cs : List Char) : Bool :=
  let ds := if cs.getLast? = some '\n' then cs.dropLast else cs
  ds ≠ [] && ds.all Text.isDecimalDigit

/-- A dash and a decimal number: digits, or digits or none, a point and digits. -/
def looksNegative : List Char → Bool
  | '-' :: rest =>
    isDigitRun rest ||
      match rest.dropWhile Text.isDecimalDigit with
      | '.' :: places => isDigitRun places
      | _ => false
  | _ => false

/-- Tells what an argument is, or which flags it may be short for if there is more than one. -/
def classify (cs : List Char) : Except (List (List Char)) Mark :=
  if cs.head? ≠ some '-' then .ok .word
  else match exactFlag? cs with
    | some f => .ok (.flag f (isShort cs) none)
    | none =>
      if cs.length = 1 then .ok .word
      else
        let (name, value) := splitEquals cs
        match value, exactFlag? name with
        | some v, some f => .ok (.flag f (isShort name) (some ⟨true, v⟩))
        | _, _ =>
          match candidates cs with
          | [(_, mark)] => .ok mark
          | first :: second :: more => .error ((first :: second :: more).map Prod.fst)
          | [] => .ok (if looksNegative cs || ' ' ∈ cs then .word else .stranger)

/-! ## 3. Taking the arguments in order -/

/-- What the arguments ask for. -/
inductive Directive where
  | help
  | version
  | complaint (message : String)
  | run (verbose : Bool) (words : List String)
deriving DecidableEq

/-- The releases of the argument reader, by what they make of a text attached to a short flag. -/
inductive Release where
  /-- Up to 3.11.8, the text is read as more letters also after `=`, and a letter that is no flag is
      complained about, the flags before it being lost. -/
  | early
  /-- From 3.11.9 on, and so in 3.11.10, a text that stands after `=` or starts with a dash is
      complained about, and from a letter on that is no flag the text is surplus, behind a dash of
      its own, while the flags before it count. -/
  | late
deriving DecidableEq

/-- The message about a text attached to a flag that takes none. -/
def ignoredText (f : Flag) (text : List Char) : String :=
  "argument " ++ f.title ++ ": ignored explicit argument " ++ quoted (String.ofList text)

/-- What one argument with flags stands for: the flags in order, and what is left over of it. -/
structure Bundle where
  flags : List Flag
  surplus : List String := []
deriving DecidableEq

/-- What a flag with letters attached stands for, or the complaint about the letters. -/
def letterFlags (r : Release) (f : Flag) : List Char → Except String Bundle
  | [] => .ok { flags := [f] }
  | c :: rest =>
    match exactFlag? ['-', c] with
    | none =>
      if r = .late ∧ c ≠ '-' then
        .ok { flags := [f], surplus := [String.ofList ('-' :: c :: rest)] }
      else .error (ignoredText f (c :: rest))
    | some g =>
      if r = .late ∧ rest.head? = some '=' then .error (ignoredText g rest.tail)
      else (letterFlags r g rest).map fun b => { b with flags := f :: b.flags }

/-- What one argument with flags stands for. Only letters after a letter may be attached. -/
def flagsOf (r : Release) (f : Flag) (short : Bool) : Option Attached → Except String Bundle
  | none => .ok { flags := [f] }
  | some a =>
    if short ∧ a.text ≠ [] ∧ ¬ (r = .late ∧ a.equals) then letterFlags r f a.text
    else .error (ignoredText f a.text)

/-- How far the arguments have been taken. -/
structure Progress where
  verbose : Bool := false
  /-- The words of the query, with the `--` among them. -/
  words : List String := []
  /-- Whether the query has ended. -/
  closed : Bool := false
  surplus : List String := []
deriving DecidableEq

namespace Progress

/-- A flag ends the query if it has begun. -/
def close (p : Progress) : Progress := { p with closed := p.closed || p.words ≠ [] }

/-- Takes texts that belong nowhere. -/
def addSurplus (p : Progress) (texts : List String) : Progress :=
  { p with surplus := p.surplus ++ texts }

/-- Takes a word. -/
def addWord (p : Progress) (text : String) : Progress :=
  if p.closed then p.addSurplus [text]
  else { p with words := p.words ++ [text] }

/-- What the arguments ask for when all have been taken. The first `--` is no word. -/
def finish (p : Progress) : Directive :=
  if p.surplus = [] then .run p.verbose (p.words.erase "--")
  else .complaint ("unrecognized arguments: " ++ String.intercalate " " p.surplus)

/-- Takes the flags of one argument; the first that asks for a text ends it all. -/
def addFlags (p : Progress) : List Flag → Except Directive Progress
  | [] => .ok p
  | .help :: _ => .error .help
  | .version :: _ => .error .version
  | .verbose :: rest => addFlags { p with verbose := true } rest

/-- Takes the arguments in order. -/
def take (r : Release) (p : Progress) : List (String × Mark) → Directive
  | [] => p.finish
  | (text, .word) :: rest => take r (p.addWord text) rest
  | (text, .stranger) :: rest => take r (p.close.addSurplus [text]) rest
  | (_, .flag f short attached) :: rest =>
    match flagsOf r f short attached with
    | .error message => .complaint message
    | .ok bundle =>
      match p.close.addFlags bundle.flags with
      | .error directive => directive
      | .ok next => take r (next.addSurplus bundle.surplus) rest

end Progress

/-- Marks all arguments, or says which one is ambiguous. -/
def markAll : List String → Except String (List (String × Mark))
  | [] => .ok []
  | arg :: rest =>
    if arg = "--" then .ok ((arg :: rest).map fun text => (text, .word))
    else match classify arg.toList with
      | .error names =>
        .error ("ambiguous option: " ++ arg ++ " could match "
          ++ String.intercalate ", " (names.map String.ofList))
      | .ok mark => (markAll rest).map ((arg, mark) :: ·)

/-- What the arguments ask for. -/
def Directive.ofArguments (arguments : List String) (release : Release := .early) : Directive :=
  match markAll arguments with
  | .error message => .complaint message
  | .ok marks => Progress.take release {} marks

end Measures.Command
