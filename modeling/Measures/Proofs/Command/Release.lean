import Measures.Command

/-!
# Short flags run together

Letters that follow the letter of a flag are read as flags of their own. What becomes of an argument
in which anything else follows, a letter that is no flag or a text behind `=`, is all that the
releases of the argument reader do not agree on. At the first letter that is none the older reader
gives the whole argument up, the flags before it being lost; the newer one keeps these, and the rest
is surplus behind a dash of its own. So `-Vx` is a complaint for the one, and asks for the version
for the other.

* `letterFlags_append`: letters that are flags stand for these flags, whatever follows them;
* `letterFlags_stop`: the first letter that is no flag, release by release;
* `Progress.take_release`, `perform_release`: where all letters are flags, all releases agree.
-/

namespace Measures.Command

/-! ## 1. Letters -/

/-- The letter of a flag. -/
def Flag.letter : Flag → Char
  | help => 'h'
  | version => 'V'
  | verbose => 'v'

@[simp] theorem exactFlag?_letter (f : Flag) : exactFlag? ['-', f.letter] = some f := by
  cases f <;> decide

variable {r : Release} {f : Flag} {c : Char} {rest tail : List Char}

theorem head?_letters_ne (fs : List Flag) (h : tail.head? ≠ some '=') :
    (fs.map Flag.letter ++ tail).head? ≠ some '=' := by
  cases fs with
  | nil => exact h
  | cons g fs => cases g <;> simp [Flag.letter]

/-- **Letters that are flags stand for these flags**; the last of them has the rest attached. -/
theorem letterFlags_append (h : tail.head? ≠ some '=') : ∀ (f : Flag) (fs : List Flag),
    letterFlags r f (fs.map Flag.letter ++ tail) =
      (letterFlags r ((f :: fs).getLast (List.cons_ne_nil f fs)) tail).map fun b =>
        { b with flags := (f :: fs).dropLast ++ b.flags }
  | f, [] => by
    rw [List.map_nil, List.nil_append, List.getLast_singleton]
    cases letterFlags r f tail <;> rfl
  | f, g :: fs => by
    have ih := letterFlags_append h g fs
    have hequals : ¬ (r = .late ∧ (fs.map Flag.letter ++ tail).head? = some '=') :=
      fun hno => head?_letters_ne fs h hno.2
    rw [List.map_cons, List.cons_append, letterFlags, exactFlag?_letter]
    simp only [if_neg hequals, ih, List.getLast_cons_cons, List.dropLast_cons_cons]
    cases letterFlags r ((g :: fs).getLast (List.cons_ne_nil g fs)) tail <;> rfl

/-- Where all letters are flags, no release complains. -/
theorem letterFlags_letters (f : Flag) (fs : List Flag) :
    letterFlags r f (fs.map Flag.letter) = .ok { flags := f :: fs } := by
  have hnil : ([] : List Char).head? ≠ some '=' := by simp
  have happend : letterFlags r f (fs.map Flag.letter ++ []) = _ := letterFlags_append hnil f fs
  have hlast : (f :: fs).dropLast ++ [(f :: fs).getLast (List.cons_ne_nil f fs)] = f :: fs :=
    List.dropLast_concat_getLast _
  rw [List.append_nil, letterFlags] at happend
  rw [happend, Except.map, hlast]

/-- **The first letter that is no flag.** In the older releases it spoils the argument; in the newer
    ones the flags before it count, and it is surplus with all that follows. -/
theorem letterFlags_stop (fs : List Flag) (hc : exactFlag? ['-', c] = none) (hd : c ≠ '-')
    (he : c ≠ '=') :
    letterFlags .early f (fs.map Flag.letter ++ c :: rest) =
        .error (ignoredText ((f :: fs).getLast (List.cons_ne_nil f fs)) (c :: rest)) ∧
      letterFlags .late f (fs.map Flag.letter ++ c :: rest) =
        .ok { flags := f :: fs, surplus := [String.ofList ('-' :: c :: rest)] } := by
  have hhead : (c :: rest).head? ≠ some '=' := by simpa using he
  have hlast : (f :: fs).dropLast ++ [(f :: fs).getLast (List.cons_ne_nil f fs)] = f :: fs :=
    List.dropLast_concat_getLast _
  constructor
  · rw [letterFlags_append hhead, letterFlags, hc]
    rfl
  · rw [letterFlags_append hhead, letterFlags, hc]
    simp only [hd, ne_eq, not_false_eq_true, and_self, if_true, Except.map, hlast]

example : Directive.ofArguments ["-Vx"] .late = .version ∧
    Directive.ofArguments ["-Vx"] .early =
      .complaint "argument -V/--version: ignored explicit argument 'x'" := by decide

/-! ## 2. Where the releases agree -/

/-- What is attached to a short flag are letters of flags. -/
def Mark.IsLettered : Mark → Prop
  | .flag _ true (some a) => a.equals = false ∧ ∃ fs : List Flag, a.text = fs.map Flag.letter
  | _ => True

variable {r' : Release}

theorem flagsOf_release {short : Bool} {attached : Option Attached}
    (h : (Mark.flag f short attached).IsLettered) :
    flagsOf r f short attached = flagsOf r' f short attached := by
  cases attached with
  | none => rfl
  | some a =>
    cases short with
    | false => rw [flagsOf, flagsOf, if_neg (by simp), if_neg (by simp)]
    | true =>
      obtain ⟨hequals, fs, htext⟩ := h
      simp [flagsOf, hequals, htext, letterFlags_letters]

/-- **Where all letters are flags, the arguments are taken alike** in all releases. -/
theorem Progress.take_release : ∀ (p : Progress) {marks : List (String × Mark)},
    (∀ m ∈ marks, m.2.IsLettered) → p.take r marks = p.take r' marks
  | _, [], _ => rfl
  | p, (text, .word) :: _, h => take_release (p.addWord text) (List.forall_mem_cons.mp h).2
  | p, (text, .stranger) :: _, h =>
    take_release (p.close.addSurplus [text]) (List.forall_mem_cons.mp h).2
  | p, (_, .flag f short attached) :: rest, h => by
    obtain ⟨hflag, hrest⟩ := List.forall_mem_cons.mp h
    have hflags : flagsOf r f short attached = flagsOf r' f short attached := flagsOf_release hflag
    rw [take, take, hflags]
    cases flagsOf r' f short attached with
    | error message => rfl
    | ok bundle =>
      cases hadd : p.close.addFlags bundle.flags with
      | error directive => simp only [hadd]
      | ok next =>
        simp only [hadd]
        exact take_release (next.addSurplus bundle.surplus) hrest

/-- **The release makes no difference to a run** as long as what is attached to short flags are
    letters of flags. -/
theorem perform_release (c : Catalog) (script : Option (List Response)) {args : List String}
    (styled : Bool)
    (h : ∀ marks, markAll args = .ok marks → ∀ m ∈ marks, m.2.IsLettered) :
    perform c script args ⟨r, styled⟩ = perform c script args ⟨r', styled⟩ := by
  have hdirective : Directive.ofArguments args r = Directive.ofArguments args r' := by
    unfold Directive.ofArguments
    cases hm : markAll args with
    | error message => rfl
    | ok marks => exact Progress.take_release {} (h marks hm)
  rw [perform, perform, hdirective]

end Measures.Command
