import Measures.Command.Arguments
import Measures.Proofs.Decimal.Reading

/-!
# Arguments without flags

The two passes over arguments none of which is taken for a flag, which are the same for all releases
of the reader. Words alone are the query as they stand; a stranger before them is all that the
complaint is about. What starts with a dash and a digit is never a flag, but it may be a stranger:
it is a word only if it looks like a negative number, which knows no exponent, or if there is a
space in it.

* `markAll_eq`: the first pass gives each argument the mark of its own, as long as there is no `--`;
* `Progress.take_words`: the second pass takes words as they come;
* `Directive.ofArguments_words`, `Directive.ofArguments_stranger`: the two together;
* `classify_digit`, `classify_amount`: the mark of what starts with a dash and a digit, and of an
  amount with a minus.
-/

namespace Measures.Command

open Text (AllOf IsDigits isBlank isDecimalDigit wordsOf)
open Decimal (IsAmount IsWhole)

/-! ## 1. Marks -/

/-- What does not start with a dash is a word. -/
theorem classify_of_head?_ne {cs : List Char} (h : cs.head? ≠ some '-') :
    classify cs = .ok .word := by
  rw [classify, if_pos h]

/-- Each argument is marked on its own, up to `--`. -/
theorem markAll_eq {mark : String → Mark} : ∀ {args : List String},
    (∀ arg ∈ args, arg ≠ "--" ∧ classify arg.toList = .ok (mark arg)) →
      markAll args = .ok (args.map fun arg => (arg, mark arg))
  | [], _ => rfl
  | arg :: rest, h => by
    obtain ⟨⟨hne, hmark⟩, hrest⟩ := List.forall_mem_cons.mp h
    have ih := markAll_eq hrest
    rw [markAll, if_neg hne, hmark, ih]
    rfl

/-- An argument that is a word, and does not make words of others. -/
def IsPlain (arg : String) : Prop := arg ≠ "--" ∧ classify arg.toList = .ok .word

theorem isPlain_of_head?_ne {arg : String} (h : arg.toList.head? ≠ some '-') : IsPlain arg := by
  refine ⟨?_, classify_of_head?_ne h⟩
  rintro rfl
  exact h rfl

/-! ## 2. Taking them -/

variable {r : Release}

/-- While the query has not ended, words are added to it. -/
theorem Progress.take_words : ∀ (p : Progress) (args : List String), p.closed = false →
    p.take r (args.map fun arg => (arg, .word)) = { p with words := p.words ++ args }.finish
  | p, [], _ => by rw [List.append_nil]; rfl
  | p, arg :: rest, hp => by
    have hadd : p.addWord arg = { p with words := p.words ++ [arg] } := by
      rw [addWord, hp]
      rfl
    have ih := take_words { p with words := p.words ++ [arg] } rest hp
    rw [List.map_cons, take, hadd, ih, List.append_assoc]
    rfl

/-- **Words are the query.** -/
theorem Directive.ofArguments_words {args : List String} (h : ∀ arg ∈ args, IsPlain arg) :
    ofArguments args r = .run false args := by
  have hdash : "--" ∉ args := fun hm => (h _ hm).1 rfl
  rw [ofArguments, markAll_eq h]
  show Progress.take r {} _ = _
  rw [Progress.take_words {} args rfl, Progress.finish, if_pos rfl, List.nil_append,
    List.erase_of_not_mem hdash]

/-- **A stranger in front of words is complained about**, and the words are not looked at. -/
theorem Directive.ofArguments_stranger {arg : String} {rest : List String} (hne : arg ≠ "--")
    (hmark : classify arg.toList = .ok .stranger) (h : ∀ w ∈ rest, IsPlain w) :
    ofArguments (arg :: rest) r = .complaint ("unrecognized arguments: " ++ arg) := by
  rw [ofArguments, markAll, if_neg hne, hmark, markAll_eq h]
  show Progress.take r { surplus := [arg] } _ = _
  rw [Progress.take_words _ rest rfl, Progress.finish, if_neg (List.cons_ne_nil arg [])]
  rfl

/-! ## 3. A dash and a digit -/

/-- No decimal digit is white space. -/
theorem isBlank_of_isDecimalDigit {c : Char} (h : isDecimalDigit c = true) : isBlank c = false := by
  have hapart : ∀ r ∈ Text.digitRuns, ∀ s ∈ Text.blankRuns, r.2 < s.1 ∨ s.2 < r.1 := by
    decide +kernel
  refine Bool.eq_false_iff.mpr fun hb => ?_
  obtain ⟨r, hr, hdigit⟩ := Text.exists_run_of_inRuns _ _ h
  obtain ⟨s, hs, hblank⟩ := Text.exists_run_of_inRuns _ _ hb
  have := hapart r hr s hs
  omega

theorem isDecimalDigit_of_isDigit {c : Char} (h : c.isDigit = true) : isDecimalDigit c = true :=
  Text.forall_ascii (fun c => c.isDigit = true → isDecimalDigit c = true) (by decide)
    (Text.toNat_lt_of_isDigit h) h

section

variable {d : Char} {rest : List Char}

/-- No flag is spelled with a digit after the dash. -/
theorem exactFlag?_digit (hd : d.isDigit = true) : exactFlag? ('-' :: d :: rest) = none := by
  have hspellings : ∀ s ∈ flagSpellings, s.1[1]?.any Char.isDigit = false := by decide
  refine List.lookup_eq_none_iff.mpr fun s hs => bne_iff_ne.mpr fun he => ?_
  have hany := hspellings s hs
  rw [← he] at hany
  exact absurd hd (by simpa using hany)

/-- What stands before the first `=` starts in the same way. -/
theorem splitEquals_digit (hd : d.isDigit = true) :
    ∃ more, (splitEquals ('-' :: d :: rest)).1 = '-' :: d :: more := by
  have hne : d ≠ '=' := Text.ne_of_isDigit hd (by decide)
  unfold splitEquals
  split
  · exact ⟨rest, rfl⟩
  · exact ⟨rest.takeWhile (· ≠ '='), by simp [hne]⟩

theorem candidates_digit (hd : d.isDigit = true) : candidates ('-' :: d :: rest) = [] := by
  have hshort : isShort ('-' :: d :: rest) = true := by
    unfold isShort
    split
    · rename_i he
      exact absurd (List.cons.inj (List.cons.inj he).2).1 (Text.ne_of_isDigit hd (by decide))
    · rfl
  have hexact : exactFlag? ['-', d] = none := exactFlag?_digit hd
  rw [candidates, if_pos hshort, runCandidates]
  simp only [List.take_succ_cons, List.take_zero, hexact]

/-- **What starts with a dash and a digit is no flag.** It is a word if it looks like a negative
    number, and also if there is a space in it. -/
theorem classify_digit (hd : d.isDigit = true) :
    classify ('-' :: d :: rest) =
      .ok (if looksNegative ('-' :: d :: rest) || ' ' ∈ '-' :: d :: rest then .word
        else .stranger) := by
  obtain ⟨more, hname⟩ : ∃ more, (splitEquals ('-' :: d :: rest)).1 = '-' :: d :: more :=
    splitEquals_digit hd
  have hlen : ('-' :: d :: rest).length ≠ 1 := by simp
  rw [classify, if_neg (by simp), exactFlag?_digit hd]
  simp only [if_neg hlen, hname, exactFlag?_digit hd, candidates_digit hd]
  cases (splitEquals ('-' :: d :: rest)).2 <;> rfl

end

/-! ## 4. What looks like a negative number -/

/-- A run of digits is digits of some script, and possibly a line feed. -/
theorem isDigitRun_iff {cs : List Char} : isDigitRun cs = true ↔
    ∃ ds, (cs = ds ∨ cs = ds ++ ['\n']) ∧ AllOf isDecimalDigit ds := by
  unfold isDigitRun
  constructor
  · intro h
    obtain ⟨hne, hall⟩ := Bool.and_eq_true_iff.mp h
    refine ⟨_, ?_, of_decide_eq_true hne, List.all_eq_true.mp hall⟩
    split
    · rename_i hlast
      exact .inr (List.dropLast_append_getLast? _ hlast).symm
    · exact .inl rfl
  · rintro ⟨ds, rfl | rfl, hne, hall⟩
    · have hlast : cs.getLast? ≠ some '\n' := fun he => by
        have hdigit := hall '\n' (List.mem_of_getLast? he)
        exact absurd hdigit (by decide)
      simp only [if_neg hlast]
      exact Bool.and_eq_true_iff.mpr ⟨decide_eq_true hne, List.all_eq_true.mpr hall⟩
    · have hlast : (ds ++ ['\n']).getLast? = some '\n' := List.getLast?_concat
      simp only [if_pos hlast, List.dropLast_concat]
      exact Bool.and_eq_true_iff.mpr ⟨decide_eq_true hne, List.all_eq_true.mpr hall⟩

theorem isDigitRun_of_isDigits {cs : List Char} (h : IsDigits cs) : isDigitRun cs = true :=
  isDigitRun_iff.mpr ⟨cs, .inl rfl, h.1, fun c hc => isDecimalDigit_of_isDigit (h.2 c hc)⟩

/-- What looks like a negative number ends in a run of digits, with no white space before it. -/
theorem exists_isDigitRun {cs : List Char} (h : looksNegative cs = true) :
    ∃ front run, cs = front ++ run ∧ (∀ c ∈ front, isBlank c = false) ∧ isDigitRun run = true := by
  unfold looksNegative at h
  split at h
  · rename_i rest
    rcases Bool.or_eq_true_iff.mp h with hrun | hpoint
    · exact ⟨['-'], rest, rfl, by simp; decide, hrun⟩
    · split at hpoint
      · rename_i places hdrop
        have hcut := List.takeWhile_append_dropWhile (p := isDecimalDigit) (l := rest)
        rw [hdrop] at hcut
        refine ⟨'-' :: rest.takeWhile isDecimalDigit ++ ['.'], places, by simp [hcut], ?_, hpoint⟩
        intro c hc
        rcases List.mem_append.mp hc with hc | hc
        · rcases List.mem_cons.mp hc with rfl | hc
          · decide
          · exact isBlank_of_isDecimalDigit (List.mem_takeWhile_imp hc)
        · rw [List.mem_singleton.mp hc]
          decide
      · cases hpoint
  · cases h

/-- **What looks like a negative number is one word.** There may be a line feed after it. -/
theorem length_wordsOf_of_looksNegative {cs : List Char} (h : looksNegative cs = true) :
    (wordsOf cs).length = 1 := by
  obtain ⟨front, run, rfl, hfront, hrun⟩ := exists_isDigitRun h
  obtain ⟨ds, he, hne, hds⟩ := isDigitRun_iff.mp hrun
  have hone : wordsOf (front ++ ds) = [front ++ ds] := by
    refine Text.wordsOf_of_not_blank (by simp [hne]) fun c hc => ?_
    rcases List.mem_append.mp hc with hc | hc
    · exact hfront c hc
    · exact isBlank_of_isDecimalDigit (hds c hc)
  rcases he with rfl | rfl
  · rw [hone]
    rfl
  · rw [← List.append_assoc, Text.wordsOf_append_blank (by decide), hone]
    rfl

/-- A character that is no digit and no line feed does not stand in a run of digits. -/
theorem isDigitRun_eq_false {cs : List Char} {c : Char} (hm : c ∈ cs)
    (hc : isDecimalDigit c = false) (hn : c ≠ '\n') : isDigitRun cs = false := by
  refine Bool.eq_false_iff.mpr fun h => ?_
  obtain ⟨ds, he, _, hds⟩ := isDigitRun_iff.mp h
  have hmem : c ∈ ds := by
    rcases he with rfl | rfl
    · exact hm
    · exact (List.mem_append.mp hm).resolve_right fun hlast => hn (List.mem_singleton.mp hlast)
  rw [hds c hmem] at hc
  cases hc

/-- **An amount with a minus looks like a negative number unless it has an exponent.** -/
theorem looksNegative_iff {cs : List Char} (h : IsAmount ('-' :: cs)) :
    looksNegative ('-' :: cs) = true ↔ 'e' ∉ cs ∧ 'E' ∉ cs := by
  rcases h.of_minus with hd | ⟨ds, mark, places, rfl, hd, hm, hp⟩
  · refine iff_of_true ?_ ⟨hd.not_mem (by decide), hd.not_mem (by decide)⟩
    rw [looksNegative, isDigitRun_of_isDigits hd, Bool.true_or]
  · have hmark : isDecimalDigit mark = false ∧ mark ≠ '\n' :=
      Text.forall_of_all (fun m => isDecimalDigit m = false ∧ m ≠ '\n') (by decide) hm
    have hdrop : (ds ++ mark :: places).dropWhile isDecimalDigit = mark :: places :=
      Text.dropWhile_append_stop (fun c hc => isDecimalDigit_of_isDigit (hd.2 c hc)) hmark.1
    have hrun : isDigitRun (ds ++ mark :: places) = false :=
      isDigitRun_eq_false (by simp) hmark.1 hmark.2
    have hnot : ∀ c, c.isDigit = false → c ≠ mark → c ∉ ds ++ mark :: places := fun c hc hne => by
      simp [hd.not_mem hc, hp.not_mem hc, hne]
    rw [looksNegative, hdrop, hrun, Bool.false_or]
    simp only [Decimal.marks, List.mem_cons, List.not_mem_nil, or_false] at hm
    rcases hm with rfl | rfl | rfl
    · exact iff_of_true (isDigitRun_of_isDigits hp)
        ⟨hnot 'e' (by decide) (by decide), hnot 'E' (by decide) (by decide)⟩
    · exact iff_of_false (by simp) fun hno => hno.1 (by simp)
    · exact iff_of_false (by simp) fun hno => hno.2 (by simp)

/-- **How an amount with a minus is taken**: for a word, or for a flag nobody knows if it has an
    exponent. -/
theorem classify_amount {cs : List Char} (h : IsAmount ('-' :: cs)) :
    classify ('-' :: cs) = .ok (if 'e' ∈ cs ∨ 'E' ∈ cs then .stranger else .word) := by
  have hspace : ' ' ∉ '-' :: cs := fun hm => absurd (h.chars ' ' hm) (by decide)
  obtain ⟨d, rest, rfl, hd⟩ := h.exists_digit
  rw [classify_digit hd, decide_eq_false hspace, Bool.or_false]
  by_cases hexp : 'e' ∈ d :: rest ∨ 'E' ∈ d :: rest
  · have hno : ¬ looksNegative ('-' :: d :: rest) = true := fun hlooks => by
      obtain ⟨he, hE⟩ := (looksNegative_iff h).mp hlooks
      exact hexp.elim he hE
    rw [if_neg hno, if_pos hexp]
  · rw [if_pos ((looksNegative_iff h).mpr (not_or.mp hexp)), if_neg hexp]

end Measures.Command
