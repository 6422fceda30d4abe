import Measures.Proofs.Text.Ascii
import Measures.Proofs.Text.Words
import Measures.Text.Lowercase

/-!
# Laws of lower-casing

Lower-casing looks at the neighbours of a sigma, and only at those up to the next space. So a text
of words is lower-cased word by word, which is the main statement here. The others say what
lower-casing does to single characters:

* `lowerFrom_append_space`, `lowerChars_intercalate`: word by word;
* `lowerFrom_of_ascii`: on ASCII texts it is the familiar map, whatever stands around;
* `space_not_mem_lowerChars`, `mem_lowerChars`: it makes no spaces, and keeps the ASCII characters
  that are no letters;
* `lowerCode_eq_or_le`: a code point that moves ends at `a` or beyond;
* `ascii_of_lowerFrom`: a text that becomes an ASCII text was one, unless there is a `k` in it,
  which may come from the Kelvin sign.
-/

namespace Measures.Text

/-! ## 1. The table -/

/-- The walk along the table ends at a run that holds the code point, or shifts by nothing. -/
theorem caseShift_eq : ∀ (runs : List CaseRun) (n : Nat), caseShift runs n = 0 ∨
    ∃ r ∈ runs, r.first ≤ n ∧ n ≤ r.last ∧ caseShift runs n = r.shift
  | [], _ => .inl rfl
  | r :: rest, n => by
    unfold caseShift
    split
    · exact .inl rfl
    · rename_i hf
      split
      · rename_i hl
        exact .inr ⟨r, List.mem_cons_self, Nat.le_of_not_lt hf, hl.1, rfl⟩
      · rcases caseShift_eq rest n with h | ⟨s, hs, hn⟩
        · exact .inl h
        · exact .inr ⟨s, List.mem_cons_of_mem r hs, hn⟩

/-- No run starts or ends below the small letters. -/
theorem le_shifted : ∀ r ∈ caseRuns, 0x61 ≤ (r.first : Int) + r.shift := by
  decide +kernel

/-- **A code point that moves ends at `a` or beyond.** -/
theorem lowerCode_eq_or_le (n : Nat) : lowerCode n = n ∨ 0x61 ≤ lowerCode n := by
  unfold lowerCode
  rcases caseShift_eq caseRuns n with h | ⟨r, hr, hf, _, h⟩
  · left
    rw [h]
    omega
  · right
    have := le_shifted r hr
    rw [h]
    omega

/-! ## 2. Single characters -/

/-- An ASCII character is lower-cased as usual. -/
theorem lowerChar_of_ascii {c : Char} (h : c.toNat < 128) : lowerChar c = [c.toLower] := by
  have hn : c.toNat ≠ 0x130 := by omega
  have hc : Char.ofNat (lowerCode c.toNat) = Char.toLower (Char.ofNat c.toNat) := by
    generalize c.toNat = n at h
    revert n
    decide
  unfold lowerChar
  rw [if_neg hn, hc, Char.ofNat_toNat]

/-- A code point is that of the character it makes, unless it makes none and the character is
    NUL. -/
theorem eq_toNat_of_ofNat {n : Nat} {c : Char} (hc : c.toNat ≠ 0) (h : Char.ofNat n = c) :
    n = c.toNat := by
  subst h
  by_cases hn : n.isValidChar
  · exact (congrArg Char.toNat (dif_pos hn : Char.ofNat n = Char.ofNatAux n hn)).symm
  · exact absurd (congrArg Char.toNat (dif_neg hn : Char.ofNat n = _)) hc

/-- Only a space becomes a space. -/
theorem space_not_mem_lowerChar {c : Char} (hc : c ≠ ' ') : ' ' ∉ lowerChar c := by
  unfold lowerChar
  split
  · decide
  · intro h
    have hs : Char.ofNat (lowerCode c.toNat) = ' ' := (List.mem_singleton.mp h).symm
    have hn : lowerCode c.toNat = 0x20 := eq_toNat_of_ofNat (by decide) hs
    rcases lowerCode_eq_or_le c.toNat with he | hl
    · exact hc (by rw [← Char.ofNat_toNat c, ← he, hs])
    · omega

/-! ## 3. Texts -/

/-- A space stops the search for a cased character, and is none. -/
theorem isCaseIgnorable_space : isCaseIgnorable ' ' = false := by decide

theorem isCased_space : isCased ' ' = false := by decide

theorem startsCased_append_space (us vs : List Char) :
    startsCased (us ++ ' ' :: vs) = startsCased us := by
  induction us with
  | nil => simp [startsCased, isCaseIgnorable_space, isCased_space]
  | cons c us ih => simp only [List.cons_append, startsCased, ih]

/-- **A space parts lower-casing.** What follows it is lower-cased as at the start of a text. -/
theorem lowerFrom_append_space (us vs : List Char) : ∀ before : Bool,
    lowerFrom before (us ++ ' ' :: vs) = lowerFrom before us ++ ' ' :: lowerChars vs := by
  induction us with
  | nil =>
    intro before
    have h : casedAfter before ' ' = false := by
      simp [casedAfter, isCaseIgnorable_space, isCased_space]
    simp only [List.nil_append, lowerFrom, h]
    rfl
  | cons c us ih =>
    intro before
    simp only [List.cons_append, lowerFrom, startsCased_append_space, ih, List.append_assoc]

/-- **Joined words are lower-cased one by one.** -/
theorem lowerChars_intercalate : ∀ ws : List (List Char),
    lowerChars ([' '].intercalate ws) = [' '].intercalate (ws.map lowerChars)
  | [] => rfl
  | [w] => by rw [List.map_singleton, List.intercalate_singleton, List.intercalate_singleton]
  | w :: v :: vs => by
    have ih := lowerChars_intercalate (v :: vs)
    have hne : (v :: vs).map lowerChars ≠ [] := by simp
    rw [List.map_cons, List.intercalate_cons_of_ne_nil hne, ← ih, List.intercalate_cons_cons]
    simp only [List.append_assoc, List.singleton_append]
    exact lowerFrom_append_space w _ false

/-- On ASCII texts lower-casing is that of the single characters. -/
theorem lowerFrom_of_ascii {cs : List Char} (h : ∀ c ∈ cs, c.toNat < 128) : ∀ before : Bool,
    lowerFrom before cs = cs.map Char.toLower := by
  induction cs with
  | nil => intro before; rfl
  | cons c rest ih =>
    intro before
    have hc := h c List.mem_cons_self
    have hs : c ≠ 'Σ' := by
      rintro rfl
      exact absurd hc (by decide)
    have hr := ih (fun d hd => h d (List.mem_cons_of_mem c hd)) (casedAfter before c)
    simp only [lowerFrom, if_neg hs, lowerChar_of_ascii hc, hr, List.map_cons,
      List.singleton_append]

theorem lowerChars_of_ascii {cs : List Char} (h : ∀ c ∈ cs, c.toNat < 128) :
    lowerChars cs = cs.map Char.toLower := lowerFrom_of_ascii h false

/-- Lower-casing makes no spaces. -/
theorem space_not_mem_lowerFrom {cs : List Char} (h : ' ' ∉ cs) : ∀ before : Bool,
    ' ' ∉ lowerFrom before cs := by
  induction cs with
  | nil => intro before; exact List.not_mem_nil
  | cons c rest ih =>
    intro before hm
    obtain ⟨hc, hr⟩ := List.ne_and_not_mem_of_not_mem_cons h
    unfold lowerFrom at hm
    rcases List.mem_append.mp hm with hm | hm
    · split at hm
      · split at hm <;> exact absurd hm (by decide)
      · exact space_not_mem_lowerChar hc.symm hm
    · exact ih hr _ hm

theorem space_not_mem_lowerChars {cs : List Char} (h : ' ' ∉ cs) : ' ' ∉ lowerChars cs :=
  space_not_mem_lowerFrom h false

/-- An ASCII character that is no letter stays where it is. -/
theorem mem_lowerFrom {c : Char} (hc : c.toNat < 128) (ha : c.isAlpha = false) {cs : List Char}
    (h : c ∈ cs) : ∀ before : Bool, c ∈ lowerFrom before cs := by
  have hs : c ≠ 'Σ' := by
    rintro rfl
    exact absurd hc (by decide)
  induction h with
  | head rest =>
    intro before
    rw [lowerFrom, if_neg hs, lowerChar_of_ascii hc, toLower_of_not_isAlpha ha]
    exact List.mem_append_left _ (List.mem_singleton.mpr rfl)
  | tail d _ ih => exact fun before => List.mem_append_right _ (ih _)

theorem mem_lowerChars {c : Char} (hc : c.toNat < 128) (ha : c.isAlpha = false) {cs : List Char}
    (h : c ∈ cs) : c ∈ lowerChars cs := mem_lowerFrom hc ha h false

/-! ## 4. Where ASCII characters come from -/

/-- An ASCII character that comes from ASCII characters only. The dotted capital I is no exception
    for `i`, since it leaves a combining dot behind. -/
def IsNative (d : Char) : Prop := d.toNat < 128 ∧ d.toNat ≠ 0 ∧ d ≠ 'k'

instance (d : Char) : Decidable (IsNative d) :=
  inferInstanceAs (Decidable (d.toNat < 128 ∧ d.toNat ≠ 0 ∧ d ≠ 'k'))

/-- No run but that of the Kelvin sign leads from beyond ASCII into it. -/
theorem run_ascii : ∀ r ∈ caseRuns,
    r.last < 128 ∨ 128 ≤ (r.first : Int) + r.shift ∨ (r.first = 0x212A ∧ r.last = 0x212A) := by
  decide +kernel

/-- **A code point beyond ASCII stays beyond it**, but for the Kelvin sign. -/
theorem lt_or_eq_of_lowerCode_lt {n : Nat} (h : lowerCode n < 128) :
    n < 128 ∨ lowerCode n = 'k'.toNat := by
  by_cases hk : n = 0x212A
  · subst hk
    exact .inr (by decide +kernel)
  · refine .inl ?_
    rcases caseShift_eq caseRuns n with hs | ⟨r, hr, hf, hl, hs⟩
    · unfold lowerCode at h
      rw [hs] at h
      omega
    · have hrun := run_ascii r hr
      unfold lowerCode at h
      rw [hs] at h
      omega

theorem ascii_of_lowerChar {c : Char} (h : ∀ d ∈ lowerChar c, IsNative d) : c.toNat < 128 := by
  unfold lowerChar at h
  split at h
  · have hdot := h (Char.ofNat 0x307) (by simp)
    exact absurd hdot (by decide)
  · obtain ⟨hlt, hz, hk⟩ := h _ (List.mem_singleton.mpr rfl)
    have hn : lowerCode c.toNat = (Char.ofNat (lowerCode c.toNat)).toNat :=
      eq_toNat_of_ofNat hz rfl
    rw [← hn] at hlt
    refine (lt_or_eq_of_lowerCode_lt hlt).resolve_right fun he => hk ?_
    rw [he, Char.ofNat_toNat]

/-- **What becomes an ASCII text was an ASCII text.** A sigma of either form is none. -/
theorem ascii_of_lowerFrom {cs : List Char} : ∀ before : Bool,
    (∀ d ∈ lowerFrom before cs, IsNative d) → ∀ c ∈ cs, c.toNat < 128 := by
  induction cs with
  | nil => exact fun _ _ c hc => absurd hc List.not_mem_nil
  | cons c rest ih =>
    intro before h
    unfold lowerFrom at h
    obtain ⟨hhead, hrest⟩ := List.forall_mem_append.mp h
    refine List.forall_mem_cons.mpr ⟨?_, ih _ hrest⟩
    split at hhead
    · split at hhead
      · exact absurd (hhead 'ς' (List.mem_singleton.mpr rfl)) (by decide)
      · exact absurd (hhead 'σ' (List.mem_singleton.mpr rfl)) (by decide)
    · exact ascii_of_lowerChar hhead

theorem ascii_of_lowerChars {cs : List Char} (h : ∀ d ∈ lowerChars cs, IsNative d) :
    ∀ c ∈ cs, c.toNat < 128 := ascii_of_lowerFrom false h

end Measures.Text
