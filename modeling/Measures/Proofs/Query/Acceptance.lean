import Measures.Proofs.Query.Grammar
import Measures.Proofs.Text.Lowering
import Measures.Query

/-!
# Which lines are questions

The shape of a question is decided on the words of a line joined by spaces, and the amount is then
read from the first word alone. Here the two are put together and said of the words.

* `IsQuestion`: the grammar of questions, as a property of the words of a line;
* `ofLine_grammar`: a line is read as a question exactly if its words are of that grammar, the
  amount is what its first word writes, and any other line is malformed.

The character inside the number may be the space between two words. So a second group of digits
after a whole number passes, and no part of the amount comes from it: `digits_after_amount` says
that this is the only word without letters that can follow the amount.
-/

namespace Measures.Query

open Text (AllOf IsDigits IsLetters pieces lowerChars)
open Decimal (IsWhole IsAmount)

/-! ## 1. The grammar, word by word -/

/-- The characters of a word in lower case. -/
def lowered (word : String) : List Char := (Text.lower word).toList

/-- The words of a question: a numeral, possibly a group of digits if the numeral is a whole number,
    and a phrase. -/
def IsQuestion (tokens : List String) : Prop :=
  ∃ first rest, tokens = first :: rest ∧ IsAmount first.toList ∧
    (Phrase (rest.map lowered) ∨
      IsWhole first.toList ∧ ∃ group more, rest = group :: more ∧
        IsDigits (lowered group) ∧ Phrase (more.map lowered))

/-- A word as it comes from a line. -/
def IsToken (t : String) : Prop := t.toList ≠ [] ∧ ∀ c ∈ t.toList, Text.isBlank c = false

theorem IsToken.space_not_mem {t : String} (h : IsToken t) : ' ' ∉ lowered t := by
  rw [lowered, Text.toList_lower]
  refine Text.space_not_mem_lowerChars fun hm => ?_
  exact absurd (h.2 ' ' hm) (by decide)

/-! ## 2. Cutting the number at spaces -/

theorem isWhole_space_not_mem {cs : List Char} (h : IsWhole cs) : ' ' ∉ cs := by
  rcases h with hd | ⟨ds, rfl, hd⟩
  · exact hd.not_mem (by decide)
  · exact List.not_mem_cons_of_ne_of_not_mem (by decide) (hd.not_mem (by decide))

theorem pieces_space {cs : List Char} (h : ' ' ∉ cs) : pieces (· = ' ') cs = [cs] :=
  Text.pieces_of_not_sep fun _ hc => decide_eq_false fun he => h (he ▸ hc)

/-- **A number holds one space at most**, and then it is cut into a whole number and digits. -/
theorem pieces_number {cs : List Char} (h : IsNumber cs) :
    pieces (· = ' ') cs = [cs] ∨ ∃ whole places, pieces (· = ' ') cs = [whole, places] ∧
      IsWhole whole ∧ IsDigits places := by
  rcases h with hw | ⟨whole, gap, places, rfl, hw, hg, hp⟩
  · exact .inl (pieces_space (isWhole_space_not_mem hw))
  · have hplaces : ' ' ∉ places := hp.not_mem (by decide)
    by_cases hspace : gap = ' '
    · subst hspace
      refine .inr ⟨whole, places, ?_, hw, hp⟩
      rw [Text.pieces_append_sep (by decide), pieces_space (isWhole_space_not_mem hw),
        pieces_space hplaces]
      rfl
    · refine .inl (pieces_space fun hm => ?_)
      rcases List.mem_append.mp hm with hm | hm
      · exact isWhole_space_not_mem hw hm
      · exact List.not_mem_cons_of_ne_of_not_mem (Ne.symm hspace) hplaces hm

/-- The shape is looked for in the words, lower-cased one by one and joined. -/
theorem isWellFormed_eq (tokens : List String) :
    isWellFormed tokens = hasShape ([' '].intercalate (tokens.map lowered)) := by
  rw [isWellFormed, Text.lowerChars_intercalate, List.map_map]
  congr 2
  exact List.map_congr_left fun t _ => (Text.toList_lower t).symm

/-- The shape of a question, said of the words in lower case. -/
def HasParts (first : List Char) (rest : List (List Char)) : Prop :=
  (IsNumber first ∧ Phrase rest) ∨
    (IsWhole first ∧ ∃ group more, rest = group :: more ∧ IsDigits group ∧ Phrase more)

/-- **The shape of the joined words is a matter of the single words.** -/
theorem isWellFormed_iff {tokens : List String} (ht : ∀ t ∈ tokens, IsToken t) :
    isWellFormed tokens = true ↔
      ∃ first rest, tokens.map lowered = first :: rest ∧ HasParts first rest := by
  rw [isWellFormed_eq, hasShape_iff]
  constructor
  · intro h
    obtain ⟨number, ws, he, hn, hw⟩ := h
    have hne : tokens.map lowered ≠ [] := by
      intro hnil
      rw [hnil] at he
      exact absurd he.symm (by simp)
    have hsep : ∀ w ∈ tokens.map lowered, ∀ c ∈ w, decide (c = ' ') = false := by
      intro w hm c hc
      obtain ⟨t, hmt, rfl⟩ := List.mem_map.mp hm
      exact decide_eq_false fun hs => (ht t hmt).space_not_mem (hs ▸ hc)
    -- both sides are cut at the spaces: into the words here, into number and phrase there
    have hcut := congrArg (pieces (· = ' ')) he
    rw [Text.pieces_intercalate (by decide) hne hsep, Text.pieces_append_sep (by decide),
      Text.pieces_intercalate (by decide) hw.ne_nil hw.not_space] at hcut
    rcases pieces_number hn with hp | ⟨whole, places, hp, hwhole, hplaces⟩
    · rw [hp] at hcut
      exact ⟨number, ws, hcut, .inl ⟨hn, hw⟩⟩
    · rw [hp] at hcut
      exact ⟨whole, places :: ws, hcut, .inr ⟨hwhole, places, ws, rfl, hplaces, hw⟩⟩
  · intro h
    obtain ⟨first, rest, he, ⟨hn, hw⟩ | ⟨hwhole, group, more, rfl, hg, hw⟩⟩ := h
    · refine ⟨first, rest, ?_, hn, hw⟩
      rw [he, List.intercalate_cons_of_ne_nil hw.ne_nil]
      simp
    · refine ⟨first ++ ' ' :: group, more, ?_, ?_, hw⟩
      · rw [he, List.intercalate_cons_cons, List.intercalate_cons_of_ne_nil hw.ne_nil]
        simp
      · exact .inr ⟨first, ' ', group, rfl, hwhole, by decide, hg⟩

/-! ## 3. The first word -/

theorem isDigits_of_lower {cs : List Char} (h : IsDigits (cs.map Char.toLower)) : IsDigits cs := by
  refine ⟨fun hnil => h.1 (by rw [hnil]; rfl), fun c hc => ?_⟩
  rw [← Text.isDigit_toLower]
  exact h.2 c.toLower (List.mem_map_of_mem hc)

theorem isWhole_of_lower {cs : List Char} (h : IsWhole (cs.map Char.toLower)) : IsWhole cs := by
  rcases h with hd | ⟨ds, he, hd⟩
  · exact .inl (isDigits_of_lower hd)
  · obtain ⟨c, rest, rfl, hc, rfl⟩ := List.map_eq_cons_iff.mp he
    rw [Text.eq_of_toLower_eq hc (by decide)]
    exact .inr ⟨rest, rfl, isDigits_of_lower hd⟩

theorem isWhole_append_digits {whole ds : List Char} (h : IsWhole whole) (hd : IsDigits ds) :
    IsWhole (whole ++ ds) := by
  have happend : ∀ {us : List Char}, IsDigits us → IsDigits (us ++ ds) := by
    intro us hu
    refine ⟨by simp [hu.1], fun c hc => ?_⟩
    rcases List.mem_append.mp hc with hc | hc
    · exact hu.2 c hc
    · exact hd.2 c hc
  rcases h with hu | ⟨us, rfl, hu⟩
  · exact .inl (happend hu)
  · exact .inr ⟨us ++ ds, rfl, happend hu⟩

/-- An amount has no other characters than ASCII ones, and is read as a numeral. -/
theorem amount?_eq_some {token : String} {x : Float} (h : amount? token = some x) :
    (∀ c ∈ token.toList, c.toNat < 128) ∧ Decimal.read? token = some x := by
  unfold amount? at h
  split at h
  · rename_i hall
    refine ⟨fun c hc => ?_, h⟩
    have hcc := List.all_eq_true.mp hall c hc
    rw [Bool.and_eq_true, decide_eq_true_eq] at hcc
    exact hcc.1
  · cases h

theorem amount?_of_isAmount {token : String} (h : IsAmount token.toList) :
    amount? token = Decimal.read? token := by
  unfold amount?
  rw [if_pos]
  refine List.all_eq_true.mpr fun c hc => ?_
  rw [Bool.and_eq_true, decide_eq_true_eq, decide_eq_true_eq]
  exact ⟨(h.ascii c hc).1, (h.ascii c hc).2.1⟩

/-- **A number that is also an amount is a numeral of a question**: the character inside it must be
    one of the three that reading admits. -/
theorem isAmount_of_isNumber {token : String} {x : Float} (ht : IsToken token)
    (ha : amount? token = some x) (hn : IsNumber (lowered token)) : IsAmount token.toList := by
  obtain ⟨hascii, hread⟩ := amount?_eq_some ha
  rw [lowered, Text.toList_lower, Text.lowerChars_of_ascii hascii] at hn
  rcases hn with hw | ⟨whole, gap, places, he, hw, _, hp⟩
  · exact .inl (isWhole_of_lower hw)
  · obtain ⟨us, vs, hcut, rfl, hv⟩ := List.map_eq_append_iff.mp he
    obtain ⟨c, ds, rfl, rfl, rfl⟩ := List.map_eq_cons_iff.mp hv
    have hus := isWhole_of_lower hw
    have hds := isDigits_of_lower hp
    rw [hcut]
    by_cases hc : c.isDigit = true
    · refine .inl (isWhole_append_digits hus ⟨List.cons_ne_nil c ds, fun d hd => ?_⟩)
      rcases List.mem_cons.mp hd with rfl | hd
      · exact hc
      · exact hds.2 d hd
    · -- a character that is no digit is one of the three marks, or reading would fail at it
      rw [Decimal.read?_of_not_blank ht.2, hcut] at hread
      have hsome : (Decimal.numeral? (us ++ c :: ds)).isSome = true := by
        cases hnum : Decimal.numeral? (us ++ c :: ds) with
        | none => rw [hnum] at hread; cases hread
        | some n => rfl
      have hmark := (Decimal.isSome_numeral?_iff hus (by simpa using hc) hds).mp hsome
      exact .inr ⟨us, c, ds, rfl, hus, hmark, hds⟩

/-- In lower case a numeral of a question is a number still. -/
theorem isNumber_of_isAmount {token : String} (h : IsAmount token.toList) :
    IsNumber (lowered token) ∧ (IsWhole token.toList → IsWhole (lowered token)) := by
  have hlow : ∀ {cs : List Char}, IsDigits cs → IsDigits (cs.map Char.toLower) := by
    intro cs hd
    refine ⟨by simpa using hd.1, fun c hc => ?_⟩
    obtain ⟨d, hm, rfl⟩ := List.mem_map.mp hc
    rw [Text.isDigit_toLower]
    exact hd.2 d hm
  have hwhole : ∀ {cs : List Char}, IsWhole cs → IsWhole (cs.map Char.toLower) := by
    intro cs hw
    rcases hw with hd | ⟨ds, rfl, hd⟩
    · exact .inl (hlow hd)
    · exact .inr ⟨ds.map Char.toLower, rfl, hlow hd⟩
  rw [lowered, Text.toList_lower, Text.lowerChars_of_ascii fun c hc => (h.ascii c hc).1]
  refine ⟨?_, hwhole⟩
  rcases h with hw | ⟨whole, mark, places, he, hw, hm, hp⟩
  · exact .inl (hwhole hw)
  · refine .inr ⟨whole.map Char.toLower, mark.toLower, places.map Char.toLower, ?_, hwhole hw, ?_,
      hlow hp⟩
    · rw [he, List.map_append, List.map_cons]
    · exact Text.forall_of_all (fun d => d.toLower ≠ '\n') (by decide) hm

/-! ## 4. Lines -/

theorem isToken_of_mem_words {line t : String} (h : t ∈ Text.words line) : IsToken t :=
  Text.mem_words h

/-- Four words or more always name a source and a target. -/
theorem exists_unitWords {tokens : List String} (h : 4 ≤ tokens.length) :
    ∃ p, unitWords tokens = some p := by
  have hget : ∀ n < 4, ∃ t, tokens[n]? = some t := fun n hn =>
    ⟨_, List.getElem?_eq_getElem (by omega)⟩
  obtain ⟨second, hs⟩ := hget 1 (by omega)
  obtain ⟨third, ht⟩ := hget 2 (by omega)
  unfold unitWords
  split
  · obtain ⟨last, hl⟩ := hget 3 (by omega)
    exact ⟨(second, last), by rw [hs, hl]; rfl⟩
  · split
    · rename_i h6
      have hl : tokens[5]? = some tokens[5] := List.getElem?_eq_getElem (by omega)
      exact ⟨(third, tokens[5]), by rw [ht, hl]; rfl⟩
    · split
      · rename_i last connector more _
        rw [hs, ht]
        by_cases hc : connector ∈ connectors
        · exact ⟨(third, last), by rw [if_pos hc]; rfl⟩
        · exact ⟨(second, last), by rw [if_neg hc]; rfl⟩
      · rename_i hshort
        exfalso
        match hr : tokens.reverse with
        | [] | [_] =>
          have hlen := congrArg List.length hr
          simp only [List.length_reverse, List.length_cons, List.length_nil] at hlen
          omega
        | last :: connector :: more => exact hshort _ _ _ hr

theorem IsQuestion.length_le {tokens : List String} (h : IsQuestion tokens) :
    4 ≤ tokens.length := by
  obtain ⟨first, rest, rfl, _, hp | ⟨_, group, more, rfl, _, hp⟩⟩ := h
  all_goals
    have hlen := hp.length_le
    simp only [List.length_map, List.length_cons] at hlen ⊢
    omega

/-- The first word of a question is an amount, and no other word has a character but letters or
    digits. -/
theorem IsQuestion.words {first : String} {rest : List String} (h : IsQuestion (first :: rest)) :
    IsAmount first.toList ∧ ∀ w ∈ rest, IsLetters (lowered w) ∨ IsDigits (lowered w) := by
  have hletters : ∀ {ws : List String}, Phrase (ws.map lowered) →
      ∀ w ∈ ws, IsLetters (lowered w) ∨ IsDigits (lowered w) := fun hp w hw =>
    .inl (hp.letters _ (List.mem_map_of_mem hw))
  obtain ⟨_, _, he, ha, hp⟩ := h
  obtain ⟨rfl, rfl⟩ := List.cons.inj he
  refine ⟨ha, ?_⟩
  rcases hp with hp | ⟨_, group, more, rfl, hg, hp⟩
  · exact hletters hp
  · exact List.forall_mem_cons.mpr ⟨.inr hg, hletters hp⟩

/-- So the only place for a dash is the first word. -/
theorem IsQuestion.dash_not_mem {first : String} {rest : List String}
    (h : IsQuestion (first :: rest)) : ∀ w ∈ rest, '-' ∉ w.toList := by
  intro w hw hm
  have hlow : '-' ∈ lowered w := by
    rw [lowered, Text.toList_lower]
    exact Text.mem_lowerChars (by decide) (by decide) hm
  rcases h.words.2 w hw with hl | hd
  · exact hl.not_mem (by decide) hlow
  · exact hd.not_mem (by decide) hlow

/-- The grammar gives the words the shape of a question. -/
theorem IsQuestion.isWellFormed {tokens : List String} (ht : ∀ t ∈ tokens, IsToken t)
    (h : IsQuestion tokens) : isWellFormed tokens = true := by
  obtain ⟨first, rest, rfl, ha, hp⟩ := h
  obtain ⟨hn, hw⟩ := isNumber_of_isAmount ha
  refine (isWellFormed_iff ht).mpr ⟨lowered first, rest.map lowered, rfl, ?_⟩
  rcases hp with hp | ⟨hfirst, group, more, rfl, hg, hp⟩
  · exact .inl ⟨hn, hp⟩
  · exact .inr ⟨hw hfirst, lowered group, more.map lowered, rfl, hg, hp⟩

/-- What words of the grammar are read as: the amount that the first word writes, and the two words
    that routing picks. -/
theorem ofWords_eq {first : String} {rest : List String} {x : Float} {source target : String}
    (ht : ∀ t ∈ first :: rest, IsToken t) (h : IsQuestion (first :: rest))
    (hx : Decimal.read? first = some x) (hu : unitWords (first :: rest) = some (source, target)) :
    ofWords (first :: rest) = .ok ⟨x, source, target⟩ := by
  have hshape := h.isWellFormed ht
  obtain ⟨_, _, he, ha, _⟩ := h
  obtain ⟨rfl, rfl⟩ := List.cons.inj he
  unfold ofWords
  rw [if_pos hshape, List.head?_cons]
  simp only [amount?_of_isAmount ha, hx, hu]

/-- **Words of the grammar are read as a question**, whose amount is what the first word writes. -/
theorem ofWords_of_isQuestion {tokens : List String} (ht : ∀ t ∈ tokens, IsToken t)
    (h : IsQuestion tokens) : ∃ first rest q, tokens = first :: rest ∧
      ofWords tokens = .ok q ∧ Decimal.read? first = some q.amount := by
  have hq := h
  obtain ⟨⟨source, target⟩, hu⟩ := exists_unitWords h.length_le
  obtain ⟨first, rest, rfl, ha, _⟩ := h
  obtain ⟨x, hx⟩ := Decimal.exists_read? ha
  exact ⟨first, rest, ⟨x, source, target⟩, rfl, ofWords_eq ht hq hx hu, hx⟩

/-- Words of the right shape whose first is an amount are of the grammar. -/
theorem isQuestion_of_isWellFormed {first : String} {rest : List String} {x : Float}
    (ht : ∀ t ∈ first :: rest, IsToken t) (hs : isWellFormed (first :: rest) = true)
    (ha : amount? first = some x) : IsQuestion (first :: rest) := by
  have hfirst := ht first List.mem_cons_self
  obtain ⟨low, lows, he, hp⟩ := (isWellFormed_iff ht).mp hs
  rw [List.map_cons] at he
  obtain ⟨rfl, rfl⟩ := List.cons.inj he
  refine ⟨first, rest, rfl, ?_, ?_⟩
  · rcases hp with ⟨hn, _⟩ | ⟨hw, _⟩
    · exact isAmount_of_isNumber hfirst ha hn
    · exact isAmount_of_isNumber hfirst ha (.inl hw)
  · rcases hp with ⟨_, hp⟩ | ⟨hw, group, more, hr, hg, hp⟩
    · exact .inl hp
    · obtain ⟨g, ms, rfl, rfl, rfl⟩ := List.map_eq_cons_iff.mp hr
      rw [lowered, Text.toList_lower, Text.lowerChars_of_ascii (amount?_eq_some ha).1] at hw
      exact .inr ⟨isWhole_of_lower hw, g, ms, rfl, hg, hp⟩

/-- **All other words are malformed**, and not a question for any other reason. -/
theorem ofWords_of_not_isQuestion {tokens : List String} (ht : ∀ t ∈ tokens, IsToken t)
    (h : ¬ IsQuestion tokens) : ofWords tokens = .error .malformed := by
  unfold ofWords
  split
  · rename_i hs
    cases tokens with
    | nil => exact absurd hs (by decide)
    | cons first rest =>
      cases ha : amount? first with
      | none => simp only [List.head?_cons, ha]
      | some x => exact absurd (isQuestion_of_isWellFormed ht hs ha) h
  · rfl

theorem isQuestion_of_ofWords {tokens : List String} (ht : ∀ t ∈ tokens, IsToken t) {q : Query}
    (h : ofWords tokens = .ok q) : IsQuestion tokens := by
  by_cases hq : IsQuestion tokens
  · exact hq
  · rw [ofWords_of_not_isQuestion ht hq] at h
    cases h

/-- **A line that is no question is malformed**, and fails for no other reason. -/
theorem ofLine_of_not_question {line : String} (h : ∀ q, ofLine line ≠ .ok q) :
    ofLine line = .error .malformed := by
  have ht : ∀ t ∈ Text.words line, IsToken t := fun t => isToken_of_mem_words
  refine ofWords_of_not_isQuestion ht fun hq => ?_
  obtain ⟨_, _, q, _, he, _⟩ := ofWords_of_isQuestion ht hq
  exact h q he

/-- A question read from a line has its amount from the first word. -/
theorem read?_of_ofLine {line : String} {q : Query} (h : ofLine line = .ok q) :
    ∃ first rest, Text.words line = first :: rest ∧ Decimal.read? first = some q.amount := by
  have ht : ∀ t ∈ Text.words line, IsToken t := fun t => isToken_of_mem_words
  obtain ⟨first, rest, q', he, hq, hr⟩ := ofWords_of_isQuestion ht (isQuestion_of_ofWords ht h)
  rw [ofLine, hq] at h
  cases h
  exact ⟨first, rest, he, hr⟩

/-- **The lines that are questions** are those whose words are of the grammar. The amount is what
    the first word writes; a line that is no question is malformed and nothing else. -/
theorem ofLine_grammar (line : String) :
    ((∃ q, ofLine line = .ok q) ↔ IsQuestion (Text.words line)) ∧
      (ofLine line = .error .malformed ↔ ¬ IsQuestion (Text.words line)) ∧
      ∀ q, ofLine line = .ok q →
        ∃ first rest, Text.words line = first :: rest ∧ Decimal.read? first = some q.amount := by
  have ht : ∀ t ∈ Text.words line, IsToken t := fun t => isToken_of_mem_words
  refine ⟨⟨fun ⟨q, hq⟩ => isQuestion_of_ofWords ht hq, fun h => ?_⟩,
    ⟨fun he h => ?_, ofWords_of_not_isQuestion ht⟩, fun q => read?_of_ofLine⟩
  · obtain ⟨_, _, q, _, hq, _⟩ := ofWords_of_isQuestion ht h
    exact ⟨q, hq⟩
  · obtain ⟨_, _, q, _, hq, _⟩ := ofWords_of_isQuestion ht h
    rw [ofLine, hq] at he
    cases he

/-- A capital `E`, capitals in the connector, and a minus. -/
theorem ofLine_grammar_exponent :
    ofLine "-1E5 km TO Mi" = .ok ⟨-100000.0, "km", "Mi"⟩ ∧
      IsQuestion (Text.words "-1E5 km TO Mi") ∧
      ∃ first rest, Text.words "-1E5 km TO Mi" = first :: rest ∧
        Decimal.read? first = some (-100000.0) :=
  have h : ofLine "-1E5 km TO Mi" = .ok ⟨-100000.0, "km", "Mi"⟩ := rfl
  ⟨h, (ofLine_grammar _).1.mp ⟨_, h⟩, (ofLine_grammar _).2.2 _ h⟩

/-- **What can follow the amount**: words of letters. Only where the amount is a whole number, a
    group of digits can stand right after it, and then the amount is the first group alone. -/
theorem digits_after_amount (line : String) (q : Query) (h : ofLine line = .ok q) :
    ∃ first rest, Text.words line = first :: rest ∧ Decimal.read? first = some q.amount ∧
      ((∀ w ∈ rest, IsLetters (lowered w)) ∨
        (IsWhole first.toList ∧ ∃ group more, rest = group :: more ∧
          IsDigits (lowered group) ∧ ∀ w ∈ more, IsLetters (lowered w))) := by
  have hletters : ∀ {ws : List String}, Phrase (ws.map lowered) →
      ∀ w ∈ ws, IsLetters (lowered w) := fun hp w hw => hp.letters _ (List.mem_map_of_mem hw)
  obtain ⟨first, rest, he, hr⟩ := read?_of_ofLine h
  obtain ⟨first', rest', he', _, hp⟩ := isQuestion_of_ofWords (fun t => isToken_of_mem_words) h
  rw [he] at he'
  obtain ⟨rfl, rfl⟩ := List.cons.inj he'
  refine ⟨first, rest, he, hr, ?_⟩
  rcases hp with hp | ⟨hw, group, more, rfl, hg, hp⟩
  · exact .inl (hletters hp)
  · exact .inr ⟨hw, group, more, rfl, hg, hletters hp⟩

/-- The second group of digits is passed over. -/
theorem digits_after_amount_one :
    ofLine "1 5 km to mi" = .ok ⟨1.0, "km", "mi"⟩ ∧
      ∃ first rest, Text.words "1 5 km to mi" = first :: rest ∧
        Decimal.read? first = some 1.0 ∧
        ((∀ w ∈ rest, IsLetters (lowered w)) ∨
          (IsWhole first.toList ∧ ∃ group more, rest = group :: more ∧
            IsDigits (lowered group) ∧ ∀ w ∈ more, IsLetters (lowered w))) :=
  ⟨rfl, digits_after_amount "1 5 km to mi" ⟨1.0, "km", "mi"⟩ rfl⟩

/-- Not all words after the amount are words of letters. -/
theorem exists_digits_after_amount :
    ¬ ∀ line q, ofLine line = .ok q → ∀ w ∈ (Text.words line).tail, IsLetters (lowered w) := by
  intro h
  have hfive := h "1 5 km to mi" ⟨1.0, "km", "mi"⟩ rfl "5" (by decide)
  exact absurd hfive (by decide)

end Measures.Query
