import Measures.Catalog.Standard
import Measures.Note
import Measures.Proofs.Decimal.Writing

/-!
# Every note is one line

Notes hold texts that the user has typed, and these may hold any character. But a note quotes every
such text; besides, it shows numbers, and as they are the keys of measures and the names of kinds. A
line fails only for reasons that the program itself gives, whose names are printable. So where the
keys of a catalog are printable, its notes are, and a line feed stands nowhere but at the end of a
note.

* `Note.isPrintable_line`: a note in which all that is not quoted is printable;
* `Catalog.isPrintable_of_mem_replyNotes`: the notes on the way to a reply;
* `Catalog.standard_keys`: the standard catalog has printable keys.
-/

namespace Measures

open Text (IsPrintable isPrintable_append_iff isPrintable_quoted)

/-- Numbers in notes are printable. -/
theorem isPrintable_writeNumber (x : Float) : IsPrintable (writeNumber x) :=
  Decimal.isPrintable_write numberFormat x

theorem Kind.isPrintable_name {k : Kind} (h : k.isQuery = true) : IsPrintable k.name := by
  cases k with
  | other name => exact absurd h (by simp)
  | _ => decide +kernel

/-! ## 1. Notes -/

/-- The texts that a note shows as they are. -/
def Note.bare : Note → List String
  | converted r _ => [r.source.key, r.target.key]
  | failed _ kind => [kind.name]
  | rejected _ | parsed .. | unmatched _ | resolved .. => []

theorem Note.isPrintable_topic (n : Note) : IsPrintable n.topic := by
  cases n <;> simp only [topic] <;> decide +kernel

/-- **A note is printable if what it does not quote is.** -/
theorem Note.isPrintable_line {n : Note} (h : ∀ text ∈ n.bare, IsPrintable text) :
    IsPrintable n.line := by
  -- In each case the last part of the message is taken off, since that opens the message.
  have hmessage : IsPrintable n.message := by
    cases n with
    | rejected line =>
      exact isPrintable_append_iff.mpr ⟨by decide +kernel, isPrintable_quoted line⟩
    | parsed line q =>
      refine isPrintable_append_iff.mpr ⟨?_, isPrintable_quoted q.target⟩
      simp only [isPrintable_append_iff, isPrintable_quoted, isPrintable_writeNumber, and_true]
      decide +kernel
    | unmatched word =>
      exact isPrintable_append_iff.mpr ⟨by decide +kernel, isPrintable_quoted word⟩
    | resolved q r =>
      refine isPrintable_append_iff.mpr ⟨?_, isPrintable_quoted r.target.key⟩
      simp only [isPrintable_append_iff, isPrintable_quoted, and_true]
      decide +kernel
    | converted r value =>
      have hsource : IsPrintable r.source.key := h _ List.mem_cons_self
      have htarget : IsPrintable r.target.key := h _ (List.mem_cons_of_mem _ List.mem_cons_self)
      refine isPrintable_append_iff.mpr ⟨?_, htarget⟩
      simp only [isPrintable_append_iff, isPrintable_writeNumber, hsource, and_true]
      decide +kernel
    | failed line kind =>
      refine isPrintable_append_iff.mpr ⟨?_, h _ List.mem_cons_self⟩
      simp only [isPrintable_append_iff, isPrintable_quoted, and_true]
      decide +kernel
  refine isPrintable_append_iff.mpr ⟨?_, hmessage⟩
  simp only [isPrintable_append_iff, n.isPrintable_topic, and_true]
  decide +kernel

/-! ## 2. The notes of a catalog -/

namespace Catalog

variable {c : Catalog} {n : Note} {text : String}

/-- The key of the measure that a word stands for; it is empty if the word names none. -/
theorem isPrintable_key_lookup (hc : ∀ m ∈ c.measures, IsPrintable m.key) (word : String) :
    IsPrintable (c.lookup word).key := by
  rw [lookup]
  cases h : c.find? word with
  | none => decide
  | some m => exact hc m (mem_of_find? h)

theorem bare_of_mem_lookupNotes {word : String} (h : n ∈ c.lookupNotes word) :
    n.bare = [] := by
  unfold lookupNotes at h
  split at h
  · cases h
  · rw [List.mem_singleton.mp h]
    rfl

/-- What stands bare in the notes on a question are the keys of the measures that its words stand
    for. -/
theorem exists_word_of_mem_queryNotes {q : Query} (h : n ∈ c.queryNotes q) (hk : text ∈ n.bare) :
    ∃ word, text = (c.lookup word).key := by
  have hnone : n.bare ≠ [] := List.ne_nil_of_mem hk
  rcases List.mem_append.mp h with h | h
  · rcases List.mem_append.mp h with h | h
    · exact absurd (bare_of_mem_lookupNotes h) hnone
    · exact absurd (bare_of_mem_lookupNotes h) hnone
  · rcases List.mem_cons.mp h with rfl | h
    · cases hk
    · split at h
      · rw [List.mem_singleton.mp h] at hk
        rcases List.mem_cons.mp hk with rfl | hk
        · exact ⟨q.source, rfl⟩
        · exact ⟨q.target, List.mem_singleton.mp hk⟩
      · cases h

theorem exists_word_of_mem_answerNotes {line : String} (h : n ∈ c.answerNotes line)
    (hk : text ∈ n.bare) : ∃ word, text = (c.lookup word).key := by
  unfold answerNotes at h
  split at h
  · rcases List.mem_cons.mp h with rfl | h
    · cases hk
    · exact exists_word_of_mem_queryNotes h hk
  · split at h
    · cases h
    · rw [List.mem_singleton.mp h] at hk
      cases hk

/-- The note on a failure shows the name of the reason. -/
theorem bare_cases_of_mem_replyNotes {line : String} (h : n ∈ c.replyNotes line)
    (hk : text ∈ n.bare) :
    (∃ word, text = (c.lookup word).key) ∨ ∃ k : Kind, k.isQuery = true ∧ text = k.name := by
  rcases List.mem_append.mp h with h | h
  · exact .inl (exists_word_of_mem_answerNotes h hk)
  · split at h
    · cases h
    · split at h
      · rename_i hq
        rw [List.mem_singleton.mp h] at hk
        exact .inr ⟨_, hq, List.mem_singleton.mp hk⟩
      · cases h

/-- The notes on the way to an answer are notes on the way to the reply, too. -/
theorem mem_replyNotes {line : String} (h : n ∈ c.answerNotes line) : n ∈ c.replyNotes line :=
  List.mem_append_left _ h

/-- **The notes of a catalog with printable keys are printable**, whatever is on the line. -/
theorem isPrintable_of_mem_replyNotes (hc : ∀ m ∈ c.measures, IsPrintable m.key) {line : String}
    (h : n ∈ c.replyNotes line) : IsPrintable n.line := by
  refine Note.isPrintable_line fun text hk => ?_
  rcases bare_cases_of_mem_replyNotes h hk with ⟨word, rfl⟩ | ⟨k, hq, rfl⟩
  · exact isPrintable_key_lookup hc word
  · exact Kind.isPrintable_name hq

theorem standard_keys : ∀ m ∈ standard.measures, IsPrintable m.key := by decide +kernel

end Catalog

end Measures
