import Measures.Catalog.Standard
import Measures.Dialogue
import Measures.Proofs.Catalog.Acceptance
import Measures.Proofs.Outcome

/-!
# Which lines have a reply

A line that has no answer is replied to with a message, if the reason why it has none lies in the
line. A reason that lies in the catalog has no message, and ends a dialogue. There is one such
reason: the amount would be divided by the scale of a measure of size zero. A catalog may hold such
a measure, since nothing in reading a list of measures looks at scales.

* `DividesByZero`: the lines that ask for a value in units of size zero;
* `answer_eq_zeroScale_iff`: what comes of them, and of no other line;
* `exists_reply_iff`: all other lines have a reply;
* `problem_dialogue`: a dialogue ends with the problem of the first line that has none;
* `reply_iff_not_dividesByZero`: the same, put together.
-/

namespace Measures

/-! ## 1. Reasons without a message -/

theorem Fault.eq_zeroScale_of_kind {f : Fault} (h : f.problem.kind = .zeroScale) :
    f = .zeroScale := by
  cases f with
  | zeroScale => rfl
  | _ => cases h

/-- What is found before anything is converted lies in the line. -/
theorem Kind.isQuery_of_mem {k : Kind}
    (h : k ∈ [malformed, unknownMeasure, negativeAmount, categoryMismatch]) : k.isQuery = true := by
  have hall : ∀ k ∈ [malformed, unknownMeasure, negativeAmount, categoryMismatch],
      isQuery k = true := by decide
  exact hall k h

namespace Catalog

variable {c : Catalog} {line : String}

/-- The line asks for a value in units of size zero: its words name two lengths or two weights of
    different keys, its amount is not below zero, and the scale of the target is zero. -/
inductive DividesByZero (c : Catalog) (line : String) : Prop
  | intro {q : Query} {u v : Measure} (hq : Query.ofLine line = .ok q) (ha : c.Asks q u v)
      (hx : ¬ q.amount < 0.0) (hc : u.category = v.category) (hk : u.key ≠ v.key)
      (hl : u.category = .length ∨ u.category = .weight) (hz : v.scale = 0.0 ∨ v.scale = -0.0)

/-- **Such a line, and no other, is left without an answer by the catalog.** -/
theorem answer_eq_zeroScale_iff : c.answer line = .error .zeroScale ↔ c.DividesByZero line := by
  constructor
  · intro h
    rcases problem_cases h with hp | ⟨q, u, v, hq, ha, hx, hc, hv⟩
    · exact absurd hp (by decide)
    · rcases hv.failure_cases with ⟨_, hl, hz⟩ | ⟨hp, _⟩
      · have htemp : u.category ≠ .temperature := by rcases hl with hl | hl <;> rw [hl] <;> decide
        exact ⟨hq, ha, fun h => htemp (hx h), hc, hv.key_ne, hl, hz⟩
      · exact absurd hp (by decide)
  · intro ⟨hq, ha, hx, hc, hk, hl, hz⟩
    have ho := answer_of_outcome (.failed hq ha (fun h => absurd h hx) hc (.zeroScale hk hl hz))
    cases h : c.answer line with
    | ok a =>
      rw [h] at ho
      cases ho
    | error f =>
      rw [h] at ho
      exact congrArg _ (Fault.eq_zeroScale_of_kind (congrArg Problem.kind (Except.error.inj ho)))

/-- Every reason but this one lies in the line. -/
theorem isQuery_of_answer {f : Fault} (h : c.answer line = .error f) :
    f.problem.kind.isQuery = true ∨ f = .zeroScale := by
  rcases problem_cases h with hp | ⟨q, u, v, _, _, _, _, hv⟩
  · exact .inl (Kind.isQuery_of_mem hp)
  · rcases hv.failure_cases with ⟨hp, _⟩ | ⟨hp, _⟩
    · exact .inr (Fault.eq_zeroScale_of_kind (congrArg Problem.kind hp))
    · exact .inl (by rw [hp]; rfl)

/-- **All that can come of a line lies in the line** unless it divides by zero. -/
theorem isQuery_iff_not_dividesByZero :
    (∀ f, c.answer line = .error f → f.problem.kind.isQuery = true) ↔ ¬ c.DividesByZero line := by
  rw [← answer_eq_zeroScale_iff]
  constructor
  · intro h hz
    exact absurd (h _ hz) (by decide)
  · intro hz f hf
    exact (isQuery_of_answer hf).resolve_right fun he => hz (he ▸ hf)

/-! ## 2. Replies -/

/-- An answer is read out. -/
theorem reply_of_answer {a : Answer} (h : c.answer line = .ok a) :
    c.reply line = .ok a.describe := by
  rw [reply, h]

/-- A reason that lies in the line is told. -/
theorem reply_of_isQuery {f : Fault} (h : c.answer line = .error f)
    (hk : f.problem.kind.isQuery = true) : c.reply line = .ok f.message := by
  rw [reply, h]
  exact if_pos hk

/-- Where the catalog is the reason, it is passed on. -/
theorem reply_of_zeroScale (h : c.answer line = .error .zeroScale) :
    c.reply line = .error .zeroScale := by
  rw [reply, h]
  rfl

/-- **A line has a reply unless it divides by zero.** -/
theorem exists_reply_iff : (∃ s, c.reply line = .ok s) ↔ ¬ c.DividesByZero line := by
  rw [← answer_eq_zeroScale_iff]
  constructor
  · intro ⟨s, hs⟩ h
    rw [reply_of_zeroScale h] at hs
    cases hs
  · intro h
    cases ha : c.answer line with
    | ok a => exact ⟨_, reply_of_answer ha⟩
    | error f =>
      rcases isQuery_of_answer ha with hk | rfl
      · exact ⟨_, reply_of_isQuery ha hk⟩
      · exact absurd ha h

end Catalog

/-! ## 3. Dialogues -/

/-- The lines of a script that are replied to: those before the end of the dialogue. -/
def Dialogue.served : List Response → List String
  | .line text :: rest => if isExit text then [] else text :: served rest
  | _ => []

/-- The problem in a prompt that ends the dialogue, if that is what ends it. -/
def Dialogue.raised? : List Response → Option Problem
  | .line text :: rest => if isExit text then none else raised? rest
  | .raised p :: _ => some p
  | _ => none

namespace Catalog

variable {c : Catalog} {line : String}

/-- The problem that a line leads to in place of a reply. -/
def refusal? (c : Catalog) (line : String) : Option Problem :=
  match c.reply line with
  | .ok _ => none
  | .error f => some f.problem

theorem refusal?_of_dividesByZero (h : c.DividesByZero line) :
    c.refusal? line = some Fault.zeroScale.problem := by
  rw [refusal?, reply_of_zeroScale (answer_eq_zeroScale_iff.mpr h)]

theorem refusal?_of_not_dividesByZero (h : ¬ c.DividesByZero line) : c.refusal? line = none := by
  obtain ⟨s, hs⟩ := exists_reply_iff.mpr h
  rw [refusal?, hs]

/-- **A dialogue ends with the problem of the first line that has no reply.** Where all lines have
    one, it ends with the problem of a prompt, if at all. -/
theorem problem_dialogue (c : Catalog) : ∀ script : List Response,
    (c.dialogue script).problem =
      ((Dialogue.served script).findSome? c.refusal?).or (Dialogue.raised? script)
  | [] => rfl
  | .cancelled :: _ => rfl
  | .raised _ :: _ => rfl
  | .line text :: rest => by
    have ih := c.problem_dialogue rest
    rw [dialogue, Dialogue.served, Dialogue.raised?]
    by_cases hexit : Dialogue.isExit text = true
    · rw [if_pos hexit, if_pos hexit, if_pos hexit]
      rfl
    · rw [if_neg hexit, if_neg hexit, if_neg hexit, List.findSome?_cons, refusal?]
      cases c.reply text with
      | ok reply => exact ih
      | error f => rfl

/-- Where no line divides by zero, a dialogue ends as its prompts do. -/
theorem problem_dialogue_of_not_dividesByZero {script : List Response}
    (h : ∀ text ∈ Dialogue.served script, ¬ c.DividesByZero text) :
    (c.dialogue script).problem = Dialogue.raised? script := by
  have hnone : (Dialogue.served script).findSome? c.refusal? = none :=
    List.findSome?_eq_none_iff.mpr fun text hm => refusal?_of_not_dividesByZero (h text hm)
  rw [problem_dialogue, hnone, Option.none_or]

/-- Where one does, the dialogue ends with the division, and not as its prompts would. -/
theorem problem_dialogue_of_dividesByZero {script : List Response} {text : String}
    (hm : text ∈ Dialogue.served script) (h : c.DividesByZero text) :
    (c.dialogue script).problem = some Fault.zeroScale.problem := by
  have hsome : ((Dialogue.served script).findSome? c.refusal?).isSome = true :=
    List.findSome?_isSome_iff.mpr ⟨text, hm, by rw [refusal?_of_dividesByZero h]; rfl⟩
  obtain ⟨p, hp⟩ := Option.isSome_iff_exists.mp hsome
  obtain ⟨first, _, hfirst⟩ := List.exists_of_findSome?_eq_some hp
  -- the first line without a reply may be another one, but the reason is the same
  have hp' : p = Fault.zeroScale.problem := by
    by_cases hzero : c.DividesByZero first
    · rw [refusal?_of_dividesByZero hzero] at hfirst
      exact (Option.some.inj hfirst).symm
    · rw [refusal?_of_not_dividesByZero hzero] at hfirst
      cases hfirst
  rw [problem_dialogue, hp, hp']
  rfl

/-- **What gets past the service.** A line leads to an answer or to a reason that lies in the line,
    and has a reply, exactly if it does not divide by zero. A dialogue in which no line does ends as
    its prompts do; otherwise it ends with the division. -/
theorem reply_iff_not_dividesByZero (c : Catalog) :
    (∀ line, (∀ f, c.answer line = .error f → f.problem.kind.isQuery = true) ↔
      ¬ c.DividesByZero line) ∧
    (∀ line, (∃ s, c.reply line = .ok s) ↔ ¬ c.DividesByZero line) ∧
    (∀ line, c.DividesByZero line → c.reply line = .error .zeroScale) ∧
    ∀ script,
      ((∀ text ∈ Dialogue.served script, ¬ c.DividesByZero text) →
        (c.dialogue script).problem = Dialogue.raised? script) ∧
      ((∃ text ∈ Dialogue.served script, c.DividesByZero text) →
        (c.dialogue script).problem = some Fault.zeroScale.problem) := by
  refine ⟨fun _ => isQuery_iff_not_dividesByZero, fun _ => exists_reply_iff, fun _ h => ?_,
    fun script => ⟨problem_dialogue_of_not_dividesByZero, fun ⟨_, hm, h⟩ => ?_⟩⟩
  · exact reply_of_zeroScale (answer_eq_zeroScale_iff.mpr h)
  · exact problem_dialogue_of_dividesByZero hm h

/-- A point, a length to which no size has been given, beside the meter. -/
theorem reply_iff_not_dividesByZero_point :
    let meter := Measure.length "meter" ["m", "meter", "meters"] 1.0
    let point := Measure.length "point" ["pt"] 0.0
    ∃ c, ofList? [meter, point] = .ok c ∧ c.DividesByZero "1 m to pt" ∧
      (c.dialogue [.line "1 pt to m", .line "1 pt to pt", .cancelled]).problem = none ∧
      (c.dialogue [.line "1 pt to m", .line "1 m to pt", .cancelled]).problem =
        some Fault.zeroScale.problem := by
  intro meter point
  let c : Catalog := ⟨[meter, point], by decide, by decide +kernel⟩
  obtain ⟨_, hreply, _, hdialogue⟩ := reply_iff_not_dividesByZero c
  have hz : c.DividesByZero "1 m to pt" := answer_eq_zeroScale_iff.mp (by decide +kernel)
  have hm : ¬ c.DividesByZero "1 pt to m" :=
    (hreply _).mp ⟨_, reply_of_answer (a := ⟨1.0, 0.0, "pt", "meters"⟩) (by decide +kernel)⟩
  have hp : ¬ c.DividesByZero "1 pt to pt" :=
    (hreply _).mp ⟨_, reply_of_answer (a := ⟨1.0, 1.0, "pt", "pt"⟩) (by decide +kernel)⟩
  refine ⟨c, ofList?_eq_ok_iff.mpr rfl, hz, (hdialogue _).1 ?_, (hdialogue _).2 ⟨_, ?_, hz⟩⟩
  · have hserved : Dialogue.served [.line "1 pt to m", .line "1 pt to pt", .cancelled] =
        ["1 pt to m", "1 pt to pt"] := by decide
    rw [hserved]
    exact List.forall_mem_cons.mpr ⟨hm, List.forall_mem_singleton.mpr hp⟩
  · decide

/-- Not every problem in an answer lies in the line: a list of measures is accepted whatever their
    scales are. -/
theorem exists_answer_zeroScale :
    ¬ ∀ ms c, ofList? ms = .ok c → ∀ line f, c.answer line = .error f →
      f.problem.kind.isQuery = true := by
  intro h
  let meter := Measure.length "meter" ["m", "meter", "meters"] 1.0
  let point := Measure.length "point" ["pt"] 0.0
  let c : Catalog := ⟨[meter, point], by decide, by decide +kernel⟩
  have hc : ofList? [meter, point] = .ok c := ofList?_eq_ok_iff.mpr rfl
  have hz : c.answer "1 m to pt" = .error .zeroScale := by decide +kernel
  exact absurd (h _ c hc _ _ hz) (by decide)

end Catalog

end Measures
