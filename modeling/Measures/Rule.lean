import Measures.Fault
import Measures.Formula

/-!
# How one measure converts into another

`Rule.between?` chooses the rule from the two measures alone: nothing happens between measures of
one key; linear measures scale through their base; all others need a formula. `Rule.eval` computes
the value, over any type with decimal literals and the four operations, and `Rule.value?` computes it
on doubles. That fails only where it would divide by a scale of zero.
-/

namespace Measures

/-- How an amount of one measure becomes an amount of another. -/
inductive Rule where
  /-- The amount stays as it is. -/
  | same
  /-- The amount is multiplied by the scale of the source and divided by that of the target. -/
  | scaling
  /-- The amount goes through a formula. -/
  | formula (f : Formula)
deriving DecidableEq

/-- An amount of units of size `source` in units of size `target`. -/
def scaled {α : Type} [Mul α] [Div α] (amount source target : α) : α := amount * source / target

namespace Rule

/-- The rule for measures that are not linear. -/
def unscaled? (source target : Measure) : Except Fault Rule :=
  if source.key = target.key then .ok same
  else match Formula.between? source.key target.key with
    | some f => .ok (formula f)
    | none => .error (.noFormula source target)

/-- The rule that leads from one measure to another. -/
def between? (source target : Measure) : Except Fault Rule :=
  if source.key = target.key then .ok same
  else if source.category.isLinear then .ok scaling
  else unscaled? source target

/-- The value of an amount, given the scales of the two measures. -/
def eval {α : Type} [OfScientific α] [Add α] [Sub α] [Mul α] [Div α]
    (amount source target : α) : Rule → α
  | same => amount
  | scaling => scaled amount source target
  | formula f => f.apply amount

/-- The value that an amount of `source` has in `target`. -/
def value? (amount : Float) (source target : Measure) (r : Rule) : Except Fault Float :=
  if r = scaling ∧ target.scale == 0.0 then .error .zeroScale
  else .ok (r.eval amount source.scale target.scale)

end Rule

end Measures
