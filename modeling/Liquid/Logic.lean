import Liquid.Comparison
import Liquid.Context

/-!
# Truth of expressions

All conditions of an expression are interpreted, in order.  Then `and` binds within a group, and `or` begins a
new one; the expression is true when one of the groups is true throughout.  What is not `nil` or `false` is
true.

## Main definitions

* `Logic.verdict` — truth of the groups.
* `Logic.evaluate` — interpretation of conditions and the verdict on them, in any monad with errors.
* `Condition.interpret`, `Expression.evaluate` — both against a context.

## Main statements

* `Logic.evaluate_ok` — without an error, the verdict is on the values of all conditions.
* `Condition.interpret_eq` — a condition means what its three written parts mean.
-/

namespace Liquid

namespace Logic

/-- Truth of groups: `closed` tells whether an earlier group was true, and `current` whether the current group
has been true so far. -/
def verdictFrom (closed current : Bool) : List (Connective × Bool) → Bool
  | [] => closed || current
  | (.and, b) :: rest => verdictFrom closed (current && b) rest
  | (.or, b) :: rest => verdictFrom (closed || current) b rest

/-- Truth of conditions, each with the connective before it. -/
def verdict (conditions : List (Connective × Bool)) : Bool := verdictFrom false true conditions

/-- Conditions interpreted in order, and the verdict on them.  There must be a condition, and a connective for
each. -/
def evaluate {m : Type → Type} [Monad m] [MonadExceptOf Error m] {α : Type} (interpret : α → m Value)
    (conditions : List α) (connectives : List Connective) : m Bool := do
  if conditions.isEmpty || conditions.length != connectives.length then
    throw (Error.mismatchedConditions conditions.length connectives.length)
  else
    let values ← conditions.mapM interpret
    return verdict (connectives.zip (values.map Value.isTruthy))

/-- Without an error, the verdict is on the values of all conditions. -/
theorem evaluate_ok {α : Type} {interpret : α → Except Error Value} {conditions : List α}
    {connectives : List Connective} {values : List Value} (hne : conditions ≠ [])
    (hlen : conditions.length = connectives.length) (hvalues : conditions.mapM interpret = .ok values) :
    evaluate interpret conditions connectives = .ok (verdict (connectives.zip (values.map Value.isTruthy))) := by
  simp [evaluate, hne, hlen, hvalues, bind, Except.bind, pure, Except.pure]

end Logic

namespace Context

/-- The value of a condition given by its written parts.  Without an operator it is the value of the left
operand. -/
def interpret (c : Context) (left : Option Text) (operator right : Option Text) : Except Error Value :=
  match operator with
  | none => c.resolveOptional left
  | some operator => do
    let v ← c.resolveOptional left
    let w ← c.resolveOptional right
    match Comparator.ofText? operator with
    | some comparator => return .bool (← comparator.holds v w)
    | none => .error (.malformed ⟨.unknownOperator operator, none, none⟩)

end Context

namespace Condition

/-- The value of a condition. -/
def interpret (ctx : Context) (c : Condition) : Except Error Value :=
  match c.comparison with
  | none => ctx.resolve c.left
  | some (comparator, right) => do
    let v ← ctx.resolve c.left
    let w ← ctx.resolve right
    return .bool (← comparator.holds v w)

/-- The operator of a condition as it is written. -/
def operatorText (c : Condition) : Option Text := c.comparison.map (·.1.text)

/-- The right operand of a condition as it is written. -/
def rightText (c : Condition) : Option Text := c.comparison.map Prod.snd

/-- A condition means what its written parts mean. -/
theorem interpret_eq (ctx : Context) (c : Condition) :
    c.interpret ctx = ctx.interpret (some c.left) c.operatorText c.rightText := by
  obtain ⟨left, _ | ⟨comparator, right⟩⟩ := c
  · rfl
  · simp [interpret, Context.interpret, operatorText, rightText, Context.resolveOptional]

end Condition

/-- Whether an expression is true. -/
def Expression.evaluate (ctx : Context) (e : Expression) : Except Error Bool :=
  Logic.evaluate (Condition.interpret ctx) e.conditions e.connectives

end Liquid
