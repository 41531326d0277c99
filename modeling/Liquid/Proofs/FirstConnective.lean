import Liquid.Proofs.JoinedTruth

/-!
# The connective before the first condition

Each condition stands behind a connective, the first one as well, although nothing is before it that it could be joined
to.  What is read from a text has `and` there.  Where `or` stands there instead, it closes a group before the first
condition.  Nothing is in this group, so that it is true throughout, and with it the verdict is true, whatever the
conditions are.  They are interpreted all the same, and a failure is the same failure.

## Main definitions

* `Logic.evaluateBehind` — conditions evaluated with a connective before the first of them, and what is interpreted.

## Main statements

* `Logic.verdict_leading_or` — a leading `or` makes the verdict true.
* `Logic.evaluate_leading_or` — it changes the answer of an evaluation and no effect of it, in any monad.
* `Logic.evaluate_first_connective` — two first connectives side by side.
* `Logic.evaluate_false_behind_or` — a false condition behind `or`.
-/

namespace Liquid

namespace Logic

/-- **A leading `or` makes the verdict true**: it closes a group in which nothing stands. -/
theorem verdict_leading_or (b : Bool) (conditions : List (Connective × Bool)) :
    verdict ((.or, b) :: conditions) = true := by
  rw [verdict, verdictFrom, verdictFrom_eq_or]
  rfl

/-- **A leading `or` changes the answer of an evaluation and none of its effects.**  The evaluation is the same as
behind `and`, and its answer, if there is one, is replaced. -/
theorem evaluate_leading_or {m : Type → Type} [Monad m] [LawfulMonad m] [MonadExceptOf Error m] {α : Type}
    (interpret : α → m Value) {conditions : List α} {rest : List Connective}
    (hlen : conditions.length = rest.length + 1) :
    evaluate interpret conditions (.or :: rest) = (fun _ => true) <$> evaluate interpret conditions (.and :: rest) := by
  cases conditions with
  | nil => simp at hlen
  | cons a conditions =>
      have hfits : ∀ first : Connective,
          ¬ ((a :: conditions).isEmpty || (a :: conditions).length != (first :: rest).length) = true := by
        intro first
        simpa using hlen
      rw [evaluate, evaluate, if_neg (hfits .or), if_neg (hfits .and), List.mapM_cons]
      -- The first value is at hand behind the first bind, and the list of the others behind the second.
      simp only [bind_assoc, pure_bind, map_bind, map_pure]
      refine bind_congr fun v => bind_congr fun vs => ?_
      rw [List.map_cons, List.zip_cons_cons, verdict_leading_or]

section

variable {α : Type}

/-- Conditions evaluated with a connective before the first of them and connectives before the others, and what is
interpreted. -/
def evaluateBehind (interpret : α → Except Error Value) (conditions : List α) (rest : List Connective)
    (first : Connective) : Except Error Bool × List α :=
  evaluate (recorded interpret) conditions (first :: rest) []

variable (interpret : α → Except Error Value) (conditions : List α) (rest : List Connective)

/-- Behind `or` the same is interpreted as behind `and`, and the answer is replaced. -/
theorem evaluateBehind_or :
    evaluateBehind interpret conditions rest .or =
      ((evaluateBehind interpret conditions rest .and).1.map fun _ => true,
        (evaluateBehind interpret conditions rest .and).2) := by
  unfold evaluateBehind
  by_cases hlen : conditions.length = rest.length + 1
  · rw [evaluate_leading_or (recorded interpret) hlen]
    exact Outcome.bind_pure_apply _ (fun _ => true) []
  · -- Too few or too many conditions are refused before anything is interpreted.
    have hrefused : ∀ first : Connective,
        (conditions.isEmpty || conditions.length != (first :: rest).length) = true := by
      intro first
      simp [hlen]
    rw [evaluate, evaluate, if_pos (hrefused .or), if_pos (hrefused .and)]
    rfl

/-- **Two first connectives side by side.**  Whichever connective stands before the first condition, the same conditions
are interpreted in the same order.  The outcome behind `or` is that behind `and` with its answer replaced by true, so
that the outcomes are the same unless the connectives differ and the conditions are false behind `and`. -/
theorem evaluate_first_connective (first second : Connective) :
    let run := evaluateBehind interpret conditions rest
    (run first).1 = evaluate interpret conditions (first :: rest) ∧
    (run first).2 = (run second).2 ∧
    (run .or).1 = (run .and).1.map (fun _ => true) ∧
    ((run first).1 = (run second).1 ↔ first = second ∨ (run .and).1 ≠ .ok false) := by
  intro run
  have hor : run .or = ((run .and).1.map fun _ => true, (run .and).2) := evaluateBehind_or interpret conditions rest
  have hsame : (run .or).1 = (run .and).1 ↔ (run .and).1 ≠ .ok false := by
    rw [hor]
    cases (run .and).1 with
    | error e => simp [Except.map]
    | ok b => cases b <;> simp [Except.map]
  refine ⟨fst_evaluate_recorded [], ?_, by rw [hor], ?_⟩
  · cases first <;> cases second <;> simp only [hor]
  · cases first <;> cases second
    · simp
    · rw [eq_comm, hsame]
      simp
    · rw [hsame]
      simp
    · simp

/-- A false condition is false behind `and`, and behind `or` it is true. -/
theorem evaluate_false_behind_or :
    let interpret : Bool → Except Error Value := fun b => .ok (.bool b)
    evaluateBehind interpret [false] [] .and = (.ok false, [false]) ∧
      evaluateBehind interpret [false] [] .or = (.ok true, [false]) := ⟨rfl, rfl⟩

end

end Logic
end Liquid
