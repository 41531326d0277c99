import Liquid.Proofs.Logic
import Liquid.Proofs.Markup.Joining

/-!
# The truth of joined expressions

With ` or ` between their texts, two expressions are one that is true when either is.  With ` and ` between them the
last group of the first and the first group of the second become one group, so that the joined expression is true
when both are only if neither is made of several groups.  In both cases the conditions of the first expression are
interpreted before those of the second, and nothing behind the first failure.

## Main definitions

* `Expression.TakesTurns` — an expression that is evaluated as one expression after another.

## Main statements

* `Logic.verdict_append_or` — the groups of the first are closed where the second begins.
* `Logic.verdict_append_and` — conditions without `or` are a single group.
* `Expression.evaluate_between` — the truth of two texts with a connective between them.
-/

namespace Liquid

namespace Logic

/-! ## Verdicts on joined conditions -/

theorem verdictFrom_append (closed current : Bool) (xs ys : List (Connective × Bool)) (b : Bool) :
    verdictFrom closed current (xs ++ (.or, b) :: ys) = verdictFrom (verdictFrom closed current xs) b ys := by
  induction xs generalizing closed current with
  | nil => rfl
  | cons x xs ih =>
      obtain ⟨connective, a⟩ := x
      cases connective with
      | and => exact ih closed (current && a)
      | or => exact ih (closed || current) a

theorem verdictFrom_eq_or (closed current : Bool) (xs : List (Connective × Bool)) :
    verdictFrom closed current xs = (closed || verdictFrom false current xs) := by
  induction xs generalizing closed current with
  | nil => simp [verdictFrom]
  | cons x xs ih =>
      obtain ⟨connective, a⟩ := x
      cases connective with
      | and => exact ih closed (current && a)
      | or =>
          change verdictFrom (closed || current) a xs = (closed || verdictFrom (false || current) a xs)
          rw [ih (closed || current) a, ih (false || current) a, Bool.false_or, Bool.or_assoc]

/-- **The groups of the first conditions are closed where those of the second begin.** -/
theorem verdict_append_or (xs ys : List (Connective × Bool)) (b : Bool) :
    verdict (xs ++ (.or, b) :: ys) = (verdict xs || verdict ((.and, b) :: ys)) := by
  rw [verdict, verdictFrom_append, verdictFrom_eq_or]
  rfl

theorem verdictFrom_of_forall_and (current : Bool) {xs : List (Connective × Bool)} (h : ∀ x ∈ xs, x.1 = .and) :
    verdictFrom false current xs = (current && xs.all Prod.snd) := by
  induction xs generalizing current with
  | nil => simp [verdictFrom]
  | cons x xs ih =>
      obtain ⟨connective, a⟩ := x
      rw [List.forall_mem_cons] at h
      obtain ⟨rfl, hrest⟩ := h
      change verdictFrom false (current && a) xs = _
      rw [ih (current && a) hrest, List.all_cons, Bool.and_assoc]

/-- **Conditions without `or` are a single group.** -/
theorem verdict_append_and {xs ys : List (Connective × Bool)} (hxs : ∀ x ∈ xs, x.1 = .and)
    (hys : ∀ y ∈ ys, y.1 = .and) : verdict (xs ++ ys) = (verdict xs && verdict ys) := by
  have hboth : ∀ x ∈ xs ++ ys, x.1 = .and := List.forall_mem_append.2 ⟨hxs, hys⟩
  simp only [verdict, verdictFrom_of_forall_and true hboth, verdictFrom_of_forall_and true hxs,
    verdictFrom_of_forall_and true hys, List.all_append, Bool.true_and]

end Logic

namespace Expression

/-! ## One expression after another -/

/-- `e` is evaluated as `first` and then `second`, and `op` makes its truth of theirs.  A failure of the first
expression leaves the second alone; what is interpreted is recorded in order. -/
structure TakesTurns (op : Bool → Bool → Bool) (first second e : Expression) (ctx : Context) : Prop where
  outcome : (e.evaluateRecorded ctx).1 = e.evaluate ctx
  both : ∀ a b, first.evaluate ctx = .ok a → second.evaluate ctx = .ok b →
    e.evaluateRecorded ctx = (.ok (op a b), first.conditions ++ second.conditions)
  first_error : ∀ failure, first.evaluate ctx = .error failure →
    e.evaluateRecorded ctx = (.error failure, (first.evaluateRecorded ctx).2)
  second_error : ∀ a failure, first.evaluate ctx = .ok a → second.evaluate ctx = .error failure →
    e.evaluateRecorded ctx = (.error failure, first.conditions ++ (second.evaluateRecorded ctx).2)

theorem evaluate_eq_fst (e : Expression) (ctx : Context) : e.evaluate ctx = (e.evaluateRecorded ctx).1 :=
  (Logic.fst_evaluate_recorded []).symm

/-- Where an expression fails: a condition that fails, behind conditions that do not. -/
structure FailsAt (ctx : Context) (e : Expression) (before : List Condition) (c : Condition) (after : List Condition)
    (failure : Error) : Prop where
  conditions : e.conditions = before ++ c :: after
  values : ∀ b ∈ before, ∃ v, b.interpret ctx = .ok v
  failure : c.interpret ctx = .error failure

section

variable {tokens : List Token} {e : Expression} {ctx : Context}

theorem evaluateRecorded_error (h : Reads tokens e) {before after : List Condition} {c : Condition}
    {failure : Error} (hfails : FailsAt ctx e before c after failure) :
    e.evaluateRecorded ctx = (.error failure, before ++ [c]) := by
  exact Logic.evaluate_recorded_error h.conditions_ne_nil h.length_eq hfails.conditions hfails.values hfails.failure []

/-- All conditions of an expression have a value, or there is a first one that fails. -/
theorem values_or_failsAt (e : Expression) (ctx : Context) :
    (∀ c ∈ e.conditions, ∃ v, c.interpret ctx = .ok v) ∨
      ∃ before c after failure, FailsAt ctx e before c after failure := by
  rcases Outcome.forall_or_first_error (Condition.interpret ctx) e.conditions with
    hall | ⟨before, c, after, failure, hconditions, hbefore, hc⟩
  · exact .inl hall
  · exact .inr ⟨before, c, after, failure, hconditions, hbefore, hc⟩

end

section

variable {op : Bool → Bool → Bool} {first second e : Expression} {ctx : Context}

theorem TakesTurns.of_values {a b : Bool} (h₁ : first.evaluateRecorded ctx = (.ok a, first.conditions))
    (h₂ : second.evaluateRecorded ctx = (.ok b, second.conditions))
    (h : e.evaluateRecorded ctx = (.ok (op a b), first.conditions ++ second.conditions)) :
    TakesTurns op first second e ctx := by
  refine ⟨(evaluate_eq_fst e ctx).symm, ?_, ?_, ?_⟩
  · intro a' b' ha hb
    simp only [evaluate_eq_fst, h₁, h₂, Except.ok.injEq] at ha hb
    rw [h, ha, hb]
  · intro failure hfailure
    simp [evaluate_eq_fst, h₁] at hfailure
  · intro a' failure _ hfailure
    simp [evaluate_eq_fst, h₂] at hfailure

theorem TakesTurns.of_second_error {a : Bool} {failure : Error} {interpreted : List Condition}
    (h₁ : first.evaluateRecorded ctx = (.ok a, first.conditions))
    (h₂ : second.evaluateRecorded ctx = (.error failure, interpreted))
    (h : e.evaluateRecorded ctx = (.error failure, first.conditions ++ interpreted)) :
    TakesTurns op first second e ctx := by
  refine ⟨(evaluate_eq_fst e ctx).symm, ?_, ?_, ?_⟩
  · intro a' b' _ hb
    simp [evaluate_eq_fst, h₂] at hb
  · intro failure' hfailure
    simp [evaluate_eq_fst, h₁] at hfailure
  · intro a' failure' _ hfailure
    simp only [evaluate_eq_fst, h₂, Except.error.injEq] at hfailure
    rw [h, h₂, hfailure]

theorem TakesTurns.of_first_error {failure : Error} {interpreted : List Condition}
    (h₁ : first.evaluateRecorded ctx = (.error failure, interpreted))
    (h : e.evaluateRecorded ctx = (.error failure, interpreted)) : TakesTurns op first second e ctx := by
  refine ⟨(evaluate_eq_fst e ctx).symm, ?_, ?_, ?_⟩
  · intro a b ha _
    simp [evaluate_eq_fst, h₁] at ha
  · intro failure' hfailure
    simp only [evaluate_eq_fst, h₁, Except.error.injEq] at hfailure
    rw [h, h₁, hfailure]
  · intro a failure' ha _
    simp [evaluate_eq_fst, h₁] at ha

end

/-- **Joined expressions take turns**, whatever their verdicts make together. -/
theorem takesTurns_joined {ts us vs : List Token} {e₁ e₂ : Expression} {c : Connective} {ctx : Context}
    {op : Bool → Bool → Bool} (h₁ : Reads ts e₁) (h₂ : Reads us e₂) (h : Reads vs (joined c e₁ e₂))
    (hop : (joined c e₁ e₂).verdict ctx = op (e₁.verdict ctx) (e₂.verdict ctx)) :
    TakesTurns op e₁ e₂ (joined c e₁ e₂) ctx := by
  rcases values_or_failsAt e₁ ctx with hall₁ | ⟨before, d, after, failure, hfails⟩
  · have hrun₁ := evaluateRecorded_verdict h₁ hall₁
    rcases values_or_failsAt e₂ ctx with hall₂ | ⟨before, d, after, failure, hfails⟩
    · have hrun := evaluateRecorded_verdict h (List.forall_mem_append.2 ⟨hall₁, hall₂⟩)
      rw [hop] at hrun
      exact .of_values hrun₁ (evaluateRecorded_verdict h₂ hall₂) hrun
    · have hfails' : FailsAt ctx (joined c e₁ e₂) (e₁.conditions ++ before) d after failure := by
        refine ⟨?_, List.forall_mem_append.2 ⟨hall₁, hfails.values⟩, hfails.failure⟩
        rw [joined, hfails.conditions, List.append_assoc]
      have hrun := evaluateRecorded_error h hfails'
      rw [List.append_assoc] at hrun
      exact .of_second_error hrun₁ (evaluateRecorded_error h₂ hfails) hrun
  · have hfails' : FailsAt ctx (joined c e₁ e₂) before d (after ++ e₂.conditions) failure := by
      refine ⟨?_, hfails.values, hfails.failure⟩
      rw [joined, hfails.conditions, List.append_assoc, List.cons_append]
    exact .of_first_error (evaluateRecorded_error h₁ hfails) (evaluateRecorded_error h hfails')

/-! ## The verdict on joined expressions -/

section

variable {ts us : List Token} {e₁ e₂ : Expression}

/-- The connectives stay with their conditions, and the written one stands before the second expression. -/
theorem verdict_joined (h₁ : Reads ts e₁) (c : Connective) (ctx : Context) (d : Condition) (conditions : List Condition)
    (connectives : List Connective) :
    (joined c e₁ ⟨d :: conditions, .and :: connectives⟩).verdict ctx =
      Logic.verdict (e₁.connectives.zip (e₁.conditions.map (truth ctx)) ++
        (c, truth ctx d) :: connectives.zip (conditions.map (truth ctx))) := by
  have hlength : e₁.connectives.length = (e₁.conditions.map (truth ctx)).length := by
    rw [List.length_map, h₁.length_eq]
  rw [verdict, joined, List.map_append, List.zip_append hlength]
  rfl

theorem verdict_joined_or (h₁ : Reads ts e₁) (h₂ : Reads us e₂) (ctx : Context) :
    (joined .or e₁ e₂).verdict ctx = (e₁.verdict ctx || e₂.verdict ctx) := by
  obtain ⟨d, conditions, connectives, rfl, -⟩ := h₂.shape
  rw [verdict_joined h₁, Logic.verdict_append_or]
  rfl

theorem forall_zip_and {ks : List Connective} (h : Connective.or ∉ ks) (bs : List Bool) :
    ∀ x ∈ ks.zip bs, x.1 = .and := by
  intro x hx
  have hmem : x.1 ∈ ks := (List.of_mem_zip hx).1
  cases hk : x.1 with
  | and => rfl
  | or => exact absurd (hk ▸ hmem) h

theorem verdict_joined_and (h₁ : Reads ts e₁) (h₂ : Reads us e₂) (hor₁ : .or ∉ e₁.connectives)
    (hor₂ : .or ∉ e₂.connectives) (ctx : Context) :
    (joined .and e₁ e₂).verdict ctx = (e₁.verdict ctx && e₂.verdict ctx) := by
  obtain ⟨d, conditions, connectives, rfl, -⟩ := h₂.shape
  rw [verdict_joined h₁]
  exact Logic.verdict_append_and (forall_zip_and hor₁ _)
    (forall_zip_and hor₂ (truth ctx d :: conditions.map (truth ctx)))

end

/-- **The truth of two texts with a connective between them.**  With `or` between them it is that of either
expression.  With `and` between them, and no `or` in them, it is that of both.  The conditions of the second
expression are interpreted behind those of the first; the failure of the first comes first. -/
theorem evaluate_between {tag t₁ t₂ : Text} {e₁ e₂ : Expression} (h₁ : parse tag t₁ = .ok e₁)
    (h₂ : parse tag t₂ = .ok e₂) :
    (∃ e, parse tag (t₁ ++ " or ".toList ++ t₂) = .ok e ∧ ∀ ctx, TakesTurns (· || ·) e₁ e₂ e ctx) ∧
    (.or ∉ e₁.connectives → .or ∉ e₂.connectives →
      ∃ e, parse tag (t₁ ++ " and ".toList ++ t₂) = .ok e ∧ ∀ ctx, TakesTurns (· && ·) e₁ e₂ e ctx) := by
  obtain ⟨ts, -, hreads₁⟩ := parse_eq_ok_iff.1 h₁
  obtain ⟨us, -, hreads₂⟩ := parse_eq_ok_iff.1 h₂
  constructor
  · have hparse := parse_between h₁ h₂ .or
    obtain ⟨vs, -, hreads⟩ := parse_eq_ok_iff.1 hparse
    refine ⟨_, hparse, fun ctx => ?_⟩
    exact takesTurns_joined hreads₁ hreads₂ hreads (verdict_joined_or hreads₁ hreads₂ ctx)
  · intro hor₁ hor₂
    have hparse := parse_between h₁ h₂ .and
    obtain ⟨vs, -, hreads⟩ := parse_eq_ok_iff.1 hparse
    refine ⟨_, hparse, fun ctx => ?_⟩
    exact takesTurns_joined hreads₁ hreads₂ hreads (verdict_joined_and hreads₁ hreads₂ hor₁ hor₂ ctx)

/-- `a or b` and `a and b` where `a` is false and `b` is not: both conditions are interpreted in turn. -/
theorem evaluate_between_a_b :
    let e₁ : Expression := ⟨[⟨['a'], none⟩], [.and]⟩
    let e₂ : Expression := ⟨[⟨['b'], none⟩], [.and]⟩
    let ctx : Context := ⟨.single [(['a'], .bool false), (['b'], .int 0)], .empty, {}⟩
    parse "if".toList ['a'] = .ok e₁ ∧ parse "if".toList ['b'] = .ok e₂ ∧
      (∃ e, parse "if".toList "a or b".toList = .ok e ∧
        e.evaluateRecorded ctx = (.ok true, [⟨['a'], none⟩, ⟨['b'], none⟩])) ∧
      ∃ e, parse "if".toList "a and b".toList = .ok e ∧
        e.evaluateRecorded ctx = (.ok false, [⟨['a'], none⟩, ⟨['b'], none⟩]) := by
  intro e₁ e₂ ctx
  have h₁ : parse "if".toList ['a'] = .ok e₁ := Outcome.eq_ok_of_toOption (by decide +kernel)
  have h₂ : parse "if".toList ['b'] = .ok e₂ := Outcome.eq_ok_of_toOption (by decide +kernel)
  have ha : e₁.evaluate ctx = .ok false := Outcome.eq_ok_of_toOption (by decide +kernel)
  have hb : e₂.evaluate ctx = .ok true := Outcome.eq_ok_of_toOption (by decide +kernel)
  obtain ⟨⟨either, hor, hturns⟩, hboth⟩ := evaluate_between h₁ h₂
  obtain ⟨both, hand, hturns'⟩ := hboth (by decide) (by decide)
  exact ⟨h₁, h₂, ⟨either, hor, (hturns ctx).both false true ha hb⟩, both, hand, (hturns' ctx).both false true ha hb⟩

end Expression
end Liquid
