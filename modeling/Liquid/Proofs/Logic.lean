import Liquid.Logic
import Liquid.Proofs.Markup.Expression
import Mathlib.Data.List.SplitBy

/-!
# What the truth of an expression is

The conditions of an expression form groups, the maximal runs joined by `and`.  The expression is true when all
conditions of some group are.  The verdict keeps two truth values, one for the groups that are closed and one
for the group that is open; the groups of the conditions read so far are the invariant behind them.

Conditions are interpreted in order, each once, up to the first that fails.

## Main definitions

* `Expression.groups` — the maximal runs of conditions joined by `and`.
* `Logic.recorded` — an interpretation that records what it interprets.

## Main statements

* `Logic.verdict_eq_any_groups` — the verdict is that some group is true throughout.
* `Logic.evaluate_recorded_ok`, `Logic.evaluate_recorded_error` — what is interpreted, and how it ends.
* `Expression.evaluate_iff_groups` — the meaning of an expression that was read from a text.
-/

namespace Liquid

namespace Logic

/-! ## Groups -/

/-- A list is cut between two neighbours exactly when they are not related. -/
theorem splitBy_cons_cons {α : Type} (r : α → α → Bool) (a b : α) (l : List α) :
    (a :: b :: l).splitBy r =
      if r a b then ((b :: l).splitBy r).modifyHead (a :: ·) else [a] :: (b :: l).splitBy r := by
  by_cases hr : r a b = true
  · rw [if_pos hr]
    obtain ⟨group, others, hsplit⟩ := List.exists_cons_of_ne_nil (List.splitBy_ne_nil.2 (List.cons_ne_nil b l))
    obtain ⟨hflat, hnil, hchain, hcut⟩ := List.splitBy_eq_iff.1 hsplit
    obtain ⟨b', group, rfl⟩ : ∃ b' group', group = b' :: group' := by
      refine List.exists_cons_of_ne_nil ?_
      rintro rfl
      exact hnil List.mem_cons_self
    have hb : b' = b := by
      simp only [List.flatten_cons, List.cons_append, List.cons.injEq] at hflat
      exact hflat.1.symm
    subst hb
    rw [hsplit, List.modifyHead_cons]
    refine List.splitBy_eq_iff.2 ⟨?_, ?_, ?_, ?_⟩
    · rw [hflat]
      rfl
    · simpa using hnil
    · rw [List.forall_mem_cons] at hchain ⊢
      exact ⟨List.isChain_cons_cons.2 ⟨hr, hchain.1⟩, hchain.2⟩
    · rw [List.isChain_cons] at hcut ⊢
      refine ⟨?_, hcut.2⟩
      intro next hnext
      obtain ⟨_, hne, hlast⟩ := hcut.1 next hnext
      exact ⟨List.cons_ne_nil _ _, hne, hlast⟩
  · rw [if_neg hr]
    refine List.splitBy_append_cons (l := [a]) l ?_
    simpa using hr

/-- The maximal runs of conditions joined by `and`: each condition stands behind its connective. -/
def groups {α : Type} (conditions : List (Connective × α)) : List (List α) :=
  (conditions.splitBy fun _ next => next.1 == .and).map (·.map Prod.snd)

theorem groups_singleton {α : Type} (c : Connective × α) : groups [c] = [[c.2]] := rfl

theorem groups_cons_and {α : Type} (c : Connective × α) (a : α) (rest : List (Connective × α)) :
    groups (c :: (.and, a) :: rest) = (groups ((.and, a) :: rest)).modifyHead (c.2 :: ·) := by
  rw [groups, splitBy_cons_cons, if_pos (by rfl), groups]
  cases ((.and, a) :: rest).splitBy fun _ next => next.1 == .and <;> rfl

theorem groups_cons_or {α : Type} (c : Connective × α) (a : α) (rest : List (Connective × α)) :
    groups (c :: (.or, a) :: rest) = [c.2] :: groups ((.or, a) :: rest) := by
  rw [groups, splitBy_cons_cons, if_neg (by simp), groups]
  rfl

/-- The invariant of the verdict: `closed` stands for the groups before that of `c`, and `current` for what comes
before `c` in its group. -/
theorem verdictFrom_eq_groups {α : Type} (truth : α → Bool) (c : Connective × α) (rest : List (Connective × α)) :
    ∃ group others, groups (c :: rest) = group :: others ∧ ∀ closed current,
      verdictFrom closed (current && truth c.2) (rest.map fun p => (p.1, truth p.2)) =
        (closed || current && group.all truth || others.any fun g => g.all truth) := by
  induction rest generalizing c with
  | nil => exact ⟨[c.2], [], groups_singleton c, by simp [verdictFrom]⟩
  | cons next rest ih =>
      obtain ⟨connective, a⟩ := next
      obtain ⟨group, others, hgroups, hverdict⟩ := ih (connective, a)
      cases connective with
      | and =>
          refine ⟨c.2 :: group, others, ?_, ?_⟩
          · rw [groups_cons_and, hgroups]
            rfl
          · intro closed current
            rw [List.map_cons, verdictFrom, hverdict closed (current && truth c.2), List.all_cons, Bool.and_assoc]
      | or =>
          refine ⟨[c.2], group :: others, ?_, ?_⟩
          · rw [groups_cons_or, hgroups]
          · intro closed current
            have hrest := hverdict (closed || current && truth c.2) true
            rw [Bool.true_and, Bool.true_and] at hrest
            rw [List.map_cons, verdictFrom, hrest]
            simp [Bool.or_assoc]

/-- **The verdict is that some group is true throughout.** -/
theorem verdict_eq_any_groups {α : Type} (truth : α → Bool) (a : α) (rest : List (Connective × α)) :
    verdict (((.and, a) :: rest).map fun p => (p.1, truth p.2)) =
      (groups ((.and, a) :: rest)).any fun group => group.all truth := by
  obtain ⟨group, others, hgroups, hverdict⟩ := verdictFrom_eq_groups truth (.and, a) rest
  rw [hgroups, verdict, List.map_cons, verdictFrom, hverdict false true]
  simp

/-! ## The order of interpretation -/

/-- An interpretation that records what it interprets, whether it succeeds or not. -/
def recorded {α : Type} (interpret : α → Except Error Value) (a : α) : ExceptT Error (StateM (List α)) Value :=
  fun seen => (interpret a, seen ++ [a])

section

variable {α : Type} {interpret : α → Except Error Value}

theorem recorded_apply {a : α} {outcome : Except Error Value} (h : interpret a = outcome) (seen : List α) :
    recorded interpret a seen = (outcome, seen ++ [a]) := by
  rw [recorded, h]

/-- Without a failure everything is interpreted, in order and once. -/
theorem mapM_recorded_ok {conditions : List α} {values : List Value}
    (h : conditions.mapM interpret = .ok values) (seen : List α) :
    conditions.mapM (recorded interpret) seen = (.ok values, seen ++ conditions) := by
  induction conditions generalizing values seen with
  | nil =>
      simp only [List.mapM_nil, pure, Except.pure, Except.ok.injEq] at h
      subst h
      rw [List.mapM_nil, List.append_nil]
      rfl
  | cons a rest ih =>
      rw [List.mapM_cons] at h
      obtain ⟨v, hv, h⟩ := Outcome.bind_eq_ok_iff.1 h
      obtain ⟨vs, hvs, h⟩ := Outcome.bind_eq_ok_iff.1 h
      simp only [pure, Except.pure, Except.ok.injEq] at h
      subst h
      rw [List.mapM_cons, Outcome.bind_apply_ok (recorded_apply hv seen), Outcome.bind_apply_ok (ih hvs _),
        List.append_assoc]
      rfl

/-- A failure is the last thing that is interpreted. -/
theorem mapM_recorded_error {before after : List α} {a : α} {failure : Error}
    (hbefore : ∀ b ∈ before, ∃ v, interpret b = .ok v) (ha : interpret a = .error failure) (seen : List α) :
    (before ++ a :: after).mapM (recorded interpret) seen = (.error failure, seen ++ (before ++ [a])) := by
  induction before generalizing seen with
  | nil =>
      rw [List.nil_append, List.mapM_cons, Outcome.bind_apply_error (recorded_apply ha seen)]
      rfl
  | cons b before ih =>
      rw [List.forall_mem_cons] at hbefore
      obtain ⟨v, hv⟩ := hbefore.1
      rw [List.cons_append, List.mapM_cons, Outcome.bind_apply_ok (recorded_apply hv seen),
        Outcome.bind_apply_error (ih hbefore.2 _), List.append_assoc]
      rfl

/-- Recording changes nothing about the outcome. -/
theorem fst_mapM_recorded (conditions seen : List α) :
    (conditions.mapM (recorded interpret) seen).1 = conditions.mapM interpret := by
  induction conditions generalizing seen with
  | nil => rfl
  | cons a rest ih =>
      rw [List.mapM_cons, List.mapM_cons]
      exact Outcome.fst_bind_apply rfl fun v seen' => Outcome.fst_bind_apply (ih seen') fun vs _ => rfl

section

variable {conditions : List α} {connectives : List Connective}

theorem fst_evaluate_recorded (seen : List α) :
    (evaluate (recorded interpret) conditions connectives seen).1 = evaluate interpret conditions connectives := by
  unfold evaluate
  split
  · rfl
  · exact Outcome.fst_bind_apply (fst_mapM_recorded conditions seen) fun values _ => rfl

variable (hne : conditions ≠ []) (hlen : conditions.length = connectives.length)

include hne hlen

theorem evaluate_recorded_ok {values : List Value} (hvalues : conditions.mapM interpret = .ok values) (seen : List α) :
    evaluate (recorded interpret) conditions connectives seen =
      (.ok (verdict (connectives.zip (values.map Value.isTruthy))), seen ++ conditions) := by
  rw [evaluate, if_neg (by simp [hne, hlen]), Outcome.bind_apply_ok (mapM_recorded_ok hvalues seen)]
  rfl

theorem evaluate_recorded_error {before after : List α} {a : α} {failure : Error}
    (hconditions : conditions = before ++ a :: after) (hbefore : ∀ b ∈ before, ∃ v, interpret b = .ok v)
    (ha : interpret a = .error failure) (seen : List α) :
    evaluate (recorded interpret) conditions connectives seen = (.error failure, seen ++ (before ++ [a])) := by
  subst hconditions
  rw [evaluate, if_neg (by simp [hlen]), Outcome.bind_apply_error (mapM_recorded_error hbefore ha seen)]

end

end

end Logic

namespace Expression

/-! ## Expressions that were read -/

/-- The maximal runs of conditions joined by `and`. -/
def groups (e : Expression) : List (List Condition) := Logic.groups (e.connectives.zip e.conditions)

/-- The truth of an expression, and the conditions that are interpreted for it. -/
def evaluateRecorded (ctx : Context) (e : Expression) : Except Error Bool × List Condition :=
  Logic.evaluate (Logic.recorded (Condition.interpret ctx)) e.conditions e.connectives []

/-- A condition whose value is neither `nil` nor `false`. -/
def IsTrue (ctx : Context) (c : Condition) : Prop :=
  ∃ v, c.interpret ctx = .ok v ∧ v ≠ .nil ∧ v ≠ .bool false

/-- The truth of a condition as it counts for the verdict. -/
def truth (ctx : Context) (c : Condition) : Bool :=
  match c.interpret ctx with
  | .ok v => v.isTruthy
  | .error _ => false

theorem truth_eq_true_iff {ctx : Context} {c : Condition} : truth ctx c = true ↔ IsTrue ctx c := by
  unfold truth IsTrue
  cases hc : c.interpret ctx with
  | error failure => simp
  | ok v =>
      have hv := not_congr (Value.isTruthy_eq_false_iff (v := v))
      rw [Bool.not_eq_false, not_or] at hv
      simpa using hv

theorem map_isTruthy {ctx : Context} {conditions : List Condition} {values : List Value}
    (h : List.Forall₂ (fun c v => c.interpret ctx = .ok v) conditions values) :
    values.map Value.isTruthy = conditions.map (truth ctx) := by
  induction h with
  | nil => rfl
  | cons hc _ ih => rw [List.map_cons, List.map_cons, ih, truth, hc]

/-- The verdict on an expression whose conditions all have a value. -/
def verdict (ctx : Context) (e : Expression) : Bool := Logic.verdict (e.connectives.zip (e.conditions.map (truth ctx)))

theorem Reads.verdict_eq {tokens : List Token} {e : Expression} (h : Reads tokens e) (ctx : Context) :
    e.verdict ctx = e.groups.any fun group => group.all (truth ctx) := by
  obtain ⟨c, conditions, connectives, rfl, -⟩ := h.shape
  have hverdict := Logic.verdict_eq_any_groups (truth ctx) c (connectives.zip conditions)
  rw [verdict, List.zip_map_right]
  exact hverdict

theorem Reads.conditions_ne_nil {tokens : List Token} {e : Expression} (h : Reads tokens e) : e.conditions ≠ [] := by
  obtain ⟨c, conditions, connectives, rfl, -⟩ := h.shape
  exact List.cons_ne_nil c conditions

theorem evaluateRecorded_verdict {tokens : List Token} {e : Expression} (h : Reads tokens e) {ctx : Context}
    (hall : ∀ c ∈ e.conditions, ∃ v, c.interpret ctx = .ok v) :
    e.evaluateRecorded ctx = (.ok (e.verdict ctx), e.conditions) := by
  obtain ⟨values, hvalues⟩ := Outcome.exists_forall₂_iff.2 hall
  rw [evaluateRecorded, Logic.evaluate_recorded_ok h.conditions_ne_nil h.length_eq
    (Outcome.mapM_eq_ok_iff.2 hvalues), map_isTruthy hvalues]
  rfl

theorem evaluateRecorded_ok {tokens : List Token} {e : Expression} (h : Reads tokens e) {ctx : Context}
    (hall : ∀ c ∈ e.conditions, ∃ v, c.interpret ctx = .ok v) :
    e.evaluateRecorded ctx = (.ok (e.groups.any fun group => group.all (truth ctx)), e.conditions) := by
  rw [evaluateRecorded_verdict h hall, h.verdict_eq]

/-- **The meaning of an expression that was read from a text.**  Recording leaves the outcome as it is.  When all
conditions have a value, all are interpreted in order, and the expression is true exactly when all conditions of
some group are.  Otherwise the first failure is the outcome, and nothing is interpreted after it. -/
theorem evaluate_iff_groups {tag t : Text} {e : Expression} (h : parse tag t = .ok e) (ctx : Context) :
    (e.evaluateRecorded ctx).1 = e.evaluate ctx ∧
    ((∀ c ∈ e.conditions, ∃ v, c.interpret ctx = .ok v) → ∃ verdict,
      e.evaluateRecorded ctx = (.ok verdict, e.conditions) ∧
      (verdict = true ↔ ∃ group ∈ e.groups, ∀ c ∈ group, IsTrue ctx c)) ∧
    ∀ before c after failure, e.conditions = before ++ c :: after →
      (∀ b ∈ before, ∃ v, b.interpret ctx = .ok v) → c.interpret ctx = .error failure →
      e.evaluateRecorded ctx = (.error failure, before ++ [c]) := by
  obtain ⟨tokens, -, hreads⟩ := parse_eq_ok_iff.1 h
  refine ⟨Logic.fst_evaluate_recorded [], ?_, ?_⟩
  · intro hall
    refine ⟨_, evaluateRecorded_ok hreads hall, ?_⟩
    simp only [List.any_eq_true, List.all_eq_true, truth_eq_true_iff]
  · intro before c after failure hconditions hbefore hc
    have hne : e.conditions ≠ [] := by simp [hconditions]
    exact Logic.evaluate_recorded_error hne hreads.length_eq hconditions hbefore hc []

/-- `a or b and c` where `b` and `c` have values: the second of its two groups decides. -/
theorem evaluate_iff_groups_a_or_b_and_c :
    let e : Expression := ⟨[⟨['a'], none⟩, ⟨['b'], none⟩, ⟨['c'], none⟩], [.and, .or, .and]⟩
    let ctx : Context := ⟨.single [(['b'], .int 0), (['c'], .text [])], .empty, {}⟩
    parse "unless".toList "a or b and c".toList = .ok e ∧
      e.evaluateRecorded ctx = (.ok true, e.conditions) := by
  intro e ctx
  have h : parse "unless".toList "a or b and c".toList = .ok e := Outcome.eq_ok_of_toOption (by decide +kernel)
  refine ⟨h, ?_⟩
  have hvalue : ∀ c ∈ e.conditions, ∃ v, c.interpret ctx = .ok v := by
    have hsome : ∀ c ∈ e.conditions, (c.interpret ctx).toOption.isSome = true := by decide +kernel
    intro c hc
    obtain ⟨v, hv⟩ := Option.isSome_iff_exists.1 (hsome c hc)
    exact ⟨v, Outcome.eq_ok_of_toOption hv⟩
  obtain ⟨verdict, hrun, hverdict⟩ := (evaluate_iff_groups h ctx).2.1 hvalue
  have htrue : verdict = true := by
    refine hverdict.2 ⟨[⟨['b'], none⟩, ⟨['c'], none⟩], by decide +kernel, ?_⟩
    have hall : ∀ c ∈ [(⟨['b'], none⟩ : Condition), ⟨['c'], none⟩], truth ctx c = true := by decide +kernel
    intro c hc
    exact truth_eq_true_iff.1 (hall c hc)
  rw [hrun, htrue]

end Expression
end Liquid
